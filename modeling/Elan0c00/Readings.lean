import Elan0c00.ProbeMain

/-! # What the probe says it has read

Through its handle the probe reads languages, texts, the report descriptor and endpoints. What it
prints of them is what it has read, one after the other (`Probe.main_reports`): a monitor lets a
reading be shown right after it, and lets the probe listen only on the bulk IN endpoints of the
configuration it has read last, in their order.
-/

namespace Elan0c00.Probe

open Interaction Interaction.Fallible Bytes

/-- What is read through the handle; where the probe goes on after a failure, with the error. -/
inductive Reading where
  | languages (langs : List UInt16)
  | string (name : StringField) (text : Except UsbError String)
  | report (bytes : Except UsbError (List UInt8))
  | endpoint (ep : UInt8) (bytes : Except UsbError (List UInt8))
  deriving DecidableEq

def Reading.ep? : Reading → Option UInt8
  | .endpoint ep _ => some ep
  | _ => none

/-- What an event is in the report of the probe. -/
inductive Mark where
  | heard (reading : Reading)
  | shown (reading : Reading)
  | config (index : UInt8) (cfg : ConfigDescriptor)
  | other

/-- The reading that a line shows. -/
def shownBy : ProbeLine → Mark
  | .languages langs => .shown (.languages langs)
  | .string name text => .shown (.string name text)
  | .got bytes => .shown (.report (.ok bytes))
  | .controlError e => .shown (.report (.error e))
  | .heard ep bytes => .shown (.endpoint ep (.ok bytes))
  | .unheard ep e => .shown (.endpoint ep (.error e))
  | _ => .other

def languagesRead : Except UsbError (List UInt16) → Mark
  | .ok langs => .heard (.languages langs)
  | .error _ => .other

def configRead (index : UInt8) : Except UsbError ConfigDescriptor → Mark
  | .ok cfg => .config index cfg
  | .error _ => .other

def mark : Event SysAnswer → Mark
  | ⟨.readLanguages _ _, answer⟩ => languagesRead answer
  | ⟨.readString _ name _ _, text⟩ => .heard (.string name text)
  | ⟨.readControl _ _ _ _ _ _ _, answer⟩ => .heard (.report (Except.map Subtype.val answer))
  | ⟨.readBulk _ ep _ _, answer⟩ => .heard (.endpoint ep (Except.map Subtype.val answer))
  | ⟨.configDescriptor _ index, answer⟩ => configRead index answer
  | ⟨.print (.probe line), _⟩ => shownBy line
  | _ => .other

def Mark.heard? : Mark → Option Reading
  | .heard reading => some reading
  | _ => none

def Mark.shown? : Mark → Option Reading
  | .shown reading => some reading
  | _ => none

def Mark.config? : Mark → Option (UInt8 × ConfigDescriptor)
  | .config index cfg => some (index, cfg)
  | _ => none

/-- What has been read, in order. -/
def heard (trace : SysTrace) : List Reading := trace.filterMap fun event => (mark event).heard?

/-- What has been shown of it, in order. -/
def shown (trace : SysTrace) : List Reading := trace.filterMap fun event => (mark event).shown?

/-- The endpoints listened on, in order. -/
def listened (trace : SysTrace) : List UInt8 := (heard trace).filterMap Reading.ep?

/-- The configurations read, in order. -/
def configs (trace : SysTrace) : List (UInt8 × ConfigDescriptor) :=
  trace.filterMap fun event => (mark event).config?

/-- What the monitor remembers: the reading not shown yet, the configuration read last, and the
endpoints listened on. -/
structure Notes where
  waiting : Option Reading
  last : Option (UInt8 × ConfigDescriptor)
  listened : List UInt8

namespace Notes

def start : Notes := ⟨none, none, []⟩

/-- The endpoint to listen on next. -/
def due (notes : Notes) : Option UInt8 :=
  notes.last.bind fun (index, cfg) =>
    if index = 0 then (inEps cfg)[notes.listened.length]? else none

def next (notes : Notes) : Mark → Option Notes
  | .heard reading =>
      if notes.waiting = none ∧ (reading.ep? = none ∨ reading.ep? = notes.due) then
        some { notes with
          waiting := some reading
          listened := notes.listened ++ reading.ep?.toList }
      else none
  | .shown reading =>
      if notes.waiting = some reading then some { notes with waiting := none } else none
  | .config index cfg =>
      if notes.listened = [] then some { notes with last := some (index, cfg) } else none
  | .other => some notes

end Notes

/-- What is read is shown before anything else is read. -/
def reporting : Monitor (Event SysAnswer) Notes := fun notes event => notes.next (mark event)

section Trace

variable {trace : SysTrace} {event : Event SysAnswer} {notes after : Notes}

/-- What the notes say of the events seen. -/
structure Kept (trace : SysTrace) (notes : Notes) : Prop where
  shown : heard trace = shown trace ++ notes.waiting.toList
  last : notes.last = (configs trace).getLast?
  listened : notes.listened = listened trace
  inOrder : notes.listened = [] ∨
    ∃ cfg, notes.last = some (0, cfg) ∧ notes.listened <+: inEps cfg

theorem due_eq_some_iff {ep : UInt8} : notes.due = some ep ↔
    ∃ cfg, notes.last = some (0, cfg) ∧ (inEps cfg)[notes.listened.length]? = some ep := by
  unfold Notes.due
  rw [Option.bind_eq_some_iff]
  constructor
  · rintro ⟨⟨index, cfg⟩, last, taken⟩
    obtain ⟨rfl, next⟩ := Option.ite_none_right_eq_some.mp taken
    exact ⟨cfg, last, next⟩
  · rintro ⟨cfg, last, next⟩
    exact ⟨(0, cfg), last, Option.ite_none_right_eq_some.mpr ⟨rfl, next⟩⟩

private theorem filterMap_concat {α β : Type} (f : α → Option β) (items : List α) (item : α) :
    (items ++ [item]).filterMap f = items.filterMap f ++ (f item).toList := by
  rw [List.filterMap_append]
  cases known : f item <;> simp [known]

theorem heard_concat : heard (trace ++ [event]) = heard trace ++ (mark event).heard?.toList :=
  filterMap_concat ..

theorem shown_concat : shown (trace ++ [event]) = shown trace ++ (mark event).shown?.toList :=
  filterMap_concat ..

theorem configs_concat :
    configs (trace ++ [event]) = configs trace ++ (mark event).config?.toList :=
  filterMap_concat ..

theorem listened_concat : listened (trace ++ [event]) =
    listened trace ++ ((mark event).heard?.bind Reading.ep?).toList := by
  unfold listened
  rw [heard_concat, List.filterMap_append]
  cases (mark event).heard? with
  | none => rfl
  | some reading => cases known : reading.ep? <;> simp [known]

/-- The next endpoint is listened on. -/
theorem inOrder_concat {ep : UInt8} (due : notes.due = some ep)
    (inOrder : notes.listened = [] ∨
      ∃ cfg, notes.last = some (0, cfg) ∧ notes.listened <+: inEps cfg) :
    ∃ cfg, notes.last = some (0, cfg) ∧ notes.listened ++ [ep] <+: inEps cfg := by
  obtain ⟨cfg, last, next⟩ := due_eq_some_iff.mp due
  have begun : notes.listened <+: inEps cfg := by
    rcases inOrder with none | ⟨cfg', last', begun⟩
    · rw [none]
      exact List.nil_prefix
    · obtain rfl : cfg' = cfg := by simpa [last] using last'.symm
      exact begun
  obtain ⟨rest, same⟩ := begun
  refine ⟨cfg, last, ?_⟩
  rw [← same, List.getElem?_append_right (Nat.le_refl _), Nat.sub_self] at next
  obtain ⟨tail, rfl⟩ : ∃ tail, rest = ep :: tail := by
    cases rest with
    | nil => cases next
    | cons other tail => exact ⟨tail, by rw [Option.some.inj next]⟩
  exact ⟨tail, by rw [← same, List.append_assoc]; rfl⟩

theorem Kept.step (kept : Kept trace notes) (accepted : notes.next (mark event) = some after) :
    Kept (trace ++ [event]) after := by
  cases meant : mark event with
  | other =>
      rw [meant] at accepted
      cases accepted
      constructor
      · simp [heard_concat, shown_concat, meant, Mark.heard?, Mark.shown?, kept.shown]
      · simp [configs_concat, meant, Mark.config?, kept.last]
      · simp [listened_concat, meant, Mark.heard?, kept.listened]
      · exact kept.inOrder
  | config index cfg =>
      rw [meant] at accepted
      obtain ⟨none, same⟩ := Option.ite_none_right_eq_some.mp accepted
      cases same
      constructor
      · simp [heard_concat, shown_concat, meant, Mark.heard?, Mark.shown?, kept.shown]
      · simp [configs_concat, meant, Mark.config?]
      · simp [listened_concat, meant, Mark.heard?, kept.listened]
      · exact .inl none
  | shown reading =>
      rw [meant] at accepted
      obtain ⟨waiting, same⟩ := Option.ite_none_right_eq_some.mp accepted
      cases same
      constructor
      · simp [heard_concat, shown_concat, meant, Mark.heard?, Mark.shown?, kept.shown, waiting]
      · simp [configs_concat, meant, Mark.config?, kept.last]
      · simp [listened_concat, meant, Mark.heard?, kept.listened]
      · exact kept.inOrder
  | heard reading =>
      rw [meant] at accepted
      obtain ⟨⟨waiting, allowed⟩, same⟩ := Option.ite_none_right_eq_some.mp accepted
      cases same
      constructor
      · simp [heard_concat, shown_concat, meant, Mark.heard?, Mark.shown?, kept.shown, waiting]
      · simp [configs_concat, meant, Mark.config?, kept.last]
      · simp [listened_concat, meant, Mark.heard?, kept.listened]
      · cases known : reading.ep? with
        | none =>
            change notes.listened ++ [] = [] ∨ ∃ cfg, _ ∧ notes.listened ++ [] <+: _
            rw [List.append_nil]
            exact kept.inOrder
        | some ep =>
            rw [known] at allowed
            exact .inr (inOrder_concat (allowed.resolve_left (by rintro ⟨⟩)).symm kept.inOrder)

/-- What the monitor has accepted is as its notes say. -/
theorem kept_of_watch (accepted : reporting.watch Notes.start trace = some notes) :
    Kept trace notes := by
  induction trace using List.reverseRecOn generalizing notes with
  | nil =>
      cases accepted
      exact ⟨rfl, rfl, rfl, .inl rfl⟩
  | append_singleton earlier event ih =>
      obtain ⟨middle, head, step⟩ := Monitor.watch_append_iff.mp accepted
      obtain ⟨_, step, ended⟩ := Monitor.watch_cons_iff.mp step
      cases ended
      exact (ih head).step step

end Trace

/-! ### The parts of the probe -/

section Parts

variable {α β : Type} {notes : Notes} {handle : DeviceHandle} {dev : UsbDevice}
  {failed : ProbeError → Notes → Prop}

/-- Everything read is shown, and no endpoint has been listened on. -/
def Early (notes : Notes) : Prop := notes.waiting = none ∧ notes.listened = []

/-- Everything read is shown, and the bulk IN endpoints of configuration 0 were listened on. -/
def Complete (notes : Notes) : Prop :=
  notes.waiting = none ∧ ∃ cfg, notes.last = some (0, cfg) ∧ notes.listened = inEps cfg

theorem early_request {op : SysRequest} {read : SysAnswer op → Except ProbeError α}
    (other : ∀ answer, mark ⟨op, answer⟩ = .other) :
    Preserves reporting Early (Fallible.request op read : ProbeM α) := by
  refine preserves_request fun before early answer => ⟨before, ?_, early⟩
  unfold reporting
  rw [other]
  rfl

theorem early_print {line : ProbeLine} (plain : Plain line) :
    Preserves reporting Early (print line) := by
  refine early_request fun _ => ?_
  change shownBy line = .other
  cases line <;> first | rfl | cases plain

/-- A request whose answer is to be shown. -/
theorem meets_hear {op : SysRequest} {read : SysAnswer op → α} {reading : α → Reading}
    (hears : ∀ answer, mark ⟨op, answer⟩ = .heard (reading (read answer)))
    (shown : notes.waiting = none)
    (allowed : ∀ value, (reading value).ep? = none ∨ (reading value).ep? = notes.due) :
    Meets reporting notes (Fallible.request op (fun answer => .ok (read answer)) : ProbeM α) failed
      fun value after => after = { notes with
        waiting := some (reading value)
        listened := notes.listened ++ (reading value).ep?.toList } := by
  refine meets_request fun answer => ⟨_, ?_, rfl⟩
  unfold reporting
  rw [hears]
  exact if_pos ⟨shown, allowed _⟩

/-- The line that shows it. -/
theorem meets_show {line : ProbeLine} {reading : Reading} (shows : shownBy line = .shown reading)
    (waiting : notes.waiting = some reading) :
    Meets reporting notes (print line) failed
      fun _ after => after = { notes with waiting := none } := by
  refine meets_request fun _ => ⟨_, ?_, rfl⟩
  change notes.next (shownBy line) = _
  rw [shows]
  exact if_pos waiting

/-- Before an endpoint is listened on, a configuration may be read. -/
theorem meets_configDescriptor (early : Early notes) (ci : UInt8) :
    Meets reporting notes (configDescriptor dev ci) (fun _ => Early)
      fun cfg after => after = { notes with last := some (ci, cfg) } := by
  refine meets_request fun answer => ?_
  cases answer with
  | error e => exact ⟨notes, rfl, early⟩
  | ok cfg => exact ⟨_, if_pos early.2, rfl⟩

theorem early_showConfig (ci : UInt8) : Preserves reporting Early (showConfig dev ci) := by
  intro notes early
  refine (meets_configDescriptor early ci).bind ?_
  rintro cfg _ rfl
  refine Preserves.bind (early_print (by trivial)) (fun _ => ?_) _ early
  exact preserves_forM fun _ _ => preserves_forM fun alt _ => preserves_showSetting (fun _ => early_print) alt

theorem early_showString (dd : FullDescriptor) (lang : UInt16) (name : StringField) :
    Preserves reporting Early (showString handle dd lang name) := by
  unfold showString
  split
  · rintro notes ⟨shown, fresh⟩
    refine (@meets_hear (Except UsbError String) _ _ (.readString handle name lang timeout) id
      (.string name) (fun _ => rfl) shown fun _ => .inl rfl).bind ?_
    rintro text _ rfl
    refine (meets_show rfl rfl).mono (fun _ _ => id) ?_
    rintro _ _ rfl
    exact ⟨rfl, by simp [Reading.ep?, fresh]⟩
  · exact early_print (by trivial)

theorem early_showStrings (dd : FullDescriptor) (langs : List UInt16) :
    Preserves reporting Early (showStrings handle dd langs) := by
  cases langs with
  | nil => exact preserves_pure ()
  | cons lang rest => exact preserves_forM fun name _ => early_showString dd lang name

theorem early_showReport (iface : UInt8) : Preserves reporting Early (showReport handle iface) := by
  rintro notes ⟨shown, fresh⟩
  refine (@meets_hear (Except UsbError (List UInt8)) _ _
    (.readControl handle requestType reqGetDescriptor (descHidReport <<< 8) iface.toUInt16 256
      timeout) (Except.map Subtype.val) .report (fun _ => rfl) shown fun _ => .inl rfl).bind ?_
  rintro answer _ rfl
  cases answer with
  | error e =>
      refine (meets_show rfl rfl).mono (fun _ _ => id) ?_
      rintro _ _ rfl
      exact ⟨rfl, by simp [Reading.ep?, fresh]⟩
  | ok bytes =>
      obtain ⟨items, decoded, -⟩ := decodeReportFrom_items bytes 0
      refine (meets_show rfl rfl).bind ?_
      rintro _ _ rfl
      refine (preserves_check ⟨items, decoded⟩).bind (fun items => ?_) _
        ⟨rfl, by simp [Reading.ep?, fresh]⟩
      exact preserves_forM fun _ _ => early_print (by trivial)

theorem early_find (devs : List UsbDevice) : Preserves reporting Early (find devs) := by
  induction devs with
  | nil => exact preserves_settle (.error ProbeError.notFound)
  | cons dev rest ih =>
      refine (early_request fun _ => rfl).bind fun dd => ?_
      split
      · exact preserves_pure dev
      · exact ih

/-- The endpoint that is due is listened on. -/
theorem meets_listen {ep : UInt8} (shown : notes.waiting = none) (due : notes.due = some ep) :
    Meets reporting notes (listen handle ep) failed
      fun _ after => after = { notes with listened := notes.listened ++ [ep] } := by
  refine (@meets_hear (Except UsbError (List UInt8)) _ _ (.readBulk handle ep 64 300)
    (Except.map Subtype.val) (.endpoint ep) (fun _ => rfl) shown fun _ => .inr due.symm).bind ?_
  rintro answer _ rfl
  have restored : ∀ after : Notes, after = { notes with
        waiting := none
        listened := notes.listened ++ [ep] } →
      after = { notes with listened := notes.listened ++ [ep] } := by
    rintro _ rfl
    rw [shown]
  cases answer with
  | error e => exact (meets_show rfl rfl).mono (fun _ _ => id) fun _ => restored
  | ok bytes => exact (meets_show rfl rfl).mono (fun _ _ => id) fun _ => restored

/-- The rest of the endpoints, in their order. -/
theorem meets_listens {cfg : ConfigDescriptor} {eps : List UInt8} (shown : notes.waiting = none)
    (last : notes.last = some (0, cfg)) (left : inEps cfg = notes.listened ++ eps) :
    Meets reporting notes (eps.forM (listen handle)) failed
      fun _ after => after = { notes with listened := inEps cfg } := by
  induction eps generalizing notes with
  | nil =>
      rw [List.append_nil] at left
      exact meets_pure (by rw [left])
  | cons ep eps ih =>
      have due : notes.due = some ep :=
        due_eq_some_iff.mpr ⟨cfg, last, by
          rw [left, List.getElem?_append_right (Nat.le_refl _), Nat.sub_self]
          rfl⟩
      refine (meets_listen shown due).bind ?_
      rintro _ _ rfl
      exact @ih { notes with listened := notes.listened ++ [ep] } shown last
        (left.trans (List.append_cons ..))

theorem reported {program : ProbeM α} (preserves : Preserves reporting Early program)
    (early : Early notes) :
    Meets reporting notes program (fun _ after => after.waiting = none) fun _ => Early :=
  (preserves notes early).mono (fun _ _ => And.left) fun _ _ => id

theorem reports_claimedSession (early : Early notes) :
    Meets reporting notes (claimedSession dev handle 0) (fun _ after => after.waiting = none)
      fun _ => Complete := by
  refine (reported (early_print (by trivial)) early).bind fun _ _ early => ?_
  refine (reported (early_print (by trivial)) early).bind fun _ _ early => ?_
  refine (reported (early_showReport 0) early).bind fun _ _ early => ?_
  refine (reported (early_print (by trivial)) early).bind ?_
  rintro _ notes ⟨shown, fresh⟩
  refine Meets.bind ((meets_configDescriptor ⟨shown, fresh⟩ 0).mono (fun _ _ => And.left)
    fun _ _ => id) ?_
  rintro cfg _ rfl
  have left : inEps cfg = notes.listened ++ inEps cfg := by rw [fresh]; rfl
  refine (@meets_listens { notes with last := some (0, cfg) } handle
    (fun _ after => after.waiting = none) cfg (inEps cfg) shown rfl left).bind ?_
  rintro _ _ rfl
  have done : Complete { notes with last := some (0, cfg), listened := inEps cfg } :=
    ⟨shown, cfg, rfl, rfl⟩
  have released : Meets reporting { notes with last := some (0, cfg), listened := inEps cfg }
      (releaseInterface handle 0) (fun _ after => after.waiting = none) fun _ => Complete := by
    refine meets_request fun answer => ⟨_, rfl, ?_⟩
    cases answer with
    | error e => exact shown
    | ok _ => exact done
  exact released.bind fun _ _ complete => meets_request fun _ => ⟨_, rfl, complete⟩

/-- A list of languages that is read is shown, and one that is not ends the session. -/
theorem reports_session (dd : FullDescriptor) (early : Early notes) :
    Meets reporting notes (session dev dd handle) (fun _ after => after.waiting = none)
      fun _ => Complete := by
  refine (reported (early_print (by trivial)) early).bind ?_
  rintro _ notes ⟨shown, fresh⟩
  have languages : Meets reporting notes (readLanguages handle)
      (fun _ after => after.waiting = none)
      fun langs after => after = { notes with waiting := some (.languages langs) } := by
    refine meets_request fun answer => ?_
    cases answer with
    | error e => exact ⟨notes, rfl, shown⟩
    | ok langs =>
        refine ⟨_, if_pos ⟨shown, .inl rfl⟩, ?_⟩
        exact congrArg _ (List.append_nil _)
  refine languages.bind ?_
  rintro langs _ rfl
  refine (meets_show rfl rfl).bind ?_
  rintro _ _ rfl
  have early : Early { notes with waiting := none } := ⟨rfl, fresh⟩
  refine (reported (early_showStrings dd langs) early).bind fun _ _ early => ?_
  refine (reported (early_request fun _ => rfl) early).bind fun answer _ early => ?_
  refine (reported (early_print ?_) early).bind fun _ _ early => ?_
  · rcases answer with e | _ | _ <;> trivial
  refine (reported (early_request fun _ => rfl) early).bind fun _ _ early => ?_
  exact reports_claimedSession early

/-- **The report of the probe.** -/
theorem reports_main : Meets reporting Notes.start main (fun _ after => after.waiting = none)
    fun _ => Complete := by
  have early : Early Notes.start := ⟨rfl, rfl⟩
  refine (reported (early_request fun _ => rfl) early).bind fun ctx _ early => ?_
  refine (reported (early_request fun _ => rfl) early).bind fun devs _ early => ?_
  refine (reported (early_find devs) early).bind fun dev _ early => ?_
  refine (reported (early_request fun _ => rfl) early).bind fun answer _ early => ?_
  refine (reported (preserves_settle _) early).bind fun dd _ early => ?_
  refine (reported (preserves_showDevice (fun _ => early_print) (early_request fun _ => rfl) dd) early).bind fun _ _ early => ?_
  refine (reported (preserves_forM fun ci _ => early_showConfig ci) early).bind
    fun _ _ early => ?_
  refine (reported (early_print (by trivial)) early).bind fun _ _ early => ?_
  refine (reported (early_request fun _ => rfl) early).bind fun opened _ early => ?_
  cases opened with
  | ok handle =>
      refine (reports_session dd early).ensuring ?_ ?_
      · exact fun _ _ shown => meets_request fun _ => ⟨_, rfl, shown⟩
      · exact fun _ _ complete => meets_request fun _ => ⟨_, rfl, complete⟩
  | error e =>
      refine (reported (early_print (by trivial)) early).bind fun _ _ early => ?_
      exact meets_throw early.1

end Parts

/-! ### The report -/

/-- **The probe reports what it reads.** At any time of a run, killed or not, what it has read
through the handle is what it has shown, in this order, but for the last reading at most, and it
has listened on the first bulk IN endpoints of configuration 0 as it read it last. When it ends
everything read is shown; when it ends well, each of these endpoints was listened on once. -/
theorem main_reports {done rest : SysTrace} {result : Except Fault (Except ProbeError Unit)}
    (run : main.run.Runs (done ++ rest) result) :
    (heard done = shown done ∨ ∃ reading, heard done = shown done ++ [reading]) ∧
      (listened done = [] ∨
        ∃ cfg, (configs done).getLast? = some (0, cfg) ∧ listened done <+: inEps cfg) ∧
      (rest = [] → heard done = shown done) ∧
      (rest = [] → result = .ok (.ok ()) →
        ∃ cfg, (configs done).getLast? = some (0, cfg) ∧ listened done = inEps cfg) := by
  obtain ⟨known, last, rfl, accepted, ended⟩ := reports_main _ _ run
  obtain ⟨notes, head, tail⟩ := Monitor.watch_append_iff.mp accepted
  have kept := kept_of_watch head
  have shows := kept.shown
  have listens := kept.inOrder
  rw [kept.listened, kept.last] at listens
  refine ⟨?_, listens, ?_, ?_⟩
  · cases waiting : notes.waiting with
    | none =>
        rw [waiting] at shows
        exact .inl (shows.trans (List.append_nil _))
    | some reading =>
        rw [waiting] at shows
        exact .inr ⟨reading, shows⟩
  · rintro rfl
    rw [← Option.some.inj tail] at ended
    have finished : notes.waiting = none := by
      cases known with
      | error e => exact ended
      | ok value => exact ended.1
    rw [finished] at shows
    exact shows.trans (List.append_nil _)
  · rintro rfl same
    rw [← Option.some.inj tail] at ended
    cases same
    obtain ⟨-, cfg, last, listened⟩ := ended
    rw [kept.last] at last
    rw [kept.listened] at listened
    exact ⟨cfg, last, listened⟩

/-- A configuration with one bulk IN endpoint. -/
def oneEndpoint : ConfigDescriptor where
  number := 1
  numInterfaces := 1
  maxPower := 100
  selfPowered := false
  interfaces := [[⟨0, 0, 0xff, 0, 0, 1, [], [⟨0x83, .in, .bulk, 64, 1⟩]⟩]]

/-- A probe that was killed before it could say what it heard. -/
def unsaid : SysTrace :=
  bareShown ++
    [⟨.usb (.openDevice ⟨0⟩), (.ok ⟨⟨⟨0⟩, 0⟩, rfl⟩ :
        Except UsbError {handle : DeviceHandle // handle.device = ⟨0⟩})⟩,
      Sys.printed (.probe .openedOk),
      ⟨.readLanguages ⟨⟨0⟩, 0⟩ 1000, (.ok [0x0409] : Except UsbError (List UInt16))⟩,
      Sys.printed (.probe (.languages [0x0409])),
      Sys.printed (.probe (.stringNone .iManufacturer)),
      Sys.printed (.probe (.stringNone .iProduct)),
      Sys.printed (.probe (.stringNone .iSerialNumber)),
      ⟨.usb (.kernelDriverActive ⟨⟨0⟩, 0⟩ 0), (.ok false : Except UsbError Bool)⟩,
      Sys.printed (.probe (.noDriver 0)),
      ⟨.usb (.claimInterface ⟨⟨0⟩, 0⟩ 0), (.ok () : Except UsbError Unit)⟩,
      Sys.printed (.probe (.claimed 0)), Sys.printed (.probe .reportDescriptor),
      ⟨.readControl ⟨⟨0⟩, 0⟩ requestType 0x06 0x2200 0 256 1000,
        (.error .pipe : Except UsbError {bytes : List UInt8 // bytes.length ≤ 256})⟩,
      Sys.printed (.probe (.controlError .pipe)), Sys.printed (.probe .passive),
      ⟨.configDescriptor ⟨0⟩ 0, (.ok oneEndpoint : Except UsbError ConfigDescriptor)⟩,
      ⟨.readBulk ⟨⟨0⟩, 0⟩ 0x83 64 300,
        (.error .timeout : Except UsbError {bytes : List UInt8 // bytes.length ≤ 64})⟩]

theorem main_reports_unsaid :
    (heard unsaid = shown unsaid ∨ ∃ reading, heard unsaid = shown unsaid ++ [reading]) ∧
      (listened unsaid = [] ∨
        ∃ cfg, (configs unsaid).getLast? = some (0, cfg) ∧ listened unsaid <+: inEps cfg) := by
  have run : main.run.Runs (unsaid ++
      [Sys.printed (.probe (.unheard 0x83 .timeout)),
        ⟨.usb (.releaseInterface ⟨⟨0⟩, 0⟩ 0), (.ok () : Except UsbError Unit)⟩,
        Sys.printed (.probe .done), ⟨.usb (.close ⟨⟨0⟩, 0⟩), ()⟩]) (.ok (.ok ())) := by
    repeat constructor
  obtain ⟨shows, listens, -, -⟩ := main_reports run
  exact ⟨shows, listens⟩

end Elan0c00.Probe
