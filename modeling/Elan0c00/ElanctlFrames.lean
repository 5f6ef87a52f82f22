import Elan0c00.Elanctl
import Elan0c00.Framing

/-! # The frames of the front-end

`Elanctl.Frames` lists, command by command, the requests an `elanctl` run may send in terms
of what the earlier ones returned, and `Elanctl.run_frames` says that every run keeps to it,
whatever the sensor and libusb answer. None of these requests is that of a persistent
command.
-/

namespace Elan0c00

open Interaction Bytes

/-- A frame attempted a number of times, each time but the last answered by an empty reply. -/
inductive Repeated (frame : List UInt8) : Nat → Trace → Prop where
  | once {trace : Trace} (single : trace.outFrames = [frame]) : Repeated frame 1 trace
  | again {count : Nat} {first rest : Trace} (single : first.outFrames = [frame])
      (empty : first.lastReply = some []) (later : Repeated frame count rest) :
      Repeated frame (count + 1) (first ++ rest)

/-- One to `maxRetries` attempts of a frame, repeated only after an empty reply. -/
def Query (frame : List UInt8) (trace : Trace) : Prop :=
  ∃ count, 1 ≤ count ∧ count ≤ Proto.maxRetries ∧ Repeated frame count trace

theorem Repeated.outFrames {frame : List UInt8} {count : Nat} {trace : Trace}
    (repeated : Repeated frame count trace) :
    trace.outFrames = List.replicate count frame := by
  induction repeated with
  | once single => exact single
  | again single _ _ ih =>
      rw [Trace.outFrames_append, single, ih, List.replicate_succ, List.singleton_append]

theorem Query.eq_of_mem {frame out : List UInt8} {trace : Trace} (query : Query frame trace)
    (attempted : out ∈ trace.outFrames) : out = frame := by
  obtain ⟨count, -, -, repeated⟩ := query
  rw [repeated.outFrames] at attempted
  exact List.eq_of_mem_replicate attempted

section Calls

variable {cmd : Cmd} {payload : List UInt8} {trace : Trace} {outcome : Except Error (List UInt8)}

/-- The retry loop asks again only after an empty reply. -/
theorem Retried.repeated {attempts : Nat}
    (allowed : EntryPoint.refusal .transceive cmd payload = none)
    (retried : Retried cmd payload attempts trace outcome) :
    (attempts = 0 ∧ trace = []) ∨ ∃ count, 1 ≤ count ∧ count ≤ attempts ∧
      Repeated (Proto.encode cmd payload) count trace := by
  induction retried with
  | exhausted => exact .inl ⟨rfl, rfl⟩
  | settled asked =>
      have once := Repeated.once (asked.outFrames allowed)
      exact .inr ⟨1, Nat.le_refl 1, Nat.le_add_left 1 _, once⟩
  | again empty _ ih =>
      have single := empty.outFrames allowed
      have unanswered := ((empty.eq_ok_iff allowed).mp rfl).1
      rcases ih with ⟨-, rfl⟩ | ⟨count, positive, bounded, repeated⟩
      · rw [List.append_nil]
        exact .inr ⟨1, Nat.le_refl 1, Nat.le_add_left 1 _, .once single⟩
      · exact .inr ⟨count + 1, Nat.le_add_left 1 count, Nat.succ_le_succ bounded,
          .again single unanswered repeated⟩

theorem Retried.query (allowed : EntryPoint.refusal .transceive cmd payload = none)
    (retried : Retried cmd payload Proto.maxRetries trace outcome) :
    Query (Proto.encode cmd payload) trace := by
  rcases retried.repeated allowed with ⟨none, -⟩ | query
  · exact absurd none (by decide)
  · exact query

theorem Exchange.transfers (exchange : Exchange cmd payload trace outcome) :
    trace.transfers = trace := by
  cases exchange <;> rfl

/-- A command prints nothing. -/
theorem Asked.transfers {entry : EntryPoint} (asked : Asked entry cmd payload trace outcome) :
    trace.transfers = trace := by
  cases asked with
  | refused => rfl
  | exchanged _ exchange => exact exchange.transfers

theorem Retried.transfers {attempts : Nat} (retried : Retried cmd payload attempts trace outcome) :
    trace.transfers = trace := by
  induction retried with
  | exhausted => rfl
  | settled asked => exact asked.transfers
  | again empty _ ih => rw [Trace.transfers_append, empty.transfers, ih]

/-- An untagged command that fits is never refused. -/
theorem EntryPoint.refusal_eq_none (entry : EntryPoint)
    (untagged : cmd.effect ≠ .persistent) (fits : Proto.Fits cmd payload) :
    entry.refusal cmd payload = none :=
  EntryPoint.refusal_eq_none_iff.mpr ⟨.inr untagged, fits⟩

/-- A command asked for once sends its frame once. -/
theorem Asked.single {entry : EntryPoint} (untagged : cmd.effect ≠ .persistent)
    (fits : Proto.Fits cmd payload) (asked : Asked entry cmd payload trace outcome) :
    trace.transfers = trace ∧ trace.outFrames = [Proto.encode cmd payload] :=
  ⟨asked.transfers, asked.outFrames (EntryPoint.refusal_eq_none entry untagged fits)⟩

end Calls

namespace Elanctl

variable {dev : ElanMoc2} {trace : Trace}

theorem enrolledCount_query {result : Except Fault (Except Error UInt8)}
    (run : dev.enrolledCount.run.Runs trace result) :
    trace.transfers = trace ∧ Query [0x40, 0xff, 0x04] trace := by
  obtain ⟨outcome, retried, -⟩ := runs_enrolledCount_iff.mp run
  exact ⟨retried.transfers, retried.query (EntryPoint.refusal_eq_none _ (by decide) (by decide))⟩

theorem fingerInfo_query {i : UInt8} {result : Except Fault (Except Error FingerInfo)}
    (run : (dev.fingerInfo i).run.Runs trace result) :
    trace.transfers = trace ∧ Query [0x40, 0xff, 0x12, i] trace := by
  obtain ⟨outcome, retried, -⟩ := runs_fingerInfo_iff.mp run
  have allowed : EntryPoint.refusal .transceive Proto.fingerInfo [i] = none :=
    EntryPoint.refusal_eq_none _ (by decide) (Proto.fits_fingerInfo i)
  exact ⟨retried.transfers, retried.query allowed⟩

/-- A command that is not gated and fits is sent once. -/
theorem perform_single (dev : ElanMoc2) (entry : EntryPoint) {cmd : Cmd} {payload : List UInt8}
    {result : Except Fault (Except Error (List UInt8))} (untagged : cmd.effect ≠ .persistent)
    (fits : Proto.Fits cmd payload) (run : (entry.perform dev cmd payload).run.Runs trace result) :
    trace.transfers = trace ∧ trace.outFrames = [Proto.encode cmd payload] := by
  obtain ⟨outcome, asked, -⟩ := (EntryPoint.runs_perform_iff entry dev).mp run
  exact asked.single untagged fits

theorem firmwareVersion_single {result : Except Fault (Except Error FirmwareVersion)}
    (run : dev.firmwareVersion.run.Runs trace result) :
    trace.transfers = trace ∧ trace.outFrames = [[0x40, 0x19]] := by
  obtain ⟨outcome, asked, -⟩ := runs_firmwareVersion_iff.mp run
  exact asked.single (by decide) (by decide)

theorem abort_single {result : Except Fault (Except Error Unit)}
    (run : dev.abort.run.Runs trace result) :
    trace.transfers = trace ∧ trace.outFrames = [[0x40, 0xff, 0x02]] := by
  obtain ⟨outcome, asked, -⟩ := runs_abort_iff.mp run
  exact asked.single (by decide) (by decide)

/-! ### The requests of each command -/

/-- One query for each slot of a list, in order. -/
inductive SlotQueries : List UInt8 → Trace → Prop where
  | nil : SlotQueries [] []
  | cons {i : UInt8} {rest : List UInt8} {part later : Trace}
      (query : Query [0x40, 0xff, 0x12, i] part) (tail : SlotQueries rest later) :
      SlotQueries (i :: rest) (part ++ later)

/-- The slots `info` asks for once the count query returned. -/
def listedSlots : Except Error UInt8 → List UInt8
  | .ok count => slotsBelow (min count.toNat Proto.maxPrints)
  | .error _ => []

/-- What follows the reply to `identify`: the query of the slot it names, the abort when
there is an error instead of a reply, or nothing. -/
def AfterIdentify (reply : Except Error (List UInt8)) (after : Trace) : Prop :=
  match reply with
  | .ok (_ :: status :: _) =>
      if status &&& 0xF0 = 0 then Query [0x40, 0xff, 0x12, status] after else after = []
  | .ok _ => after = []
  | .error _ => after.outFrames = [[0x40, 0xff, 0x02]]

/-- What follows the count query of `identify`. -/
def AfterCount (dev : ElanMoc2) (count : Except Error UInt8) (rest : Trace) : Prop :=
  match count with
  | .ok count =>
      if count = 0 then rest = []
      else ∃ ident reply after, rest = ident ++ after ∧
        ident.outFrames = [[0x40, 0xff, 0x03]] ∧
        (dev.transceive Proto.identify []).run.Runs ident (.ok reply) ∧
        AfterIdentify reply after
  | .error _ => rest = []

/-- The requests of a command, in terms of what its queries returned. -/
def Frames (dev : ElanMoc2) (command : Command) (transfers : Trace) : Prop :=
  match command with
  | .info => ∃ fw cnt slots count, transfers = fw ++ (cnt ++ slots) ∧
      fw.outFrames = [[0x40, 0x19]] ∧ Query [0x40, 0xff, 0x04] cnt ∧
      dev.enrolledCount.run.Runs cnt (.ok count) ∧ SlotQueries (listedSlots count) slots
  | .identify => ∃ cnt rest count, transfers = cnt ++ rest ∧ Query [0x40, 0xff, 0x04] cnt ∧
      dev.enrolledCount.run.Runs cnt (.ok count) ∧ AfterCount dev count rest
  | .dump => transfers.outFrames = [0x40, 0x19] :: [0x40, 0xff, 0x04] ::
      (slotsBelow Proto.maxPrints).map fun i => [0x40, 0xff, 0x12, i]
  | .collision => transfers.outFrames = [[0x40, 0xff, 0x10]]

theorem ShownSlots.queries {slots : List UInt8} (shown : ShownSlots dev slots trace) :
    SlotQueries slots trace.transfers := by
  induction shown with
  | nil => exact .nil
  | cons asked _ ih =>
      obtain ⟨same, query⟩ := fingerInfo_query asked
      rw [Trace.transfers_append, same, Bus.transfers_printed]
      exact .cons query ih

theorem Listed.queries {count : Except Error UInt8} (listed : Listed dev count trace) :
    SlotQueries (listedSlots count) trace.transfers := by
  cases listed with
  | uncounted => exact .nil
  | empty => exact .nil
  | slots _ shown => exact shown.queries

theorem InfoRun.frames (run : InfoRun dev trace) : Frames dev .info trace.transfers := by
  cases run with
  | mk fwRun cntRun listed =>
      obtain ⟨fwSame, single⟩ := firmwareVersion_single fwRun
      obtain ⟨cntSame, query⟩ := enrolledCount_query cntRun
      refine ⟨_, _, _, _, ?_, single, query, cntRun, listed.queries⟩
      rw [Bus.transfers_printed, Trace.transfers_append, Bus.transfers_printed,
        Trace.transfers_append, fwSame, cntSame]

theorem transfers_map_printed (lines : List Line) :
    Trace.transfers (lines.map Bus.printed) = [] := by
  induction lines with
  | nil => rfl
  | cons line lines ih => exact ih

theorem DumpedSlots.outFrames {slots : List UInt8} (dumped : DumpedSlots dev slots trace) :
    trace.transfers.outFrames = slots.map fun i => [0x40, 0xff, 0x12, i] := by
  induction dumped with
  | nil => rfl
  | cons asked _ ih =>
      obtain ⟨same, single⟩ :=
        perform_single dev .transceiveRaw (by decide) (Proto.fits_fingerInfo _) asked
      rw [Trace.transfers_append, Trace.transfers_append, same, transfers_map_printed,
        List.nil_append, Trace.outFrames_append, single, ih]
      rfl

theorem DumpRun.frames (run : DumpRun dev trace) : Frames dev .dump trace.transfers := by
  cases run with
  | mk fwRun cntRun dumped =>
      obtain ⟨fwSame, version⟩ := perform_single dev .transceiveRaw (by decide) (by decide) fwRun
      obtain ⟨cntSame, count⟩ := perform_single dev .transceiveRaw (by decide) (by decide) cntRun
      change Trace.outFrames _ = _
      rw [Bus.transfers_printed, Trace.transfers_append, Bus.transfers_printed,
        Trace.transfers_append, Bus.transfers_printed, Bus.transfers_printed, fwSame, cntSame,
        Trace.outFrames_append, Trace.outFrames_append, version, count, dumped.outFrames]
      rfl

theorem CollisionRun.frames {known : Except Error Unit} (run : CollisionRun dev trace known) :
    Frames dev .collision trace.transfers := by
  cases run with
  | failed asked =>
      obtain ⟨same, single⟩ := perform_single dev .transceiveRaw (by decide) (by decide) asked
      change Trace.outFrames _ = _
      rw [Bus.transfers_printed, Bus.transfers_printed, same, single]
      rfl
  | replied asked =>
      obtain ⟨same, single⟩ := perform_single dev .transceiveRaw (by decide) (by decide) asked
      change Trace.outFrames _ = _
      rw [Bus.transfers_printed, Bus.transfers_printed, Trace.transfers_append,
        Bus.transfers_printed, transfers_map_printed, List.append_nil, same, single]
      rfl

theorem Matched.after {reply : Except Error (List UInt8)} (matched : Matched dev reply trace) :
    AfterIdentify reply trace.transfers := by
  cases matched with
  | slot ordinary asked =>
      obtain ⟨same, query⟩ := fingerInfo_query asked
      unfold AfterIdentify
      rw [Bus.transfers_printed, Trace.transfers_append, same]
      simp only [ordinary, ↓reduceIte]
      change Query _ (_ ++ [])
      rw [List.append_nil]
      exact query
  | refused failing =>
      unfold AfterIdentify
      simp only [failing, ↓reduceIte]
      rfl
  | short short =>
      unfold AfterIdentify
      split
      · rename_i same
        cases same
        exact absurd short (Nat.not_lt.mpr (Nat.le_add_left 2 _))
      · rfl
      · rename_i same
        exact nomatch same
  | failed aborted =>
      obtain ⟨same, single⟩ := abort_single aborted
      unfold AfterIdentify
      rw [Bus.transfers_printed, same]
      exact single

theorem IdentifyRun.frames {known : Except Error Unit} (run : IdentifyRun dev trace known) :
    Frames dev .identify trace.transfers := by
  cases run with
  | uncounted cntRun =>
      obtain ⟨same, query⟩ := enrolledCount_query cntRun
      rw [same]
      exact ⟨_, [], _, (List.append_nil _).symm, query, cntRun, rfl⟩
  | empty cntRun =>
      obtain ⟨same, query⟩ := enrolledCount_query cntRun
      rw [Trace.transfers_append, same]
      refine ⟨_, _, _, rfl, query, cntRun, ?_⟩
      unfold AfterCount
      simp only [↓reduceIte]
      rfl
  | waited nonzero cntRun identRun matched =>
      obtain ⟨same, query⟩ := enrolledCount_query cntRun
      obtain ⟨identSame, single⟩ := perform_single dev .transceive (by decide) (by decide) identRun
      rw [Trace.transfers_append, same, Bus.transfers_printed, Bus.transfers_printed,
        Trace.transfers_append, identSame]
      refine ⟨_, _, _, rfl, query, cntRun, ?_⟩
      unfold AfterCount
      simp only [nonzero, ↓reduceIte]
      exact ⟨_, _, _, rfl, single, identRun, matched.after⟩

theorem Described.frames {command : Command} (described : Described dev command trace) :
    Frames dev command trace.transfers := by
  cases command with
  | info => exact InfoRun.frames described
  | identify =>
      obtain ⟨known, run⟩ := described
      exact run.frames
  | dump => exact DumpRun.frames described
  | collision =>
      obtain ⟨known, run⟩ := described
      exact run.frames

/-! ### No persistent command -/

/-- A request for a slot is not that of a persistent command. -/
theorem not_persistentHeader_fingerInfo (i : UInt8) :
    ¬ Proto.PersistentHeader [0x40, 0xff, 0x12, i] := by
  rintro ⟨code, member, inside⟩
  have second := (List.cons_prefix_cons.mp (List.cons_prefix_cons.mp inside).2).2
  have same : code = 0x12 := (List.cons_prefix_cons.mp second).1
  rw [same] at member
  exact absurd member (by decide)

theorem SlotQueries.not_persistentHeader {slots : List UInt8} (queries : SlotQueries slots trace) :
    ∀ out ∈ trace.outFrames, ¬ Proto.PersistentHeader out := by
  induction queries with
  | nil => exact nofun
  | cons query _ ih =>
      intro out attempted
      rw [Trace.outFrames_append] at attempted
      rcases List.mem_append.mp attempted with inside | later
      · rw [query.eq_of_mem inside]
        exact not_persistentHeader_fingerInfo _
      · exact ih out later

theorem AfterIdentify.not_persistentHeader {reply : Except Error (List UInt8)}
    (after : AfterIdentify reply trace) :
    ∀ out ∈ trace.outFrames, ¬ Proto.PersistentHeader out := by
  intro out attempted
  unfold AfterIdentify at after
  split at after
  · split at after
    · rw [after.eq_of_mem attempted]
      exact not_persistentHeader_fingerInfo _
    · rw [after] at attempted
      exact nomatch attempted
  · rw [after] at attempted
    exact nomatch attempted
  · rw [after] at attempted
    rw [List.mem_singleton.mp attempted]
    decide

theorem AfterCount.not_persistentHeader {count : Except Error UInt8}
    (after : AfterCount dev count trace) :
    ∀ out ∈ trace.outFrames, ¬ Proto.PersistentHeader out := by
  intro out attempted
  unfold AfterCount at after
  split at after
  · split at after
    · rw [after] at attempted
      exact nomatch attempted
    · obtain ⟨ident, reply, rest, rfl, single, -, ended⟩ := after
      rw [Trace.outFrames_append, single] at attempted
      rcases List.mem_append.mp attempted with inside | later
      · rw [List.mem_singleton.mp inside]
        decide
      · exact ended.not_persistentHeader out later
  · rw [after] at attempted
    exact nomatch attempted

/-- None of the requests of the front-end is that of a persistent command. -/
theorem Frames.not_persistentHeader {command : Command} (frames : Frames dev command trace) :
    ∀ out ∈ trace.outFrames, ¬ Proto.PersistentHeader out := by
  intro out attempted
  cases command with
  | info =>
      obtain ⟨fw, cnt, slots, count, rfl, single, query, -, queries⟩ := frames
      rw [Trace.outFrames_append, Trace.outFrames_append, single] at attempted
      rcases List.mem_append.mp attempted with first | rest
      · rw [List.mem_singleton.mp first]
        decide
      · rcases List.mem_append.mp rest with second | third
        · rw [query.eq_of_mem second]
          decide
        · exact queries.not_persistentHeader out third
  | identify =>
      obtain ⟨cnt, rest, count, rfl, query, -, after⟩ := frames
      rw [Trace.outFrames_append] at attempted
      rcases List.mem_append.mp attempted with first | later
      · rw [query.eq_of_mem first]
        decide
      · exact after.not_persistentHeader out later
  | dump =>
      rw [frames] at attempted
      rcases List.mem_cons.mp attempted with rfl | rest
      · decide
      · rcases List.mem_cons.mp rest with rfl | slots
        · decide
        · obtain ⟨i, -, rfl⟩ := List.mem_map.mp slots
          exact not_persistentHeader_fingerInfo i
  | collision =>
      rw [frames] at attempted
      rw [List.mem_singleton.mp attempted]
      decide

/-- The first and the last line of a run are no transfers. -/
theorem frames_of_runs {command : Command} {result : Except Fault (Except Error ExitCode)}
    (run : (Elanctl.run command dev).run.Runs trace result) :
    Frames dev command trace.transfers := by
  obtain ⟨inner, last, rfl, described, ended⟩ := runs_run run
  have printed : Trace.transfers last = [] := by
    rcases ended with rfl | ⟨e, rfl⟩ <;> rfl
  rw [Bus.transfers_printed, Trace.transfers_append, printed, List.append_nil]
  exact described.frames

/-- **Frames of the front-end.** Whatever the sensor and libusb answer, a run of a command on
an opened sensor sends the requests of that command and none of a persistent one. -/
theorem run_frames (dev : ElanMoc2) (command : Command) (trace : Trace)
    (result : Except Fault (Except Error ExitCode))
    (run : (Elanctl.run command dev).run.Runs trace result) :
    Frames dev command trace.transfers ∧
      ∀ out ∈ trace.outFrames, ¬ Proto.PersistentHeader out := by
  have frames := frames_of_runs run
  rw [← Trace.outFrames_transfers]
  exact ⟨frames, frames.not_persistentHeader⟩

/-- `collision` on a sensor that does not take the request. -/
theorem run_frames_collision :
    Frames ⟨0x0c00, 0, true⟩ .collision
        (Trace.transfers [Bus.printed (.opened 0x0c00), Bus.printed .collisionHeader,
          Bus.printed .placeFingerIfWaiting, Bus.sendFailed [0x40, 0xff, 0x10] .timeout,
          Bus.printed (.failed (.usb .timeout))]) ∧
      ∀ out ∈ Trace.outFrames [Bus.printed (.opened 0x0c00), Bus.printed .collisionHeader,
          Bus.printed .placeFingerIfWaiting, Bus.sendFailed [0x40, 0xff, 0x10] .timeout,
          Bus.printed (.failed (.usb .timeout))], ¬ Proto.PersistentHeader out := by
  have asked : ((⟨0x0c00, 0, true⟩ : ElanMoc2).transceiveRaw Proto.checkEnrollCollision []).run.Runs
      [Bus.sendFailed [0x40, 0xff, 0x10] .timeout] (.ok (.error (.usb .timeout))) :=
    (EntryPoint.runs_perform_iff .transceiveRaw ⟨0x0c00, 0, true⟩).mpr
      ⟨_, .exchanged (by decide) (.sendFailed .timeout), rfl⟩
  have body : (cmdCollision ⟨0x0c00, 0, true⟩).run.Runs
      [Bus.printed .collisionHeader, Bus.printed .placeFingerIfWaiting,
        Bus.sendFailed [0x40, 0xff, 0x10] .timeout] (.ok (.error (.usb .timeout))) :=
    runs_println_bind_iff.mpr ⟨_, rfl, runs_println_bind_iff.mpr ⟨_, rfl,
      (transceiveRaw_safe _ _).runs_bind_iff.mpr (.inl ⟨_, asked, rfl⟩)⟩⟩
  have run : (Elanctl.run .collision ⟨0x0c00, 0, true⟩).run.Runs
      [Bus.printed (.opened 0x0c00), Bus.printed .collisionHeader,
        Bus.printed .placeFingerIfWaiting, Bus.sendFailed [0x40, 0xff, 0x10] .timeout,
        Bus.printed (.failed (.usb .timeout))] (.ok (.ok .failure)) := by
    refine runs_println_bind_iff.mpr ⟨_, rfl, ?_⟩
    refine (body_safe .collision).runs_outcome_bind_iff.mpr
      ⟨_, _, [Bus.printed (.failed (.usb .timeout))], rfl, body, ?_⟩
    exact runs_println_bind_iff.mpr ⟨[], rfl, Fallible.runs_pure_iff.mpr ⟨rfl, rfl⟩⟩
  exact run_frames ⟨0x0c00, 0, true⟩ .collision _ _ run

end Elanctl

end Elan0c00
