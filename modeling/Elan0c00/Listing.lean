import Elan0c00.Display
import Elan0c00.Sensor
import Mathlib.Data.Fintype.Fin
import Mathlib.Logic.Function.Basic
import Mathlib.Logic.Relation

/-! # What `info` lists

The slots `info` prints are below the count and the sensor shows them so (`Sensor.shown_of_info`);
none is missing without an error (`Sensor.info_of_shown`). On a sensor that answers every query the
slot lines are what `finger_info` shows for the slots below the count (`Sensor.info_slot_iff`).
They are the occupied slots and what is stored there exactly when no occupied slot lies beyond the
count and the sensor shows the slot it is asked for, or happens to show the right user id
(`Sensor.info_lists_iff`). A deleted lower slot hides a stored print (`Sensor.gap_not_listed`).
-/

namespace Elan0c00.Sensor

open Interaction Bytes

/-- A sensor that answers every query, over transfers that do not fail. -/
def ideal (honoursSlot : Bool) : Conduct := ⟨honoursSlot, false, false⟩

section Runs

variable {dev : ElanMoc2} {conduct : Conduct} {honoursSlot : Bool} {before after : Sensor dev.pid}
  {trace : Trace}

/-- The line about a slot is what the sensor shows for it, or an error if the sensor stalls or a
transfer fails. -/
def Tells (conduct : Conduct) {pid : UInt16} (sensor : Sensor pid) (i : UInt8) (line : Line) :
    Prop :=
  line = Elanctl.slotLine i (sensor.report conduct i) ∨
    (∃ e, line = .slotError i e) ∧ (conduct.stalls = true ∨ conduct.failures = true)

theorem SameStore.tells_eq {pid : UInt16} {first second : Sensor pid}
    (same : SameStore first second) : first.Tells conduct = second.Tells conduct := by
  funext i line
  unfold Tells report
  rw [same.shown_eq]

theorem tells_of_run {i : UInt8} {known : Except Error FingerInfo}
    (run : (dev.fingerInfo i).run.Runs trace (.ok known))
    (path : Path (environment dev.pid conduct) before trace after) :
    before.Tells conduct i (Elanctl.slotLine i known) := by
  rcases fingerInfo_answers run path with right | ⟨⟨e, rfl⟩, excuse⟩
  · exact .inl (congrArg _ right)
  · exact .inr ⟨⟨e, rfl⟩, excuse⟩

/-- Each slot has its line, and there are no others. -/
structure Told (conduct : Conduct) {pid : UInt16} (sensor : Sensor pid) (slots : List UInt8)
    (lines : List Line) : Prop where
  only : ∀ line ∈ lines, ∃ i ∈ slots, sensor.Tells conduct i line
  all : ∀ i ∈ slots, ∃ line ∈ lines, sensor.Tells conduct i line

/-- The slot loop prints a line for each slot. -/
theorem shownSlots_told {slots : List UInt8} (shown : Elanctl.ShownSlots dev slots trace)
    (path : Path (environment dev.pid conduct) before trace after) :
    before.Told conduct slots trace.lines := by
  induction shown generalizing before with
  | nil => exact ⟨List.forall_mem_nil _, List.forall_mem_nil _⟩
  | @cons i rest part later known asked tail ih =>
      obtain ⟨middle, head, last⟩ := Path.append_iff.mp path
      rw [path_printed_iff] at last
      obtain ⟨transfers, query⟩ := Elanctl.fingerInfo_query asked
      obtain ⟨slots, identified, -⟩ := query_frame query
        (Elanctl.not_persistentHeader_fingerInfo i) nofun head
      have same : SameStore middle before := ⟨slots, identified⟩
      have here := tells_of_run asked head
      obtain ⟨only, all⟩ := ih last
      rw [same.tells_eq] at only all
      rw [Trace.lines_append, Trace.lines_eq_nil transfers, Bus.lines_printed, List.nil_append]
      refine ⟨List.forall_mem_cons.mpr ⟨⟨i, List.mem_cons_self, here⟩, fun line printed => ?_⟩,
        List.forall_mem_cons.mpr ⟨⟨_, List.mem_cons_self, here⟩, fun slot asked => ?_⟩⟩
      · obtain ⟨slot, asked, told⟩ := only line printed
        exact ⟨slot, List.mem_cons_of_mem i asked, told⟩
      · obtain ⟨line, printed, told⟩ := all slot asked
        exact ⟨line, List.mem_cons_of_mem _ printed, told⟩

/-- The line is about a slot. -/
def AboutSlot : Line → Prop
  | .slot _ _ _ => True
  | .slotError _ _ => True
  | _ => False

/-- The lines about slots, by what is printed before them: those of the slots below the count, and
none if the count is not known. -/
inductive SlotLines (conduct : Conduct) {pid : UInt16} (sensor : Sensor pid) (front : List Line) :
    List Line → Prop where
  | counted {lines : List Line}
      (told : sensor.Told conduct (Elanctl.slotsBelow sensor.count) lines) :
      SlotLines conduct sensor front lines
  | uncounted (e : Error) (printed : .enrolledCountError e ∈ front)
      (excuse : conduct.stalls = true ∨ conduct.failures = true) : SlotLines conduct sensor front []

theorem toNat_count (sensor : Sensor dev.pid) :
    (UInt8.ofNat sensor.count).toNat = sensor.count :=
  UInt8.toNat_ofNat_of_lt' (Nat.lt_of_le_of_lt sensor.count_le (by decide))

theorem ofNat_count_eq_zero {sensor : Sensor dev.pid} (zero : UInt8.ofNat sensor.count = 0) :
    sensor.count = 0 := by
  rw [← toNat_count sensor, zero]
  rfl

/-- After the count, two lines and then one for each slot below the count. -/
theorem listed_lines {known : Except Error UInt8} (listed : Elanctl.Listed dev known trace)
    (counted : known = .ok (UInt8.ofNat before.count) ∨
      (∃ e, known = .error e) ∧ (conduct.stalls = true ∨ conduct.failures = true))
    (path : Path (environment dev.pid conduct) before trace after) :
    ∃ front slots, trace.lines = front ++ slots ∧ before.SlotLines conduct front slots ∧
      ∀ line ∈ front, ¬ AboutSlot line := by
  cases listed with
  | uncounted e =>
      rcases counted with right | ⟨-, excuse⟩
      · cases right
      · refine ⟨[.enrolledCountError e], [], rfl, .uncounted e List.mem_cons_self excuse, ?_⟩
        simp [AboutSlot]
  | empty =>
      rcases counted with right | ⟨⟨e, wrong⟩, -⟩
      · have none := ofNat_count_eq_zero (Except.ok.inj right).symm
        refine ⟨[.enrolledCount 0, .noFingers], [], rfl, .counted ?_, by simp [AboutSlot]⟩
        rw [none]
        exact ⟨List.forall_mem_nil _, List.forall_mem_nil _⟩
      · cases wrong
  | slots nonzero shown =>
      rcases counted with right | ⟨⟨e, wrong⟩, -⟩
      · obtain rfl := Except.ok.inj right
        rw [toNat_count, Nat.min_eq_left before.count_le] at shown
        rw [path_printed_iff, path_printed_iff] at path
        refine ⟨[.enrolledCount (UInt8.ofNat before.count), .enrolledSlots], _, ?_,
          .counted (shownSlots_told shown path), by simp [AboutSlot]⟩
        rw [Bus.lines_printed, Bus.lines_printed]
        rfl
      · cases wrong

theorem not_aboutSlot_fwLine (version : Except Error FirmwareVersion) :
    ¬ AboutSlot (Elanctl.fwLine version) := by
  cases version with
  | ok v => exact not_false
  | error e => exact not_false

/-- The lines of `info` about slots, between others. -/
theorem info_lines {result : Except Fault (Except Error Elanctl.ExitCode)}
    (run : Executes (environment dev.pid conduct) (Elanctl.run .info dev).run before
      trace result after) :
    ∃ front slots back, trace.lines = front ++ slots ++ back ∧
      before.SlotLines conduct front slots ∧ ∀ line ∈ front ++ back, ¬ AboutSlot line := by
  obtain ⟨runs, path⟩ := run
  obtain ⟨inner, last, rfl, described, ended⟩ := Elanctl.runs_run runs
  rcases described with @⟨fw, cnt, tail, version, count, fwRun, cntRun, listed⟩
  obtain ⟨fwSilent, fwFrames⟩ := Elanctl.firmwareVersion_single fwRun
  obtain ⟨cntSilent, cntQuery⟩ := Elanctl.enrolledCount_query cntRun
  have fwQuery : Query [0x40, 0x19] fw := ⟨1, Nat.le_refl 1, by decide, .once fwFrames⟩
  -- the states the sensor is in before the count is asked for, and before the slots are
  rw [path_printed_iff] at path
  obtain ⟨finished, innerPath, -⟩ := Path.append_iff.mp path
  rw [path_printed_iff] at innerPath
  obtain ⟨versioned, fwPath, rest⟩ := Path.append_iff.mp innerPath
  rw [path_printed_iff] at rest
  obtain ⟨counted, cntPath, tailPath⟩ := Path.append_iff.mp rest
  obtain ⟨fwSlots, fwLast, -⟩ := query_frame fwQuery (by decide) (by decide) fwPath
  obtain ⟨cntSlots, cntLast, -⟩ := query_frame cntQuery (by decide) (by decide) cntPath
  have versionedStore : SameStore versioned before := ⟨fwSlots, fwLast⟩
  have countedStore : SameStore counted before := ⟨cntSlots.trans fwSlots, cntLast.trans fwLast⟩
  have known := enrolledCount_answers cntRun cntPath
  rw [versionedStore.count_eq, ← countedStore.count_eq] at known
  obtain ⟨front, slots, lines, about, others⟩ := listed_lines listed known tailPath
  refine ⟨[.opened dev.pid, .readOnlyQueries, Elanctl.fwLine version] ++ front, slots,
    Trace.lines last, ?_, ?_, ?_⟩
  · rw [Bus.lines_printed, Trace.lines_append, Bus.lines_printed, Trace.lines_append,
      Bus.lines_printed, Trace.lines_append, Trace.lines_eq_nil fwSilent,
      Trace.lines_eq_nil cntSilent, lines]
    simp
  · cases about with
    | counted told =>
        refine .counted ?_
        rw [countedStore.count_eq] at told
        obtain ⟨only, all⟩ := told
        rw [countedStore.tells_eq] at only all
        exact ⟨only, all⟩
    | uncounted e printed excuse => exact .uncounted e (List.mem_append_right _ printed) excuse
  · have lastOther : ∀ line ∈ Trace.lines last, ¬ AboutSlot line := by
      rcases ended with rfl | ⟨e, rfl⟩
      · exact nofun
      · intro line printed
        obtain rfl := List.mem_singleton.mp printed
        exact not_false
    intro line inside
    rcases List.mem_append.mp inside with inside | inside
    · rcases List.mem_append.mp inside with inside | inside
      · simp only [List.mem_cons, List.not_mem_nil, or_false] at inside
        rcases inside with rfl | rfl | rfl
        · exact not_false
        · exact not_false
        · exact not_aboutSlot_fwLine version
      · exact others line inside
    · exact lastOther line inside

/-- **Slot lines are true.** `info` prints a user id for a slot only if it is below the count and
the sensor shows that user id for it. -/
theorem shown_of_info {result : Except Fault (Except Error Elanctl.ExitCode)} {i : UInt8}
    {shown : String} {bytes : Nat}
    (run : Executes (environment dev.pid conduct) (Elanctl.run .info dev).run before
      trace result after) (printed : Line.slot i shown bytes ∈ trace.lines) :
    i ∈ Elanctl.slotsBelow before.count ∧
      ∃ userId, before.shown conduct i = some userId ∧
        shown = FingerInfo.userIdDisplay ⟨i, userId.bytes⟩ ∧ bytes = userId.bytes.length := by
  obtain ⟨front, slots, back, lines, about, others⟩ := info_lines run
  have outside : Line.slot i shown bytes ∉ front ++ back := fun inside =>
    others _ inside trivial
  rw [List.mem_append, not_or] at outside
  rw [lines, List.mem_append, List.mem_append, or_iff_right outside.1, or_iff_left outside.2]
    at printed
  cases about with
  | uncounted => cases printed
  | counted told =>
      obtain ⟨i', below, line | ⟨⟨e, line⟩, -⟩⟩ := told.only _ printed
      · unfold report at line
        cases known : before.shown conduct i' with
        | none =>
            rw [known] at line
            cases line
        | some userId =>
            rw [known] at line
            obtain ⟨rfl, rfl, rfl⟩ := Line.slot.inj line
            exact ⟨below, userId, known, rfl, rfl⟩
      · cases line

/-- **No slot is missing.** For every slot below the count that the sensor shows, `info` prints the
user id, or an error about the slot or the count, which takes a sensor that stalls or a transfer
that fails. -/
theorem info_of_shown {result : Except Fault (Except Error Elanctl.ExitCode)} {i : UInt8}
    {userId : UserId dev.pid}
    (run : Executes (environment dev.pid conduct) (Elanctl.run .info dev).run before
      trace result after)
    (below : i ∈ Elanctl.slotsBelow before.count) (known : before.shown conduct i = some userId) :
    Line.slot i (FingerInfo.userIdDisplay ⟨i, userId.bytes⟩) userId.bytes.length ∈ trace.lines ∨
      (∃ e, Line.slotError i e ∈ trace.lines ∨ Line.enrolledCountError e ∈ trace.lines) ∧
        (conduct.stalls = true ∨ conduct.failures = true) := by
  obtain ⟨front, slots, back, lines, about, -⟩ := info_lines run
  rw [lines]
  cases about with
  | uncounted e printed excuse =>
      exact .inr ⟨⟨e, .inr (List.mem_append_left _ (List.mem_append_left _ printed))⟩, excuse⟩
  | counted told =>
      obtain ⟨line, printed, right | ⟨⟨e, rfl⟩, excuse⟩⟩ := told.all i below
      · have inside := List.mem_append_left back (List.mem_append_right front printed)
        rw [right, report, known] at inside
        exact .inl inside
      · have inside := List.mem_append_left back (List.mem_append_right front printed)
        exact .inr ⟨⟨e, .inl inside⟩, excuse⟩

/-- **Slot lines.** `info` prints a slot exactly when it is below the count and the sensor shows
a user id for it, with that user id. -/
theorem info_slot_iff {result : Except Fault (Except Error Elanctl.ExitCode)} {i : UInt8}
    {shown : String} {bytes : Nat}
    (run : Executes (environment dev.pid (ideal honoursSlot)) (Elanctl.run .info dev).run before
      trace result after) :
    Line.slot i shown bytes ∈ trace.lines ↔ i ∈ Elanctl.slotsBelow before.count ∧
      ∃ userId, before.shown (ideal honoursSlot) i = some userId ∧
        shown = FingerInfo.userIdDisplay ⟨i, userId.bytes⟩ ∧ bytes = userId.bytes.length := by
  refine ⟨shown_of_info run, ?_⟩
  rintro ⟨below, userId, known, rfl, rfl⟩
  rcases info_of_shown run below known with printed | ⟨-, stalls | failures⟩
  · exact printed
  · cases stalls
  · cases failures

end Runs

/-! ### Complete listings -/

section Contents

variable {pid : UInt16} {sensor : Sensor pid}

theorem ofNat_slot_inj {slot other : Slot} (same : UInt8.ofNat slot = UInt8.ofNat other) :
    slot = other := by
  apply Fin.ext
  rw [← toNat_ofNat_slot slot, same, toNat_ofNat_slot]

theorem mem_slotsBelow_iff {bound : Nat} (small : bound ≤ Proto.maxPrints) {i : UInt8} :
    i ∈ Elanctl.slotsBelow bound ↔ ∃ slot : Slot, slot.val < bound ∧ i = UInt8.ofNat slot := by
  unfold Elanctl.slotsBelow
  rw [List.mem_map]
  constructor
  · rintro ⟨n, inside, rfl⟩
    have below := List.mem_range.mp inside
    exact ⟨⟨n, Nat.lt_of_lt_of_le below small⟩, below, rfl⟩
  · rintro ⟨slot, below, rfl⟩
    exact ⟨slot, List.mem_range.mpr below, rfl⟩

/-- No occupied slot lies beyond the count. -/
def Contiguous (sensor : Sensor pid) : Prop :=
  ∀ slot : Slot, (sensor.slots slot).isSome → slot.val < sensor.count

/-- Then the occupied slots are those below the count: there are just as many. -/
theorem Contiguous.isSome_iff (contiguous : sensor.Contiguous) (slot : Slot) :
    (sensor.slots slot).isSome ↔ slot.val < sensor.count := by
  have inside : (Finset.univ.filter fun slot => (sensor.slots slot).isSome) ⊆
      Finset.univ.filter fun slot : Slot => slot.val < sensor.count := by
    intro slot occupied
    rw [Finset.mem_filter] at occupied ⊢
    exact ⟨occupied.1, contiguous slot occupied.2⟩
  have below : (Finset.univ.filter fun slot : Slot => slot.val < sensor.count).card =
      sensor.count := by
    rw [Fin.card_filter_val_lt]
    exact Nat.min_eq_right sensor.count_le
  have same := Finset.eq_of_subset_of_card_le inside (Nat.le_of_eq below)
  have mem := Finset.ext_iff.mp same slot
  simpa only [Finset.mem_filter, Finset.mem_univ, true_and] using mem

/-- The lines of `info` are the occupied slots with what is stored there. -/
def Lists (before : Sensor pid) (trace : Trace) : Prop :=
  ∀ i shown bytes, Line.slot i shown bytes ∈ trace.lines ↔
    ∃ (slot : Slot) (userId : UserId pid), i = UInt8.ofNat slot ∧
      before.slots slot = some userId ∧ shown = FingerInfo.userIdDisplay ⟨i, userId.bytes⟩ ∧
      bytes = userId.bytes.length

/-- The last identified slot is occupied, and no other user id is stored in any slot. -/
def OneUserId (sensor : Sensor pid) : Prop :=
  ∃ last userId, sensor.lastIdentified = some last ∧ sensor.slots last = some userId ∧
    ∀ slot other, sensor.slots slot = some other → other = userId

/-- The contents `info` lists completely. -/
def Listable (honoursSlot : Bool) (sensor : Sensor pid) : Prop :=
  sensor.Contiguous ∧ (honoursSlot = true ∨ sensor.count = 0 ∨ sensor.OneUserId)

/-- On such contents the sensor shows each slot below the count as it is. -/
theorem Listable.shown_eq {honoursSlot : Bool} (listable : sensor.Listable honoursSlot)
    {slot : Slot} (below : slot.val < sensor.count) :
    sensor.shown (ideal honoursSlot) (UInt8.ofNat slot) = sensor.slots slot := by
  obtain ⟨contiguous, honours | empty | ⟨last, userId, identified, stored, only⟩⟩ := listable
  · unfold shown ideal
    rw [if_pos honours, slot?_ofNat, Option.bind_some]
  · rw [empty] at below
    exact absurd below (Nat.not_lt_zero _)
  · obtain ⟨other, occupied⟩ := Option.isSome_iff_exists.mp ((contiguous.isSome_iff slot).mpr below)
    have same := only slot other occupied
    cases honoursSlot with
    | true =>
        unfold shown ideal
        rw [if_pos rfl, slot?_ofNat, Option.bind_some]
    | false =>
        unfold shown ideal
        rw [if_neg nofun, identified, Option.bind_some, stored, occupied, same]

/-- Contents that are shown as they are: the sensor honours the slot, or has but one user id to
show. -/
theorem listable_of_shown {honoursSlot : Bool} (contiguous : sensor.Contiguous)
    (shown : ∀ slot : Slot, slot.val < sensor.count →
      sensor.shown (ideal honoursSlot) (UInt8.ofNat slot) = sensor.slots slot) :
    sensor.Listable honoursSlot := by
  refine ⟨contiguous, ?_⟩
  cases honoursSlot with
  | true => exact .inl rfl
  | false =>
      by_cases empty : sensor.count = 0
      · exact .inr (.inl empty)
      · -- the lowest slot is occupied, so a slot was identified and is shown for all of them
        have positive : (0 : Slot).val < sensor.count := Nat.pos_of_ne_zero empty
        obtain ⟨userId, stored⟩ :=
          Option.isSome_iff_exists.mp ((contiguous.isSome_iff 0).mpr positive)
        have current : sensor.lastIdentified.bind sensor.slots = some userId := by
          rw [← stored]
          exact shown 0 positive
        obtain ⟨last, identified, kept⟩ := Option.bind_eq_some_iff.mp current
        refine .inr (.inr ⟨last, userId, identified, kept, ?_⟩)
        intro slot other occupied
        have below := contiguous slot (Option.isSome_iff_exists.mpr ⟨other, occupied⟩)
        have same : sensor.lastIdentified.bind sensor.slots = sensor.slots slot :=
          shown slot below
        rw [current, occupied] at same
        exact (Option.some.inj same).symm

end Contents

section Listings

variable {dev : ElanMoc2} {honoursSlot : Bool} {before after : Sensor dev.pid} {trace : Trace}
  {result : Except Fault (Except Error Elanctl.ExitCode)}

theorem lists_of_listable (listable : before.Listable honoursSlot)
    (run : Executes (environment dev.pid (ideal honoursSlot)) (Elanctl.run .info dev).run before
      trace result after) : Lists before trace := by
  intro i shown bytes
  rw [info_slot_iff run, mem_slotsBelow_iff before.count_le]
  constructor
  · rintro ⟨⟨slot, below, rfl⟩, userId, known, rfl, rfl⟩
    rw [listable.shown_eq below] at known
    exact ⟨slot, userId, rfl, known, rfl, rfl⟩
  · rintro ⟨slot, userId, rfl, stored, rfl, rfl⟩
    have below := listable.1 slot (Option.isSome_iff_exists.mpr ⟨userId, stored⟩)
    refine ⟨⟨slot, below, rfl⟩, userId, ?_, rfl, rfl⟩
    rw [listable.shown_eq below]
    exact stored

/-- Any one complete listing shows that the contents are of that kind. -/
theorem listable_of_lists
    (run : Executes (environment dev.pid (ideal honoursSlot)) (Elanctl.run .info dev).run before
      trace result after) (lists : Lists before trace) : before.Listable honoursSlot := by
  have printed : ∀ (slot : Slot) (userId : UserId dev.pid), before.slots slot = some userId →
      slot.val < before.count ∧
        before.shown (ideal honoursSlot) (UInt8.ofNat slot) = some userId := by
    intro slot userId stored
    have line := (lists _ _ _).mpr ⟨slot, userId, rfl, stored, rfl, rfl⟩
    obtain ⟨listed, shown, known, alike, long⟩ := (info_slot_iff run).mp line
    obtain ⟨other, below, named⟩ := (mem_slotsBelow_iff before.count_le).mp listed
    obtain rfl := ofNat_slot_inj named
    have same : userId = shown := UserId.ext (FingerInfo.userId_eq_of_display alike long)
    rw [same]
    exact ⟨below, known⟩
  have contiguous : before.Contiguous := by
    intro slot occupied
    obtain ⟨userId, stored⟩ := Option.isSome_iff_exists.mp occupied
    exact (printed slot userId stored).1
  refine listable_of_shown contiguous fun slot below => ?_
  obtain ⟨userId, stored⟩ := Option.isSome_iff_exists.mp ((contiguous.isSome_iff slot).mpr below)
  rw [stored]
  exact (printed slot userId stored).2

end Listings

/-- **Listings.** The slot lines of `info` are the occupied slots with the user ids stored there,
in every run, exactly when no occupied slot lies beyond the count and the sensor honours the
slot it is asked for, stores nothing, or has identified a finger and stores no user id but that
one's. -/
theorem info_lists_iff (dev : ElanMoc2) (honoursSlot : Bool) (before : Sensor dev.pid) :
    (∀ trace result after, Executes (environment dev.pid (ideal honoursSlot))
      (Elanctl.run .info dev).run before trace result after → Lists before trace) ↔
      before.Listable honoursSlot := by
  constructor
  · intro lists
    obtain ⟨trace, result, after, run⟩ := exists_executes (environment_total (ideal honoursSlot))
      (Elanctl.run .info dev).run before
    exact listable_of_lists run (lists trace result after run)
  · intro listable trace result after run
    exact lists_of_listable listable run

/-! ### Histories -/

def store {pid : UInt16} (sensor : Sensor pid) (slot : Slot) (content : Option (UserId pid)) :
    Sensor pid :=
  { sensor with slots := Function.update sensor.slots slot content }

/-- What can happen to a sensor before it is listed. -/
inductive Happens {pid : UInt16} (before : Sensor pid) : Sensor pid → Prop where
  | enrolled {slot : Slot} (userId : UserId pid) (free : before.slots slot = none) :
      Happens before (before.store slot (some userId))
  | deleted (slot : Slot) : Happens before (before.store slot none)
  | wiped : Happens before { before with slots := fun _ => none }
  | identified {slot : Slot} (occupied : (before.slots slot).isSome) :
      Happens before { before with
        lastIdentified := some slot, matched := before.matched ++ [slot] }
  | reopened : Happens before { before with lastIdentified := none }

def Reachable {pid : UInt16} : Sensor pid → Prop := Relation.ReflTransGen Happens blank

/-- A user id of one byte. -/
def oneByte : UserId 0x0c00 := ⟨[0x46], by decide, by decide⟩

/-- Two fingers were enrolled and the lower one deleted. -/
def gap : Sensor 0x0c00 :=
  ((blank.store 0 (some oneByte)).store 1 (some oneByte)).store 0 none

theorem reachable_gap : Reachable gap := by
  have first : Relation.ReflTransGen Happens blank (blank.store 0 (some oneByte)) :=
    .single (.enrolled oneByte rfl)
  exact (first.tail (.enrolled oneByte rfl)).tail (.deleted 0)

/-- A deleted lower slot hides a stored print, although the sensor honours the slot. -/
theorem gap_not_listed : Reachable gap ∧ ¬ ∀ trace result after,
    Executes (environment 0x0c00 (ideal true)) (Elanctl.run .info ⟨0x0c00, 0, true⟩).run gap
      trace result after → Lists gap trace := by
  refine ⟨reachable_gap, fun lists => ?_⟩
  obtain ⟨trace, result, after, run⟩ := exists_executes (environment_total (ideal true))
    (Elanctl.run .info ⟨0x0c00, 0, true⟩).run gap
  have occupied : (gap.slots 1).isSome := by decide
  have contiguous := (listable_of_lists run (lists trace result after run)).1
  have below : (1 : Slot).val < gap.count := contiguous 1 occupied
  exact absurd below (by decide)

end Elan0c00.Sensor
