import Elan0c00.Call

/-! # The command line front-end

The four commands of `elanctl` on an opened sensor, and their runs as relations: which
library calls are made in which order, what each returned, and the lines printed between
them. `Elanctl.runs_info`, `Elanctl.runs_dump`, `Elanctl.runs_collision` and
`Elanctl.runs_identify` say that every run of a command is described by its relation.
-/

namespace Elan0c00.Elanctl

open Interaction Interaction.Fallible Bytes

/-- The slot numbers below a bound. -/
def slotsBelow (bound : Nat) : List UInt8 := (List.range bound).map UInt8.ofNat

def fwLine : Except Error FirmwareVersion → Line
  | .ok v => .fwVersion v
  | .error e => .fwError e

def slotLine (i : UInt8) : Except Error FingerInfo → Line
  | .ok f => .slot i f.userIdDisplay f.userId.length
  | .error e => .slotError i e

def matchedLine (idx : UInt8) : Except Error FingerInfo → Line
  | .ok f => .matchedSlot idx f.userIdDisplay
  | .error e => .matchedSlotError idx e

def rawLine (label : String) (cmd : Cmd) : Except Error (List UInt8) → Line
  | .ok r => .rawReply label cmd.outLen r.length cmd.epIn r
  | .error e => .rawError label e

/-- One round of the slot loop of `info`. -/
def showSlot (dev : ElanMoc2) (i : UInt8) : DeviceM Unit := do
  println (slotLine i (← outcome (dev.fingerInfo i)))

def cmdInfo (dev : ElanMoc2) : DeviceM Unit := do
  println .readOnlyQueries
  println (fwLine (← outcome dev.firmwareVersion))
  match ← outcome dev.enrolledCount with
  | .error e => println (.enrolledCountError e)
  | .ok count => do
      println (.enrolledCount count)
      if count = 0 then
        println .noFingers
      else do
        println .enrolledSlots
        (slotsBelow (min count.toNat Proto.maxPrints)).forM (showSlot dev)

/-- One round of the first loop of `dump`. -/
def dumpQuery (dev : ElanMoc2) (label : String) (cmd : Cmd) : DeviceM Unit := do
  println (rawLine label cmd (← outcome (dev.transceiveRaw cmd [])))

/-- One round of the slot loop of `dump`. -/
def dumpSlot (dev : ElanMoc2) (i : UInt8) : DeviceM Unit := do
  match ← outcome (dev.transceiveRaw Proto.fingerInfo [i]) with
  | .ok r => do
      println (.rawSlot i r.length (r.countP fun b => b ≠ 0))
      println (.rawBytes r)
  | .error e => println (.slotError i e)

def cmdDump (dev : ElanMoc2) : DeviceM Unit := do
  println .rawReplies
  dumpQuery dev "get_fw_ver        " Proto.getFwVer
  dumpQuery dev "get_enrolled_count" Proto.getEnrolledCount
  println (.allSlots Proto.maxPrints)
  (slotsBelow Proto.maxPrints).forM (dumpSlot dev)

/-- What upstream's enroll path would do with a status. -/
def upstreamLine : Status → Line
  | .notEnrolled => .upstreamEnrolls
  | .ok idx => .upstreamDeletes idx
  | _ => .upstreamAborts

def cmdCollision (dev : ElanMoc2) : DeviceM Unit := do
  println .collisionHeader
  println .placeFingerIfWaiting
  let r ← dev.transceiveRaw Proto.checkEnrollCollision []
  println (.collisionReply r)
  if r.length < 2 then
    println .collisionTooShort
  else do
    let b ← check (index r 1)
    let st := Status.fromByte b
    println (.collisionStatus b st)
    println .upstreamHeader
    println (upstreamLine st)

/-- What `identify` does with the reply of the sensor. -/
def identified (dev : ElanMoc2) : Except Error (List UInt8) → DeviceM Unit
  | .ok resp =>
      if resp.length ≥ 2 then do
        let st := Status.fromByte (← check (index resp 1))
        println (.identified resp st)
        match st with
        | .ok idx => println (matchedLine idx (← outcome (dev.fingerInfo idx)))
        | _ => pure ()
      else println (.identifyShort resp)
  | .error e => do
      println (.identifyError e)
      let _ ← outcome dev.abort
      pure ()

def cmdIdentify (dev : ElanMoc2) : DeviceM Unit := do
  let count ← dev.enrolledCount
  println (.fingersEnrolled count)
  if count = 0 then
    println .nothingToMatch
  else do
    println .placeFinger
    identified dev (← outcome (dev.transceive Proto.identify []))

inductive Command where
  | info
  | identify
  | dump
  | collision
  deriving DecidableEq, Repr

def Command.body : Command → ElanMoc2 → DeviceM Unit
  | .info => cmdInfo
  | .identify => cmdIdentify
  | .dump => cmdDump
  | .collision => cmdCollision

inductive ExitCode where
  | success
  | failure
  deriving DecidableEq, Repr

/-- A command on a sensor that was opened. -/
def run (command : Command) (dev : ElanMoc2) : DeviceM ExitCode := do
  println (.opened dev.pid)
  match ← outcome (command.body dev) with
  | .ok () => return .success
  | .error e => do
      println (.failed e)
      return .failure

section Runs

variable {dev : ElanMoc2} {trace : Trace}

/-- The slot loop of `info`: the query of each slot, then its line. -/
inductive ShownSlots (dev : ElanMoc2) : List UInt8 → Trace → Prop where
  | nil : ShownSlots dev [] []
  | cons {i : UInt8} {rest : List UInt8} {part later : Trace} {known : Except Error FingerInfo}
      (asked : (dev.fingerInfo i).run.Runs part (.ok known)) (tail : ShownSlots dev rest later) :
      ShownSlots dev (i :: rest) (part ++ Bus.printed (slotLine i known) :: later)

/-- The part of `info` after the enrolled count. -/
inductive Listed (dev : ElanMoc2) : Except Error UInt8 → Trace → Prop where
  | uncounted (e : Error) : Listed dev (.error e) [Bus.printed (.enrolledCountError e)]
  | empty : Listed dev (.ok 0) [Bus.printed (.enrolledCount 0), Bus.printed .noFingers]
  | slots {count : UInt8} {later : Trace} (nonzero : count ≠ 0)
      (shown : ShownSlots dev (slotsBelow (min count.toNat Proto.maxPrints)) later) :
      Listed dev (.ok count)
        (Bus.printed (.enrolledCount count) :: Bus.printed .enrolledSlots :: later)

inductive InfoRun (dev : ElanMoc2) : Trace → Prop where
  | mk {fw cnt tail : Trace} {version : Except Error FirmwareVersion} {count : Except Error UInt8}
      (fwRun : dev.firmwareVersion.run.Runs fw (.ok version))
      (cntRun : dev.enrolledCount.run.Runs cnt (.ok count)) (listed : Listed dev count tail) :
      InfoRun dev (Bus.printed .readOnlyQueries ::
        (fw ++ Bus.printed (fwLine version) :: (cnt ++ tail)))

/-- The lines `dump` prints for a slot. -/
def rawSlotLines (i : UInt8) : Except Error (List UInt8) → List Line
  | .ok r => [.rawSlot i r.length (r.countP fun b => b ≠ 0), .rawBytes r]
  | .error e => [.slotError i e]

/-- The slot loop of `dump`: each slot is asked for once. -/
inductive DumpedSlots (dev : ElanMoc2) : List UInt8 → Trace → Prop where
  | nil : DumpedSlots dev [] []
  | cons {i : UInt8} {rest : List UInt8} {part later : Trace}
      {known : Except Error (List UInt8)}
      (asked : (dev.transceiveRaw Proto.fingerInfo [i]).run.Runs part (.ok known))
      (tail : DumpedSlots dev rest later) :
      DumpedSlots dev (i :: rest) (part ++ ((rawSlotLines i known).map Bus.printed ++ later))

inductive DumpRun (dev : ElanMoc2) : Trace → Prop where
  | mk {fw cnt tail : Trace} {version count : Except Error (List UInt8)}
      (fwRun : (dev.transceiveRaw Proto.getFwVer []).run.Runs fw (.ok version))
      (cntRun : (dev.transceiveRaw Proto.getEnrolledCount []).run.Runs cnt (.ok count))
      (dumped : DumpedSlots dev (slotsBelow Proto.maxPrints) tail) :
      DumpRun dev (Bus.printed .rawReplies ::
        (fw ++ Bus.printed (rawLine "get_fw_ver        " Proto.getFwVer version) ::
          (cnt ++ Bus.printed (rawLine "get_enrolled_count" Proto.getEnrolledCount count) ::
            Bus.printed (.allSlots Proto.maxPrints) :: tail)))

/-- The lines `collision` prints after the reply. -/
def collisionLines : List UInt8 → List Line
  | _ :: b :: _ =>
      [.collisionStatus b (Status.fromByte b), .upstreamHeader, upstreamLine (Status.fromByte b)]
  | _ => [.collisionTooShort]

inductive CollisionRun (dev : ElanMoc2) : Trace → Except Error Unit → Prop where
  | failed {part : Trace} {e : Error}
      (asked : (dev.transceiveRaw Proto.checkEnrollCollision []).run.Runs part
        (.ok (.error e))) :
      CollisionRun dev
        (Bus.printed .collisionHeader :: Bus.printed .placeFingerIfWaiting :: part) (.error e)
  | replied {part : Trace} {reply : List UInt8}
      (asked : (dev.transceiveRaw Proto.checkEnrollCollision []).run.Runs part
        (.ok (.ok reply))) :
      CollisionRun dev
        (Bus.printed .collisionHeader :: Bus.printed .placeFingerIfWaiting ::
          (part ++ Bus.printed (.collisionReply reply) ::
            (collisionLines reply).map Bus.printed)) (.ok ())

/-- The part of `identify` after the reply of the sensor. -/
inductive Matched (dev : ElanMoc2) : Except Error (List UInt8) → Trace → Prop where
  | slot {first status : UInt8} {rest : List UInt8} {part : Trace}
      {info : Except Error FingerInfo} (ordinary : status &&& 0xF0 = 0)
      (asked : (dev.fingerInfo status).run.Runs part (.ok info)) :
      Matched dev (.ok (first :: status :: rest))
        (Bus.printed (.identified (first :: status :: rest) (.ok status)) ::
          (part ++ [Bus.printed (matchedLine status info)]))
  | refused {first status : UInt8} {rest : List UInt8} (failing : status &&& 0xF0 ≠ 0) :
      Matched dev (.ok (first :: status :: rest))
        [Bus.printed (.identified (first :: status :: rest) (Status.fromByte status))]
  | short {reply : List UInt8} (short : reply.length < 2) :
      Matched dev (.ok reply) [Bus.printed (.identifyShort reply)]
  | failed {e : Error} {part : Trace} {known : Except Error Unit}
      (aborted : dev.abort.run.Runs part (.ok known)) :
      Matched dev (.error e) (Bus.printed (.identifyError e) :: part)

inductive IdentifyRun (dev : ElanMoc2) : Trace → Except Error Unit → Prop where
  | uncounted {cnt : Trace} {e : Error}
      (cntRun : dev.enrolledCount.run.Runs cnt (.ok (.error e))) :
      IdentifyRun dev cnt (.error e)
  | empty {cnt : Trace} (cntRun : dev.enrolledCount.run.Runs cnt (.ok (.ok 0))) :
      IdentifyRun dev
        (cnt ++ [Bus.printed (.fingersEnrolled 0), Bus.printed .nothingToMatch]) (.ok ())
  | waited {cnt ident tail : Trace} {count : UInt8} {reply : Except Error (List UInt8)}
      (nonzero : count ≠ 0) (cntRun : dev.enrolledCount.run.Runs cnt (.ok (.ok count)))
      (identRun : (dev.transceive Proto.identify []).run.Runs ident (.ok reply))
      (matched : Matched dev reply tail) :
      IdentifyRun dev (cnt ++ Bus.printed (.fingersEnrolled count) ::
        Bus.printed .placeFinger :: (ident ++ tail)) (.ok ())

theorem transceive_safe (cmd : Cmd) (payload : List UInt8) : Safe (dev.transceive cmd payload) :=
  @EntryPoint.perform_safe dev .transceive cmd payload

theorem transceiveRaw_safe (cmd : Cmd) (payload : List UInt8) :
    Safe (dev.transceiveRaw cmd payload) :=
  @EntryPoint.perform_safe dev .transceiveRaw cmd payload

/-- The rounds of the slot loop of `info` follow one another, whatever each one shows. -/
theorem runs_showSlots {slots : List UInt8} {result : Except Fault (Except Error Unit)}
    (run : (slots.forM (showSlot dev)).run.Runs trace result) :
    ShownSlots dev slots trace ∧ result = .ok (.ok ()) := by
  induction slots generalizing trace with
  | nil =>
      obtain ⟨rfl, rfl⟩ := Fallible.runs_pure_iff.mp run
      exact ⟨.nil, rfl⟩
  | cons i rest ih =>
      change (showSlot dev i >>= fun _ => rest.forM (showSlot dev)).run.Runs trace result at run
      unfold showSlot at run
      rw [bind_assoc] at run
      obtain ⟨known, part, second, rfl, asked, tail⟩ :=
        (fingerInfo_safe i).runs_outcome_bind_iff.mp run
      obtain ⟨later, rfl, rounds⟩ := runs_println_bind_iff.mp tail
      obtain ⟨shown, rfl⟩ := ih rounds
      exact ⟨.cons asked shown, rfl⟩

theorem runs_info {result : Except Fault (Except Error Unit)}
    (run : (cmdInfo dev).run.Runs trace result) :
    InfoRun dev trace ∧ result = .ok (.ok ()) := by
  unfold cmdInfo at run
  obtain ⟨_, rfl, opened⟩ := runs_println_bind_iff.mp run
  obtain ⟨version, fw, _, rfl, fwRun, shown⟩ := firmwareVersion_safe.runs_outcome_bind_iff.mp opened
  obtain ⟨_, rfl, asked⟩ := runs_println_bind_iff.mp shown
  obtain ⟨count, cnt, tail, rfl, cntRun, counted⟩ :=
    enrolledCount_safe.runs_outcome_bind_iff.mp asked
  suffices Listed dev count tail ∧ result = .ok (.ok ()) from
    ⟨.mk fwRun cntRun this.1, this.2⟩
  cases count with
  | error e =>
      obtain ⟨rfl, rfl⟩ := runs_println_iff.mp counted
      exact ⟨.uncounted e, rfl⟩
  | ok count =>
      obtain ⟨_, rfl, compared⟩ := runs_println_bind_iff.mp counted
      by_cases zero : count = 0
      · rw [if_pos zero] at compared
        obtain ⟨rfl, rfl⟩ := runs_println_iff.mp compared
        rw [zero]
        exact ⟨.empty, rfl⟩
      · rw [if_neg zero] at compared
        obtain ⟨_, rfl, slots⟩ := runs_println_bind_iff.mp compared
        obtain ⟨rounds, rfl⟩ := runs_showSlots slots
        exact ⟨.slots zero rounds, rfl⟩

/-- The rounds of the slot loop of `dump` follow one another. -/
theorem runs_dumpSlots {slots : List UInt8} {result : Except Fault (Except Error Unit)}
    (run : (slots.forM (dumpSlot dev)).run.Runs trace result) :
    DumpedSlots dev slots trace ∧ result = .ok (.ok ()) := by
  induction slots generalizing trace with
  | nil =>
      obtain ⟨rfl, rfl⟩ := Fallible.runs_pure_iff.mp run
      exact ⟨.nil, rfl⟩
  | cons i rest ih =>
      change (dumpSlot dev i >>= fun _ => rest.forM (dumpSlot dev)).run.Runs trace result at run
      rw [dumpSlot, bind_assoc] at run
      obtain ⟨known, part, second, rfl, asked, replied⟩ :=
        (transceiveRaw_safe _ _).runs_outcome_bind_iff.mp run
      cases known with
      | ok reply =>
          simp only [bind_assoc] at replied
          obtain ⟨_, rfl, sized⟩ := runs_println_bind_iff.mp replied
          obtain ⟨later, rfl, rounds⟩ := runs_println_bind_iff.mp sized
          obtain ⟨dumped, rfl⟩ := ih rounds
          exact ⟨.cons asked dumped, rfl⟩
      | error e =>
          obtain ⟨later, rfl, rounds⟩ := runs_println_bind_iff.mp replied
          obtain ⟨dumped, rfl⟩ := ih rounds
          exact ⟨.cons asked dumped, rfl⟩

theorem runs_dump {result : Except Fault (Except Error Unit)}
    (run : (cmdDump dev).run.Runs trace result) :
    DumpRun dev trace ∧ result = .ok (.ok ()) := by
  unfold cmdDump dumpQuery at run
  simp only [bind_assoc] at run
  obtain ⟨_, rfl, opened⟩ := runs_println_bind_iff.mp run
  obtain ⟨version, fw, _, rfl, fwRun, shown⟩ :=
    (transceiveRaw_safe _ _).runs_outcome_bind_iff.mp opened
  obtain ⟨_, rfl, asked⟩ := runs_println_bind_iff.mp shown
  obtain ⟨count, cnt, _, rfl, cntRun, counted⟩ :=
    (transceiveRaw_safe _ _).runs_outcome_bind_iff.mp asked
  obtain ⟨_, rfl, headed⟩ := runs_println_bind_iff.mp counted
  obtain ⟨tail, rfl, slots⟩ := runs_println_bind_iff.mp headed
  obtain ⟨dumped, rfl⟩ := runs_dumpSlots slots
  exact ⟨.mk fwRun cntRun dumped, rfl⟩

theorem runs_collision {result : Except Fault (Except Error Unit)}
    (run : (cmdCollision dev).run.Runs trace result) :
    ∃ known, CollisionRun dev trace known ∧ result = .ok known := by
  unfold cmdCollision at run
  obtain ⟨_, rfl, opened⟩ := runs_println_bind_iff.mp run
  obtain ⟨_, rfl, placed⟩ := runs_println_bind_iff.mp opened
  rcases (transceiveRaw_safe _ _).runs_bind_iff.mp placed with
    ⟨e, asked, rfl⟩ | ⟨reply, part, _, rfl, asked, replied⟩
  · exact ⟨_, .failed asked, rfl⟩
  · obtain ⟨tail, rfl, decoded⟩ := runs_println_bind_iff.mp replied
    suffices tail = (collisionLines reply).map Bus.printed ∧ result = .ok (.ok ()) by
      obtain ⟨rfl, rfl⟩ := this
      exact ⟨_, .replied asked, rfl⟩
    match reply with
    | [] => exact runs_println_iff.mp decoded
    | [_] => exact runs_println_iff.mp decoded
    | first :: b :: rest =>
        have long : ¬ (first :: b :: rest).length < 2 :=
          Nat.not_lt.mpr (Nat.le_add_left 2 rest.length)
        rw [if_neg long] at decoded
        obtain ⟨_, rfl, headed⟩ := runs_println_bind_iff.mp decoded
        obtain ⟨_, rfl, last⟩ := runs_println_bind_iff.mp headed
        obtain ⟨rfl, rfl⟩ := runs_println_iff.mp last
        exact ⟨rfl, rfl⟩

theorem runs_identified {reply : Except Error (List UInt8)}
    {result : Except Fault (Except Error Unit)}
    (run : (identified dev reply).run.Runs trace result) :
    Matched dev reply trace ∧ result = .ok (.ok ()) := by
  cases reply with
  | error e =>
      obtain ⟨_, rfl, failed⟩ := runs_println_bind_iff.mp run
      obtain ⟨known, part, _, rfl, aborted, last⟩ := abort_safe.runs_outcome_bind_iff.mp failed
      obtain ⟨rfl, rfl⟩ := Fallible.runs_pure_iff.mp last
      rw [List.append_nil]
      exact ⟨.failed aborted, rfl⟩
  | ok reply =>
      match reply with
      | [] =>
          obtain ⟨rfl, rfl⟩ := runs_println_iff.mp run
          exact ⟨.short Nat.two_pos, rfl⟩
      | [_] =>
          obtain ⟨rfl, rfl⟩ := runs_println_iff.mp run
          exact ⟨.short Nat.one_lt_two, rfl⟩
      | first :: status :: rest =>
          have long : (first :: status :: rest).length ≥ 2 := Nat.le_add_left 2 rest.length
          simp only [identified] at run
          rw [if_pos long] at run
          obtain ⟨tail, rfl, shown⟩ := runs_println_bind_iff.mp run
          by_cases ordinary : status &&& 0xF0 = 0
          · rw [Status.fromByte_eq_ok ordinary] at shown ⊢
            obtain ⟨info, part, _, rfl, asked, matched⟩ :=
              (fingerInfo_safe _).runs_outcome_bind_iff.mp shown
            obtain ⟨rfl, rfl⟩ := runs_println_iff.mp matched
            exact ⟨.slot ordinary asked, rfl⟩
          · have refused : ∀ idx, Status.fromByte status ≠ .ok idx := fun idx accepted =>
              ordinary (Status.eq_of_fromByte_eq_ok accepted).2
            have ended : (pure () : DeviceM Unit).run.Runs tail result := by
              clear run
              revert shown
              cases decoded : Status.fromByte status with
              | ok idx => exact absurd decoded (refused idx)
              | _ => exact id
            obtain ⟨rfl, rfl⟩ := Fallible.runs_pure_iff.mp ended
            exact ⟨.refused ordinary, rfl⟩

theorem runs_identify {result : Except Fault (Except Error Unit)}
    (run : (cmdIdentify dev).run.Runs trace result) :
    ∃ known, IdentifyRun dev trace known ∧ result = .ok known := by
  unfold cmdIdentify at run
  rcases enrolledCount_safe.runs_bind_iff.mp run with
    ⟨e, cntRun, rfl⟩ | ⟨count, cnt, _, rfl, cntRun, counted⟩
  · exact ⟨_, .uncounted cntRun, rfl⟩
  · obtain ⟨_, rfl, compared⟩ := runs_println_bind_iff.mp counted
    by_cases zero : count = 0
    · rw [if_pos zero] at compared
      obtain ⟨rfl, rfl⟩ := runs_println_iff.mp compared
      rw [zero] at cntRun ⊢
      exact ⟨_, .empty cntRun, rfl⟩
    · rw [if_neg zero] at compared
      obtain ⟨_, rfl, placed⟩ := runs_println_bind_iff.mp compared
      obtain ⟨reply, ident, tail, rfl, identRun, replied⟩ :=
        (transceive_safe _ _).runs_outcome_bind_iff.mp placed
      obtain ⟨matched, rfl⟩ := runs_identified replied
      exact ⟨_, .waited zero cntRun identRun matched, rfl⟩

/-- The runs of a command, by what its relation describes. -/
def Described (dev : ElanMoc2) : Command → Trace → Prop
  | .info, trace => InfoRun dev trace
  | .identify, trace => ∃ known, IdentifyRun dev trace known
  | .dump, trace => DumpRun dev trace
  | .collision, trace => ∃ known, CollisionRun dev trace known

theorem body_safe (command : Command) : Safe (command.body dev) := by
  intro trace fault run
  cases command with
  | info => exact nomatch (runs_info run).2
  | identify =>
      obtain ⟨_, _, impossible⟩ := runs_identify run
      exact nomatch impossible
  | dump => exact nomatch (runs_dump run).2
  | collision =>
      obtain ⟨_, _, impossible⟩ := runs_collision run
      exact nomatch impossible

/-- **Runs of the front-end.** Around the transfers of a command stand only the first and the
last line. -/
theorem runs_run {command : Command} {result : Except Fault (Except Error ExitCode)}
    (run : (Elanctl.run command dev).run.Runs trace result) :
    ∃ inner last, trace = Bus.printed (.opened dev.pid) :: (inner ++ last) ∧
      Described dev command inner ∧ (last = [] ∨ ∃ e, last = [Bus.printed (.failed e)]) := by
  unfold Elanctl.run at run
  obtain ⟨_, rfl, opened⟩ := runs_println_bind_iff.mp run
  obtain ⟨known, inner, last, rfl, inside, ended⟩ :=
    (body_safe command).runs_outcome_bind_iff.mp opened
  refine ⟨inner, last, rfl, ?_, ?_⟩
  · cases command with
    | info => exact (runs_info inside).1
    | identify =>
        obtain ⟨known, described, -⟩ := runs_identify inside
        exact ⟨known, described⟩
    | dump => exact (runs_dump inside).1
    | collision =>
        obtain ⟨known, described, -⟩ := runs_collision inside
        exact ⟨known, described⟩
  · cases known with
    | ok value =>
        obtain ⟨rfl, -⟩ := Fallible.runs_pure_iff.mp ended
        exact .inl rfl
    | error e =>
        obtain ⟨_, rfl, returned⟩ := runs_println_bind_iff.mp ended
        obtain ⟨rfl, -⟩ := Fallible.runs_pure_iff.mp returned
        exact .inr ⟨e, rfl⟩

end Runs

end Elan0c00.Elanctl
