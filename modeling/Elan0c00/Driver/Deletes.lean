import Elan0c00.Driver.DeleteSsm

/-! # Sequences of deletes

Between two deletes other operations may run and leave a reply behind, so a delete begins with
any reply in its slot. `Driver.deletes_complete` says that it does not matter: a delete that
reaches its second state completes the operation and the machine once each, it reports success
on a good reply to its own frame only, and each success, and no other run, lowers the number of
enrolled fingers.
-/

namespace Elan0c00.Driver

open Bytes Interaction Interaction.Program

def DriverRequest.isDeleteComplete : DriverRequest → Bool
  | .deleteComplete _ => true
  | _ => false

def DriverRequest.isMarkCompleted : DriverRequest → Bool
  | .markCompleted _ => true
  | _ => false

/-- What was asked of the code outside the driver, in order. -/
def asked (trace : DriverTrace) : List DriverRequest := trace.map Event.op

/-- The operation was completed without an error. -/
def Succeeds (trace : DriverTrace) : Prop := DriverRequest.deleteComplete none ∈ asked trace

instance (trace : DriverTrace) : Decidable (Succeeds trace) :=
  inferInstanceAs (Decidable (_ ∈ asked trace))

/-- A frame and the reply to it. -/
def replyOf : Event DriverAnswer → Option (List UInt8 × GBytes)
  | ⟨.cmdTransceive frame, .advanced (some response)⟩ => some (frame, response)
  | _ => none

/-- The frame of this print was written into the prepared buffer and sent, and a reply to it has
a second byte, which is zero. -/
def Confirmed (fpiData : Option GVariant) (trace : DriverTrace) : Prop :=
  ∃ print bufferOut frame response, fpiData = some (.yay print) ∧
    Ssm.prepared (some bufferOut) ∈ trace ∧
    deletePrintFrame print (some bufferOut) = .ok (some frame) ∧
    (frame, response) ∈ trace.filterMap replyOf ∧ response.contents[1]? = some 0

section Operations

variable {w : Nat} {self after : FpiDeviceElanMoC2 w} {fpiData : Option GVariant}
  {trace : DriverTrace} {bufferIn : Option GBytes}

@[simp] theorem succeeds_nil : ¬ Succeeds [] := nofun

@[simp] theorem succeeds_cons_iff {event : Event DriverAnswer} :
    Succeeds (event :: trace) ↔ event.op = .deleteComplete none ∨ Succeeds trace := by
  unfold Succeeds asked
  rw [List.map_cons, List.mem_cons, eq_comm]

@[simp] theorem succeeds_checkTrace_iff {ssm : Bool} :
    Succeeds (checkTrace ssm bufferIn) ↔ replyStatus bufferIn = some 0 := by
  rw [← verdict_eq_none_iff]
  simp [checkTrace, Ssm.entered, Ssm.completed, Ssm.marked]

/-- A run that reaches the second state completes the operation and its SSM once each. -/
theorem DeleteRun.completes_once (run : DeleteRun self fpiData trace after)
    (reached : DriverRequest.entering .check ∈ asked trace) :
    (asked trace).countP DriverRequest.isDeleteComplete = 1 ∧
      (asked trace).countP DriverRequest.isMarkCompleted = 1 ∧
      DriverRequest.markCompleted true ∈ asked trace := by
  cases run with
  | invalid other =>
      simp [asked, Ssm.completed] at reached
  | unsent print =>
      refine ⟨rfl, rfl, ?_⟩
      simp [asked, checkTrace, Ssm.marked]
  | failed framed =>
      simp [asked, Ssm.entered, Ssm.prepared, Ssm.transceived] at reached
  | replied framed bufferIn =>
      refine ⟨rfl, rfl, ?_⟩
      simp [asked, checkTrace, Ssm.marked]

/-- A delete succeeds on a good reply to its own frame, and on nothing else. -/
theorem DeleteRun.succeeds_iff (run : DeleteRun self fpiData trace after) :
    Succeeds trace ↔ Confirmed fpiData trace := by
  cases run with
  | invalid other =>
      apply iff_of_false
      · simp [Ssm.completed]
      · rintro ⟨print, _, _, _, yay, _⟩
        exact other print yay
  | unsent print =>
      apply iff_of_false
      · simp [Ssm.entered, Ssm.prepared, replyStatus]
      · rintro ⟨_, _, frame, response, _, _, _, replied, _⟩
        exact nomatch (replied : (frame, response) ∈ [])
  | failed framed =>
      apply iff_of_false
      · simp [Ssm.entered, Ssm.prepared, Ssm.transceived]
      · rintro ⟨_, _, frame, response, _, _, _, replied, _⟩
        exact nomatch (replied : (frame, response) ∈ [])
  | @replied print bufferOut frame framed bufferIn =>
      simp only [Ssm.entered, Ssm.prepared, Ssm.transceived, succeeds_cons_iff, reduceCtorEq,
        false_or, succeeds_checkTrace_iff]
      cases bufferIn with
      | none =>
          apply iff_of_false
          · exact nofun
          · rintro ⟨_, _, frame, response, _, _, _, replied, _⟩
            exact nomatch (replied : (frame, response) ∈ [])
      | some response =>
          constructor
          · intro status
            exact ⟨print, bufferOut, frame, response, rfl, .tail _ (.head _), framed, .head _,
              status⟩
          · rintro ⟨_, _, frame', response', _, _, _, replied, status⟩
            have own : (frame', response') ∈ [(frame, response)] := replied
            cases List.mem_singleton.mp own
            exact status

theorem toNat_forgetOne (self : FpiDeviceElanMoC2 w) :
    (forgetOne self).enrolledNum.toNat = self.enrolledNum.toNat - 1 := by
  unfold forgetOne
  split
  next positive =>
    have one : (1 : BitVec w).toNat = 1 := by
      have width : w ≠ 0 := by
        rintro rfl
        have bound := self.enrolledNum.isLt
        have counted : 0 < self.enrolledNum.toNat := positive
        omega
      exact Nat.mod_eq_of_lt (Nat.one_lt_two_pow width)
    have least : (1 : BitVec w) ≤ self.enrolledNum := by
      rw [BitVec.le_def, one]
      exact positive
    change (self.enrolledNum - 1).toNat = _
    rw [BitVec.toNat_sub_of_le least, one]
  next zero =>
    have none : self.enrolledNum.toNat = 0 := by
      have : ¬ 0 < self.enrolledNum.toNat := zero
      omega
    rw [none]

/-- The second state takes one finger off on a good reply. -/
theorem toNat_checked (self : FpiDeviceElanMoC2 w) (bufferIn : Option GBytes) :
    (checked self bufferIn).enrolledNum.toNat =
      self.enrolledNum.toNat - if replyStatus bufferIn = some 0 then 1 else 0 := by
  change (judged _ bufferIn).enrolledNum.toNat = _
  unfold judged
  simp only [verdict_eq_none_iff]
  split
  · exact toNat_forgetOne _
  · rfl

theorem DeleteRun.toNat_enrolledNum (run : DeleteRun self fpiData trace after) :
    after.enrolledNum.toNat = self.enrolledNum.toNat - if Succeeds trace then 1 else 0 := by
  cases run with
  | invalid other => simp [Ssm.completed]
  | unsent print =>
      rw [toNat_checked]
      simp [Ssm.entered, Ssm.prepared]
  | failed framed => simp [Ssm.entered, Ssm.prepared, Ssm.transceived]
  | replied framed bufferIn =>
      rw [toNat_checked]
      simp [Ssm.entered, Ssm.prepared, Ssm.transceived]

end Operations

/-- One delete that was run to its end, from any state of the device. -/
structure DeleteOperation (w : Nat) where
  before : FpiDeviceElanMoC2 w
  fpiData : Option GVariant
  trace : DriverTrace
  after : FpiDeviceElanMoC2 w
  runs : (deletePrint before fpiData).Runs trace (.ok after)

/-- A sequence of deletes and the number of enrolled fingers before and after it. Each starts
from the number the one before left, but in the reply slot there may be any reply. -/
inductive Deletes {w : Nat} : BitVec w → List (DeleteOperation w) → BitVec w → Prop where
  | nil (enrolledNum : BitVec w) : Deletes enrolledNum [] enrolledNum
  | cons (op : DeleteOperation w) {ops : List (DeleteOperation w)} {final : BitVec w}
      (rest : Deletes op.after.enrolledNum ops final) :
      Deletes op.before.enrolledNum (op :: ops) final

theorem DeleteOperation.deleteRun {w : Nat} (op : DeleteOperation w) :
    DeleteRun op.before op.fpiData op.trace op.after := by
  rcases runs_deletePrint op.runs with ⟨after, run, same⟩ | ⟨_, _, _, _, impossible⟩
  · cases same
    exact run
  · exact nomatch impossible

/-- Each success takes one finger off, as long as there is one. -/
theorem Deletes.toNat_final {w : Nat} {initial final : BitVec w}
    {ops : List (DeleteOperation w)} (history : Deletes initial ops final) :
    final.toNat = initial.toNat - ops.countP fun op => Succeeds op.trace := by
  induction history with
  | nil enrolledNum => rfl
  | cons op rest ih =>
      rw [ih, op.deleteRun.toNat_enrolledNum, List.countP_cons, Nat.sub_sub]
      simp only [decide_eq_true_eq, Nat.add_comm]

/-- **Deletes.** In any sequence of deletes, whatever replies were left over, a delete that
reaches its second state completes the operation and the machine once each; it succeeds exactly
on a good reply to its own frame; if it does not succeed, the number of enrolled fingers stays;
and in the end it is the initial number less the successes, or zero. A run that stops before
its end was handed a buffer of another length than the command has, and it neither reached the
second state nor succeeded. -/
theorem deletes_complete {w : Nat} {initial final : BitVec w} {ops : List (DeleteOperation w)}
    (history : Deletes initial ops final) :
    (∀ op ∈ ops,
      (DriverRequest.entering .check ∈ asked op.trace →
        (asked op.trace).countP DriverRequest.isDeleteComplete = 1 ∧
        (asked op.trace).countP DriverRequest.isMarkCompleted = 1 ∧
        DriverRequest.markCompleted true ∈ asked op.trace) ∧
      (Succeeds op.trace ↔ Confirmed op.fpiData op.trace) ∧
      (¬ Succeeds op.trace → op.after.enrolledNum = op.before.enrolledNum)) ∧
    final.toNat = initial.toNat - ops.countP (fun op => Succeeds op.trace) ∧
    ∀ (self : FpiDeviceElanMoC2 w) fpiData trace fault,
      (deletePrint self fpiData).Runs trace (.error fault) →
        DriverRequest.entering .check ∉ asked trace ∧ ¬ Succeeds trace ∧
        ∃ bufferOut, Ssm.prepared (some bufferOut) ∈ trace ∧
          bufferOut.length ≠ deleteOutLen.toNat := by
  refine ⟨?_, history.toNat_final, ?_⟩
  · intro op _
    have run := op.deleteRun
    refine ⟨run.completes_once, run.succeeds_iff, ?_⟩
    intro failed
    apply BitVec.eq_of_toNat_eq
    rw [run.toNat_enrolledNum, if_neg failed, Nat.sub_zero]
  · intro self fpiData trace fault stopped
    rcases runs_deletePrint stopped with ⟨_, _, impossible⟩ | ⟨bufferOut, _, rfl, wrong, _⟩
    · exact nomatch impossible
    · refine ⟨?_, ?_, bufferOut, .tail _ (.head _), wrong⟩
      · simp [asked, Ssm.entered, Ssm.prepared]
      · simp [Ssm.entered, Ssm.prepared]

/-- The print of finger 0 of the user `FP`. -/
def printFP : PrintData := ⟨0, [0x46, 0x50], by decide⟩

/-- A delete on a device with one finger, which answers with this status. A reply of an earlier
operation is left in the slot. -/
def answeredDelete (status : UInt8) : DeleteOperation 32 where
  before := { bufferIn := some ⟨some [0x40, 0], by decide⟩, ssm := false, enrolledNum := 1 }
  fpiData := some (.yay printFP)
  trace := _
  after := _
  runs := DeleteRun.runs (.replied (deletePrintFrame_eq prepared_deleteRequest.length)
    (some ⟨some [0x40, status], (by decide : 2 < UInt64.size)⟩))

/-- A refused delete before a good one. -/
theorem deletes_complete_refused_first :
    ∃ final : BitVec 32, final.toNat = 0 ∧
      Deletes 1 [answeredDelete 2, answeredDelete 0] final := by
  have refused : Deletes 1 [answeredDelete 2, answeredDelete 0] _ :=
    .cons (answeredDelete 2) (.cons (answeredDelete 0) (.nil _))
  obtain ⟨-, counted, -⟩ := deletes_complete refused
  exact ⟨_, counted, refused⟩

end Elan0c00.Driver
