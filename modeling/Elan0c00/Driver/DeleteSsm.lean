import Elan0c00.Driver.DeletePrint
import Elan0c00.Interaction.Program

/-! # The delete operation

Deleting a print runs a machine of two states: one sends the frame, the other looks at the
reply. `Driver.deletePrint` is that operation as a program over what the driver asks of the
rest of libfprint. `Driver.DeleteRun` lists the runs it can have; that these are all of them is
`Driver.runs_deletePrint`, and that each can happen is `Driver.DeleteRun.runs`.
-/

namespace Elan0c00.Driver

open Bytes Interaction Interaction.Program

/-- The `fpi-data` of a print: of the type `(y@ay)`, or of another one. -/
inductive GVariant where
  | yay (print : PrintData)
  | other

/-- The errors a delete is completed with. -/
inductive DeviceError where
  | dataInvalid
  | proto (message : String)
  | general (message : String)
  deriving DecidableEq, Repr

/-- `DeleteStates`. -/
inductive DeleteState where
  | send
  | check
  deriving DecidableEq, Repr

/-- What `elanmoc2_cmd_transceive` does: it advances the SSM with a reply, which may be NULL,
or fails it. -/
inductive Transceived where
  | advanced (bufferIn : Option GBytes)
  | failed

/-- What a delete asks of code outside the driver: the SSM enters a state, a buffer is
prepared, a frame is sent, the operation is completed, the SSM is. -/
inductive DriverRequest where
  | entering (state : DeleteState)
  | prepareCmd
  | cmdTransceive (bufferOut : List UInt8)
  | deleteComplete (error : Option DeviceError)
  | markCompleted (ssm : Bool)
  deriving DecidableEq, Repr

def DriverAnswer : DriverRequest → Type
  | .prepareCmd => Option (List UInt8)
  | .cmdTransceive _ => Transceived
  | _ => Unit

abbrev DriverM := Program DriverAnswer Fault

abbrev DriverTrace := List (Event DriverAnswer)

abbrev entering (state : DeleteState) : DriverM Unit := request (DriverRequest.entering state)

abbrev prepareCmd : DriverM (Option (List UInt8)) := request DriverRequest.prepareCmd

abbrev cmdTransceive (bufferOut : List UInt8) : DriverM Transceived :=
  request (DriverRequest.cmdTransceive bufferOut)

abbrev deleteComplete (error : Option DeviceError) : DriverM Unit :=
  request (DriverRequest.deleteComplete error)

abbrev markCompleted (ssm : Bool) : DriverM Unit := request (DriverRequest.markCompleted ssm)

/-- The fields of the device that a delete uses: the reply slot, whether an SSM is running and
the number of enrolled fingers, an unsigned number of some width. -/
structure FpiDeviceElanMoC2 (w : Nat) where
  bufferIn : Option GBytes
  ssm : Bool
  enrolledNum : BitVec w

section Operation

variable {w : Nat}

/-- Complete the operation, then the SSM, whose pointer is stolen. -/
def completeDelete (self : FpiDeviceElanMoC2 w) (error : Option DeviceError) :
    DriverM (FpiDeviceElanMoC2 w) := do
  deleteComplete error
  markCompleted self.ssm
  return { self with ssm := false }

/-- `if (self->enrolled_num > 0) self->enrolled_num--`. -/
def forgetOne (self : FpiDeviceElanMoC2 w) : FpiDeviceElanMoC2 w :=
  if self.enrolledNum > 0 then { self with enrolledNum := self.enrolledNum - 1 } else self

/-- The state `DELETE_CHECK` on the reply it stole. -/
def deleteCheck (self : FpiDeviceElanMoC2 w) (bufferIn : Option GBytes) :
    DriverM (FpiDeviceElanMoC2 w) :=
  match bufferIn with
  | none => completeDelete self (some (.proto "No response to delete"))
  | some response =>
      match response.data with
      | none => completeDelete self (some (.proto "No response to delete"))
      | some dataIn =>
          if response.size < 2 then
            completeDelete self (some (.proto "No response to delete"))
          else do
            let status ← check (index dataIn 1)
            if status ≠ 0 then
              completeDelete self (some (.general "Sensor refused to delete the print"))
            else completeDelete (forgetOne self) none

/-- `elanmoc2_delete_run_state`, with whether the SSM goes on to the next state. Either state
first steals the reply there is. -/
def deleteRunState (self : FpiDeviceElanMoC2 w) (data : DeleteData) :
    DeleteState → DriverM (FpiDeviceElanMoC2 w × Bool)
  | .send => do
      let self := { self with bufferIn := none }
      let prepared ← prepareCmd
      match ← check (deleteSend data prepared) with
      | none => return (self, true)
      | some bufferOut =>
          match ← cmdTransceive bufferOut with
          | .advanced bufferIn => return ({ self with bufferIn := bufferIn }, true)
          | .failed => return (self, false)
  | .check => do
      let self ← deleteCheck { self with bufferIn := none } self.bufferIn
      return (self, false)

/-- The SSM from a state on: it enters one state after another as long as each goes on to the
next, and behind the last one completes itself. -/
def runSsm (self : FpiDeviceElanMoC2 w) (data : DeleteData) :
    List DeleteState → DriverM (FpiDeviceElanMoC2 w)
  | [] => do
      markCompleted self.ssm
      return { self with ssm := false }
  | state :: rest => do
      entering state
      let (self, next) ← deleteRunState self data state
      if next then runSsm self data rest else return self

/-- `elanmoc2_delete_print`. -/
def deletePrint (self : FpiDeviceElanMoC2 w) (fpiData : Option GVariant) :
    DriverM (FpiDeviceElanMoC2 w) :=
  match fpiData with
  | some (.yay print) => do
      let data ← check (deleteData print)
      runSsm { self with ssm := true } data [.send, .check]
  | _ => do
      deleteComplete (some .dataInvalid)
      return self

end Operation

/-! ### Runs -/

namespace Ssm

/-- The SSM enters a state. -/
def entered (state : DeleteState) : Event DriverAnswer := ⟨.entering state, ()⟩

/-- A buffer is prepared, or there is none. -/
def prepared (bufferOut : Option (List UInt8)) : Event DriverAnswer := ⟨.prepareCmd, bufferOut⟩

/-- A frame is sent. -/
def transceived (frame : List UInt8) (answer : Transceived) : Event DriverAnswer :=
  ⟨.cmdTransceive frame, answer⟩

/-- The operation is completed. -/
def completed (error : Option DeviceError) : Event DriverAnswer := ⟨.deleteComplete error, ()⟩

/-- The SSM is completed. -/
def marked (ssm : Bool) : Event DriverAnswer := ⟨.markCompleted ssm, ()⟩

end Ssm

/-- The status in a reply that has one. -/
def replyStatus (bufferIn : Option GBytes) : Option UInt8 :=
  bufferIn.bind fun response => response.contents[1]?

/-- What the operation is completed with, by the reply. -/
def verdict (bufferIn : Option GBytes) : Option DeviceError :=
  match replyStatus bufferIn with
  | none => some (.proto "No response to delete")
  | some status =>
      if status ≠ 0 then some (.general "Sensor refused to delete the print") else none

section Runs

variable {w : Nat} {self after : FpiDeviceElanMoC2 w} {trace : DriverTrace}
  {bufferIn : Option GBytes}

/-- The device after the second state: a good reply leaves one finger less. -/
def judged (self : FpiDeviceElanMoC2 w) (bufferIn : Option GBytes) : FpiDeviceElanMoC2 w :=
  if verdict bufferIn = none then forgetOne self else self

theorem verdict_eq_none_iff : verdict bufferIn = none ↔ replyStatus bufferIn = some 0 := by
  unfold verdict
  cases replyStatus bufferIn with
  | none => exact iff_of_false nofun nofun
  | some status =>
      by_cases good : status = 0
      · rw [good]
        exact iff_of_true (if_neg (not_not_intro rfl)) rfl
      · simp only [ne_eq, good, not_false_eq_true, ↓reduceIte, reduceCtorEq, Option.some.injEq]

theorem size_lt_two_iff (response : GBytes) :
    response.size < 2 ↔ response.contents.length < 2 := by
  rw [UInt64.lt_iff_toNat_lt, response.toNat_size]
  rfl

theorem deleteCheck_of_missing (missing : replyStatus bufferIn = none) :
    deleteCheck self bufferIn = completeDelete self (some (.proto "No response to delete")) := by
  unfold deleteCheck
  cases bufferIn with
  | none => rfl
  | some response =>
      have short : response.size < 2 :=
        (size_lt_two_iff response).mpr (Nat.lt_succ_iff.mpr (List.getElem?_eq_none_iff.mp missing))
      simp only [if_pos short]
      cases response.data with
      | none => rfl
      | some dataIn => rfl

theorem deleteCheck_of_status {status : UInt8} (known : replyStatus bufferIn = some status) :
    deleteCheck self bufferIn =
      if status ≠ 0 then
        completeDelete self (some (.general "Sensor refused to delete the print"))
      else completeDelete (forgetOne self) none := by
  unfold deleteCheck
  cases bufferIn with
  | none => cases known
  | some response =>
      have present : response.contents[1]? = some status := known
      have inside : 1 < response.contents.length := (List.getElem?_eq_some_iff.mp present).1
      have long : ¬ response.size < 2 := by
        rw [size_lt_two_iff]
        exact Nat.not_lt.mpr inside
      simp only [GBytes.exists_data inside, if_neg long, index_eq_ok present]
      rfl

/-- The second state completes everything with the verdict on the reply it stole. -/
theorem deleteCheck_eq (self : FpiDeviceElanMoC2 w) (bufferIn : Option GBytes) :
    deleteCheck self bufferIn = completeDelete (judged self bufferIn) (verdict bufferIn) := by
  unfold judged verdict
  cases known : replyStatus bufferIn with
  | none => exact deleteCheck_of_missing known
  | some status =>
      rw [deleteCheck_of_status known]
      by_cases good : status = 0
      · simp [good]
      · simp [good]

theorem judged_ssm (self : FpiDeviceElanMoC2 w) (bufferIn : Option GBytes) :
    (judged self bufferIn).ssm = self.ssm := by
  unfold judged forgetOne
  split
  · split <;> rfl
  · rfl

theorem runs_completeDelete_iff {error : Option DeviceError}
    {result : Except Fault (FpiDeviceElanMoC2 w)} :
    (completeDelete self error).Runs trace result ↔
      trace = [Ssm.completed error, Ssm.marked self.ssm] ∧
        result = .ok { self with ssm := false } := by
  unfold completeDelete
  refine runs_request_bind_iff.trans ?_
  constructor
  · rintro ⟨_, tail, rfl, marking⟩
    obtain ⟨_, last, rfl, returned⟩ := runs_request_bind_iff.mp marking
    obtain ⟨rfl, rfl⟩ := runs_pure_iff.mp returned
    exact ⟨rfl, rfl⟩
  · rintro ⟨rfl, rfl⟩
    exact ⟨(), _, rfl, runs_request_bind_iff.mpr ⟨(), [], rfl, runs_pure_iff.mpr ⟨rfl, rfl⟩⟩⟩

/-- What is asked once the second state is entered. -/
def checkTrace (ssm : Bool) (bufferIn : Option GBytes) : DriverTrace :=
  [Ssm.entered .check, Ssm.completed (verdict bufferIn), Ssm.marked ssm]

/-- The device after an SSM that went through its second state. -/
def checked (self : FpiDeviceElanMoC2 w) (bufferIn : Option GBytes) : FpiDeviceElanMoC2 w :=
  { judged { self with bufferIn := none } bufferIn with ssm := false }

/-- The second state completes the operation and the SSM, and the SSM goes no further. -/
theorem runs_deleteRunState_check_iff {data : DeleteData}
    {result : Except Fault (FpiDeviceElanMoC2 w × Bool)} :
    (deleteRunState self data .check).Runs trace result ↔
      trace = [Ssm.completed (verdict self.bufferIn), Ssm.marked self.ssm] ∧
        result = .ok (checked self self.bufferIn, false) := by
  unfold deleteRunState
  simp only [deleteCheck_eq]
  constructor
  · intro run
    rcases runs_bind_iff.mp run with
      ⟨fault, failed, _⟩ | ⟨value, first, second, rfl, completed, returned⟩
    · exact nomatch (runs_completeDelete_iff.mp failed).2
    · obtain ⟨rfl, same⟩ := runs_completeDelete_iff.mp completed
      cases same
      obtain ⟨rfl, rfl⟩ := runs_pure_iff.mp returned
      rw [judged_ssm, List.append_nil]
      exact ⟨rfl, rfl⟩
  · rintro ⟨rfl, rfl⟩
    refine runs_bind_iff.mpr (.inr ⟨_, _, [], (List.append_nil _).symm, ?_, .ret _⟩)
    apply runs_completeDelete_iff.mpr
    rw [judged_ssm]
    exact ⟨rfl, rfl⟩

/-- The device behind the first state, and whether the SSM goes on. -/
def sent (self : FpiDeviceElanMoC2 w) : Transceived → FpiDeviceElanMoC2 w × Bool
  | .advanced bufferIn => ({ self with bufferIn := bufferIn }, true)
  | .failed => ({ self with bufferIn := none }, false)

theorem deleteSend_ne_none {data : DeleteData} {bufferOut : List UInt8} :
    deleteSend data (some bufferOut) ≠ .ok none := by
  intro sends
  unfold deleteSend at sends
  simp only at sends
  obtain ⟨_, _, writing⟩ := bind_eq_ok sends
  obtain ⟨_, _, copying⟩ := bind_eq_ok writing
  obtain ⟨_, _, returning⟩ := bind_eq_ok copying
  cases returning

/-- The first state finds no buffer, or sends its frame, or faults on writing it. -/
theorem runs_deleteRunState_send {data : DeleteData}
    {result : Except Fault (FpiDeviceElanMoC2 w × Bool)}
    (run : (deleteRunState self data .send).Runs trace result) :
    (trace = [Ssm.prepared none] ∧ result = .ok ({ self with bufferIn := none }, true)) ∨
      (∃ bufferOut frame answer, deleteSend data (some bufferOut) = .ok (some frame) ∧
        trace = [Ssm.prepared (some bufferOut), Ssm.transceived frame answer] ∧
        result = .ok (sent self answer)) ∨
      ∃ bufferOut fault, deleteSend data (some bufferOut) = .error fault ∧
        trace = [Ssm.prepared (some bufferOut)] ∧ result = .error fault := by
  unfold deleteRunState at run
  obtain ⟨prepared, rest, rfl, sending⟩ := runs_request_bind_iff.mp run
  rcases runs_check_bind_iff.mp sending with ⟨fault, failed, rfl, rfl⟩ | ⟨framed, ok, going⟩
  · cases prepared with
    | none => exact nomatch failed
    | some bufferOut => exact .inr (.inr ⟨bufferOut, fault, failed, rfl, rfl⟩)
  · cases prepared with
    | none =>
        cases ok
        obtain ⟨rfl, rfl⟩ := runs_pure_iff.mp going
        exact .inl ⟨rfl, rfl⟩
    | some bufferOut =>
        cases framed with
        | none => exact absurd ok deleteSend_ne_none
        | some frame =>
            obtain ⟨answer, tail, rfl, answered⟩ := runs_request_bind_iff.mp going
            refine .inr (.inl ⟨bufferOut, frame, answer, ok, ?_⟩)
            cases answer with
            | advanced bufferIn =>
                obtain ⟨rfl, rfl⟩ := runs_pure_iff.mp answered
                exact ⟨rfl, rfl⟩
            | failed =>
                obtain ⟨rfl, rfl⟩ := runs_pure_iff.mp answered
                exact ⟨rfl, rfl⟩

/-- An SSM in its last state ends there. -/
theorem runs_ssm_check_iff {data : DeleteData} {result : Except Fault (FpiDeviceElanMoC2 w)} :
    (runSsm self data [.check]).Runs trace result ↔
      trace = checkTrace self.ssm self.bufferIn ∧
        result = .ok (checked self self.bufferIn) := by
  constructor
  · intro run
    obtain ⟨_, tail, rfl, entered⟩ := runs_request_bind_iff.mp run
    rcases runs_bind_iff.mp entered with
      ⟨fault, failed, _⟩ | ⟨value, first, second, rfl, checking, returned⟩
    · exact nomatch (runs_deleteRunState_check_iff.mp failed).2
    · obtain ⟨rfl, same⟩ := runs_deleteRunState_check_iff.mp checking
      cases same
      obtain ⟨rfl, rfl⟩ := runs_pure_iff.mp returned
      exact ⟨rfl, rfl⟩
  · rintro ⟨rfl, rfl⟩
    refine runs_request_bind_iff.mpr ⟨(), _, rfl, runs_bind_iff.mpr (.inr ?_)⟩
    exact ⟨_, _, [], (List.append_nil _).symm,
      runs_deleteRunState_check_iff.mpr ⟨rfl, rfl⟩, .ret _⟩

/-- The runs of a delete: data of another type is refused; else the first state is entered and
either finds no buffer, or sends the frame of the print, which fails or advances with a reply;
and the second state, if it is entered, looks at that reply or at none. -/
inductive DeleteRun (self : FpiDeviceElanMoC2 w) :
    Option GVariant → DriverTrace → FpiDeviceElanMoC2 w → Prop where
  | invalid {fpiData : Option GVariant} (other : ∀ print, fpiData ≠ some (.yay print)) :
      DeleteRun self fpiData [Ssm.completed (some .dataInvalid)] self
  | unsent (print : PrintData) :
      DeleteRun self (some (.yay print))
        (Ssm.entered .send :: Ssm.prepared none :: checkTrace true none)
        (checked { self with ssm := true } none)
  | failed {print : PrintData} {bufferOut frame : List UInt8}
      (framed : deletePrintFrame print (some bufferOut) = .ok (some frame)) :
      DeleteRun self (some (.yay print))
        [Ssm.entered .send, Ssm.prepared (some bufferOut), Ssm.transceived frame .failed]
        { self with bufferIn := none, ssm := true }
  | replied {print : PrintData} {bufferOut frame : List UInt8}
      (framed : deletePrintFrame print (some bufferOut) = .ok (some frame))
      (bufferIn : Option GBytes) :
      DeleteRun self (some (.yay print))
        (Ssm.entered .send :: Ssm.prepared (some bufferOut) ::
          Ssm.transceived frame (.advanced bufferIn) :: checkTrace true bufferIn)
        (checked { self with ssm := true } bufferIn)

theorem deletePrintFrame_of_filled {print : PrintData} {data : DeleteData}
    (filled : deleteData print = .ok data) (prepared : Option (List UInt8)) :
    deletePrintFrame print prepared = deleteSend data prepared := by
  unfold deletePrintFrame
  rw [filled]
  rfl

/-- The first state, and the second one if the SSM goes on, make a delete. -/
theorem runs_deletePrint_yay {print : PrintData} {data : DeleteData}
    {first second : DriverTrace} {going : FpiDeviceElanMoC2 w × Bool}
    (filled : deleteData print = .ok data)
    (sending : (deleteRunState { self with ssm := true } data .send).Runs first (.ok going))
    (rest : (if going.2 then runSsm going.1 data [.check] else pure going.1).Runs second
      (.ok after)) :
    (deletePrint self (some (.yay print))).Runs (Ssm.entered .send :: (first ++ second))
      (.ok after) := by
  unfold deletePrint
  simp only [filled]
  refine runs_request_bind_iff.mpr ⟨(), _, rfl, runs_bind_iff.mpr (.inr ?_)⟩
  exact ⟨going, first, second, rfl, sending, rest⟩

/-- Every one of them is a run. -/
theorem DeleteRun.runs {fpiData : Option GVariant} (run : DeleteRun self fpiData trace after) :
    (deletePrint self fpiData).Runs trace (.ok after) := by
  have transceiving : ∀ {print : PrintData} {data : DeleteData} {bufferOut frame : List UInt8},
      deleteData print = .ok data →
      deletePrintFrame print (some bufferOut) = .ok (some frame) →
      ∀ answer, (deleteRunState { self with ssm := true } data .send).Runs
        [Ssm.prepared (some bufferOut), Ssm.transceived frame answer]
        (.ok (sent { self with ssm := true } answer)) := by
    intro print data bufferOut frame filled framed answer
    have sends := framed
    rw [deletePrintFrame_of_filled filled] at sends
    refine runs_request_bind_iff.mpr ⟨some bufferOut, _, rfl, ?_⟩
    refine runs_check_bind_iff.mpr (.inr ⟨some frame, sends, ?_⟩)
    refine runs_request_bind_iff.mpr ⟨answer, [], rfl, ?_⟩
    cases answer with
    | advanced bufferIn => exact .ret _
    | failed => exact .ret _
  cases run with
  | invalid other =>
      match fpiData with
      | none => exact runs_request_bind_iff.mpr ⟨(), [], rfl, .ret self⟩
      | some .other => exact runs_request_bind_iff.mpr ⟨(), [], rfl, .ret self⟩
      | some (.yay print) => exact absurd rfl (other print)
  | unsent print =>
      refine @runs_deletePrint_yay w self _ print _ [Ssm.prepared none] _
        ({ self with bufferIn := none, ssm := true }, true) deleteData_eq ?_
        (runs_ssm_check_iff.mpr ⟨rfl, rfl⟩)
      exact runs_request_bind_iff.mpr ⟨none, [], rfl, .ret _⟩
  | failed framed =>
      exact runs_deletePrint_yay deleteData_eq (transceiving deleteData_eq framed .failed)
        (.ret _)
  | replied framed bufferIn =>
      exact runs_deletePrint_yay deleteData_eq
        (transceiving deleteData_eq framed (.advanced bufferIn))
        (runs_ssm_check_iff.mpr ⟨rfl, rfl⟩)

/-- **The delete operation.** A run is one of those described, unless it stops because the
prepared buffer has another length than the command. -/
theorem runs_deletePrint {fpiData : Option GVariant}
    {result : Except Fault (FpiDeviceElanMoC2 w)}
    (run : (deletePrint self fpiData).Runs trace result) :
    (∃ after, DeleteRun self fpiData trace after ∧ result = .ok after) ∨
      ∃ bufferOut fault, trace = [Ssm.entered .send, Ssm.prepared (some bufferOut)] ∧
        bufferOut.length ≠ deleteOutLen.toNat ∧ result = .error fault := by
  have refused : ∀ fpiData : Option GVariant, (∀ print, fpiData ≠ some (.yay print)) →
      (do deleteComplete (some .dataInvalid); return self : DriverM _).Runs trace result →
        ∃ after, DeleteRun self fpiData trace after ∧ result = .ok after := by
    intro fpiData other run
    obtain ⟨_, tail, rfl, returned⟩ := runs_request_bind_iff.mp run
    obtain ⟨rfl, rfl⟩ := runs_pure_iff.mp returned
    exact ⟨self, .invalid other, rfl⟩
  match fpiData with
  | none => exact .inl (refused none nofun run)
  | some .other => exact .inl (refused (some .other) nofun run)
  | some (.yay print) =>
      obtain ⟨data, filled⟩ : ∃ data, deleteData print = .ok data := ⟨_, deleteData_eq⟩
      have framed := deletePrintFrame_of_filled filled
      unfold deletePrint at run
      simp only [filled] at run
      obtain ⟨_, tail, rfl, entered⟩ := runs_request_bind_iff.mp run
      rcases runs_bind_iff.mp entered with
        ⟨fault, failed, rfl⟩ | ⟨value, first, second, rfl, sending, going⟩
      · rcases runs_deleteRunState_send failed with
          ⟨_, impossible⟩ | ⟨_, _, _, _, _, impossible⟩ | ⟨bufferOut, fault', stopped, rfl, _⟩
        · exact nomatch impossible
        · exact nomatch impossible
        · refine .inr ⟨bufferOut, fault, rfl, ?_, rfl⟩
          intro length
          rw [← framed, deletePrintFrame_eq length] at stopped
          exact nomatch stopped
      · rcases runs_deleteRunState_send sending with
          ⟨rfl, same⟩ | ⟨bufferOut, frame, answer, sends, rfl, same⟩ | ⟨_, _, _, _, impossible⟩
        · cases same
          obtain ⟨rfl, rfl⟩ := runs_ssm_check_iff.mp going
          exact .inl ⟨_, .unsent print, rfl⟩
        · rw [← framed] at sends
          cases same
          cases answer with
          | advanced bufferIn =>
              obtain ⟨rfl, rfl⟩ := runs_ssm_check_iff.mp going
              exact .inl ⟨_, .replied sends bufferIn, rfl⟩
          | failed =>
              obtain ⟨rfl, rfl⟩ := runs_pure_iff.mp going
              exact .inl ⟨_, .failed sends, rfl⟩
        · exact nomatch impossible

end Runs

end Elan0c00.Driver
