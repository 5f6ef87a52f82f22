import Elan0c00.Exchange

/-! # Library calls

Every public operation of an opened sensor is a `Call`: one command with one payload, asked
once or retried, and a decoder for the reply. `Call.runs_perform_iff` reduces the runs of all
of them to `Call.Replies` and `Call.decode`.
-/

namespace Elan0c00

open Interaction Interaction.Fallible Bytes

/-- What a firmware version reply says. -/
def decodeVersion : List UInt8 → Except Error FirmwareVersion
  | first :: second :: _ =>
      .ok { major := Proto.bcd first, minor := Proto.bcd second, raw := (first, second) }
  | reply => .error (.short 2 reply.length)

/-- What a reply to the enrolled count query says. -/
def decodeCount : List UInt8 → Except Error UInt8
  | _ :: count :: _ => .ok count
  | reply => .error (.short 2 reply.length)

/-- The user id of a record, the error status of its second byte already excluded. -/
def decodeUserId (pid : UInt16) (index : UInt8) (reply : List UInt8) : Except Error FingerInfo :=
  if reply.length < Proto.userIdOffset pid then
    .error (.short (Proto.userIdOffset pid) reply.length)
  else .ok { index := index, userId := trimEnd 0 (reply.drop (Proto.userIdOffset pid)) }

/-- What a `fingerInfo` reply says of the slot asked for. -/
def decodeFingerInfo (pid : UInt16) (index : UInt8) (reply : List UInt8) :
    Except Error FingerInfo :=
  match reply with
  | _ :: status :: _ =>
      if (Status.fromByte status).isOk then decodeUserId pid index reply
      else .error (.status (Status.fromByte status))
  | _ => decodeUserId pid index reply

section Decoders

variable {dev : ElanMoc2}

theorem firmwareVersion_eq :
    dev.firmwareVersion =
      dev.transceiveRaw Proto.getFwVer [] >>= fun reply => settle (decodeVersion reply) := by
  unfold ElanMoc2.firmwareVersion
  congr 1
  funext reply
  match reply with
  | [] => rfl
  | [_] => rfl
  | first :: second :: rest =>
      have long : ¬ (first :: second :: rest).length < 2 :=
        Nat.not_lt.mpr (Nat.le_add_left 2 rest.length)
      simp only [long, ↓reduceIte]
      rfl

theorem enrolledCount_eq :
    dev.enrolledCount =
      dev.transceiveRetrying Proto.getEnrolledCount [] >>= fun reply =>
        settle (decodeCount reply) := by
  unfold ElanMoc2.enrolledCount
  congr 1
  funext reply
  match reply with
  | [] => rfl
  | [_] => rfl
  | first :: count :: rest =>
      have long : ¬ (first :: count :: rest).length < 2 :=
        Nat.not_lt.mpr (Nat.le_add_left 2 rest.length)
      simp only [long, ↓reduceIte]
      rfl

/-- No read of the record is out of range: the length checks leave only good ones. -/
theorem fingerInfo_eq {index : UInt8} :
    dev.fingerInfo index =
      dev.transceiveRetrying Proto.fingerInfo [index] >>= fun reply =>
        settle (decodeFingerInfo dev.pid index reply) := by
  have userId : ∀ reply : List UInt8,
      (if reply.length < Proto.userIdOffset dev.pid then
          throw (.short (Proto.userIdOffset dev.pid) reply.length)
        else check (sliceFrom reply (Proto.userIdOffset dev.pid)) >>= fun userId =>
          pure { index := index, userId := trimEnd 0 userId } : DeviceM FingerInfo) =
        settle (decodeUserId dev.pid index reply) := by
    intro reply
    unfold decodeUserId
    by_cases short : reply.length < Proto.userIdOffset dev.pid
    · rw [if_pos short, if_pos short, throw_eq_settle]
    · rw [if_neg short, if_neg short, sliceFrom_eq_ok (Nat.not_lt.mp short), check_ok, pure_bind,
        pure_eq_settle]
  unfold ElanMoc2.fingerInfo
  congr 1
  funext reply
  simp only [throw_bind, userId]
  match reply with
  | [] => rfl
  | [_] => rfl
  | first :: status :: rest =>
      have long : (first :: status :: rest).length ≥ 2 := Nat.le_add_left 2 rest.length
      have read : Bytes.index (first :: status :: rest) 1 = .ok status := rfl
      simp only [long, ↓reduceIte, read, check_ok, pure_bind, decodeFingerInfo]
      cases (Status.fromByte status).isOk <;> rfl

/-- Decoding the reply of a program whose runs are known. -/
theorem runs_bind_settle_of {program : DeviceM (List UInt8)}
    {replies : Trace → Except Error (List UInt8) → Prop}
    (runs : ∀ {trace result}, program.run.Runs trace result ↔
      ∃ outcome, replies trace outcome ∧ result = .ok outcome)
    {decode : List UInt8 → Except Error α} {trace : Trace}
    {result : Except Fault (Except Error α)} :
    (program >>= fun reply => settle (decode reply)).run.Runs trace result ↔
      ∃ outcome, replies trace outcome ∧ result = .ok (outcome.bind decode) := by
  rw [runs_bind_settle_iff]
  constructor
  · rintro (⟨fault, run, _⟩ | ⟨known, run, rfl⟩)
    · obtain ⟨_, _, impossible⟩ := runs.mp run
      exact nomatch impossible
    · obtain ⟨outcome, replied, same⟩ := runs.mp run
      cases same
      exact ⟨known, replied, rfl⟩
  · rintro ⟨outcome, replied, rfl⟩
    exact .inr ⟨outcome, runs.mpr ⟨outcome, replied, rfl⟩, rfl⟩

variable {trace : Trace}

theorem runs_firmwareVersion_iff {result : Except Fault (Except Error FirmwareVersion)} :
    dev.firmwareVersion.run.Runs trace result ↔
      ∃ outcome, Asked .transceiveRaw Proto.getFwVer [] trace outcome ∧
        result = .ok (outcome.bind decodeVersion) := by
  rw [firmwareVersion_eq]
  exact runs_bind_settle_of (EntryPoint.runs_perform_iff .transceiveRaw dev)

theorem runs_enrolledCount_iff {result : Except Fault (Except Error UInt8)} :
    dev.enrolledCount.run.Runs trace result ↔
      ∃ outcome, Retried Proto.getEnrolledCount [] Proto.maxRetries trace outcome ∧
        result = .ok (outcome.bind decodeCount) := by
  rw [enrolledCount_eq]
  exact runs_bind_settle_of runs_retry_iff

theorem runs_fingerInfo_iff {index : UInt8} {result : Except Fault (Except Error FingerInfo)} :
    (dev.fingerInfo index).run.Runs trace result ↔
      ∃ outcome, Retried Proto.fingerInfo [index] Proto.maxRetries trace outcome ∧
        result = .ok (outcome.bind (decodeFingerInfo dev.pid index)) := by
  rw [fingerInfo_eq]
  exact runs_bind_settle_of runs_retry_iff

theorem runs_abort_iff {result : Except Fault (Except Error Unit)} :
    dev.abort.run.Runs trace result ↔
      ∃ outcome, Asked .transceive Proto.abort [] trace outcome ∧
        result = .ok (outcome.bind fun _ => .ok ()) := by
  change (dev.transceive Proto.abort [] >>= fun _ => settle (.ok ())).run.Runs _ _ ↔ _
  exact runs_bind_settle_of (EntryPoint.runs_perform_iff .transceive dev)

/-! No operation panics. -/

theorem EntryPoint.perform_safe (entry : EntryPoint) (cmd : Cmd) (payload : List UInt8) :
    Safe (entry.perform dev cmd payload) := by
  intro trace fault run
  obtain ⟨_, _, impossible⟩ := (entry.runs_perform_iff dev).mp run
  exact nomatch impossible

theorem firmwareVersion_safe : Safe dev.firmwareVersion := by
  intro trace fault run
  obtain ⟨_, _, impossible⟩ := runs_firmwareVersion_iff.mp run
  exact nomatch impossible

theorem enrolledCount_safe : Safe dev.enrolledCount := by
  intro trace fault run
  obtain ⟨_, _, impossible⟩ := runs_enrolledCount_iff.mp run
  exact nomatch impossible

theorem fingerInfo_safe (index : UInt8) : Safe (dev.fingerInfo index) := by
  intro trace fault run
  obtain ⟨_, _, impossible⟩ := runs_fingerInfo_iff.mp run
  exact nomatch impossible

theorem abort_safe : Safe dev.abort := by
  intro trace fault run
  obtain ⟨_, _, impossible⟩ := runs_abort_iff.mp run
  exact nomatch impossible

end Decoders

/-- What a call returns. -/
inductive Value where
  | bytes (reply : List UInt8)
  | version (v : FirmwareVersion)
  | count (n : UInt8)
  | info (f : FingerInfo)
  | unit
  deriving DecidableEq, Repr

/-- A call of one of the public operations on an opened sensor. -/
inductive Call where
  | transceive (cmd : Cmd) (payload : List UInt8)
  | transceiveRaw (cmd : Cmd) (payload : List UInt8)
  | transceiveDestructive (cmd : Cmd) (payload : List UInt8) (token : DestructiveOps)
  | firmwareVersion
  | enrolledCount
  | fingerInfo (index : UInt8)
  | abort

namespace Call

/-- The operation a call stands for. -/
def perform (dev : ElanMoc2) : Call → DeviceM Value
  | .transceive cmd payload => do return .bytes (← dev.transceive cmd payload)
  | .transceiveRaw cmd payload => do return .bytes (← dev.transceiveRaw cmd payload)
  | .transceiveDestructive cmd payload token => do
      return .bytes (← dev.transceiveDestructive cmd payload token)
  | .firmwareVersion => do return .version (← dev.firmwareVersion)
  | .enrolledCount => do return .count (← dev.enrolledCount)
  | .fingerInfo index => do return .info (← dev.fingerInfo index)
  | .abort => do
      dev.abort
      return .unit

def cmd : Call → Cmd
  | .transceive cmd _ => cmd
  | .transceiveRaw cmd _ => cmd
  | .transceiveDestructive cmd _ _ => cmd
  | .firmwareVersion => Proto.getFwVer
  | .enrolledCount => Proto.getEnrolledCount
  | .fingerInfo _ => Proto.fingerInfo
  | .abort => Proto.abort

def payload : Call → List UInt8
  | .transceive _ payload => payload
  | .transceiveRaw _ payload => payload
  | .transceiveDestructive _ payload _ => payload
  | .fingerInfo index => [index]
  | _ => []

/-- The way the call's command is sent. -/
def entry : Call → EntryPoint
  | .transceiveRaw _ _ => .transceiveRaw
  | .firmwareVersion => .transceiveRaw
  | .transceiveDestructive _ _ _ => .transceiveDestructive
  | _ => .transceive

/-- Whether an empty reply is asked for again. -/
def retries : Call → Bool
  | .enrolledCount => true
  | .fingerInfo _ => true
  | _ => false

theorem entry_of_retries {call : Call} (retries : call.retries = true) :
    call.entry = .transceive := by
  cases call with
  | enrolledCount => rfl
  | fingerInfo => rfl
  | _ => exact nomatch retries

/-- The call is made without a `DestructiveOps` token. -/
def TokenFree : Call → Prop
  | .transceiveDestructive _ _ _ => False
  | _ => True

/-- What the call makes of an accepted reply. -/
def decode (dev : ElanMoc2) : Call → List UInt8 → Except Error Value
  | .firmwareVersion, reply => (decodeVersion reply).map .version
  | .enrolledCount, reply => (decodeCount reply).map .count
  | .fingerInfo index, reply => (decodeFingerInfo dev.pid index reply).map .info
  | .abort, _ => .ok .unit
  | _, reply => .ok (.bytes reply)

/-- The transfers of a call and the reply that comes of them. -/
def Replies (call : Call) (trace : Trace) (outcome : Except Error (List UInt8)) : Prop :=
  if call.retries then Retried call.cmd call.payload Proto.maxRetries trace outcome
  else Asked call.entry call.cmd call.payload trace outcome

end Call

/-- Renaming the value of a decoded reply is decoding it to the renamed value. -/
private theorem settle_bind_return {decode : List UInt8 → Except Error α} {wrap : α → Value}
    (program : DeviceM (List UInt8)) :
    (program >>= fun reply => settle (decode reply)) >>= (fun value => pure (wrap value)) =
      program >>= fun reply => settle ((decode reply).map wrap) := by
  rw [bind_assoc]
  congr 1
  funext reply
  cases decode reply <;> rfl

/-- **Library calls.** A run of a call is a run of its exchanges with the reply decoded, and
never a panic. -/
theorem Call.runs_perform_iff {dev : ElanMoc2} (call : Call) {trace : Trace}
    {result : Except Fault (Except Error Value)} :
    (call.perform dev).run.Runs trace result ↔
      ∃ outcome, call.Replies trace outcome ∧ result = .ok (outcome.bind (call.decode dev)) := by
  cases call with
  | transceive cmd payload =>
      exact runs_bind_settle_of (EntryPoint.runs_perform_iff .transceive dev)
  | transceiveRaw cmd payload =>
      exact runs_bind_settle_of (EntryPoint.runs_perform_iff .transceiveRaw dev)
  | transceiveDestructive cmd payload token =>
      exact runs_bind_settle_of (EntryPoint.runs_perform_iff .transceiveDestructive dev)
  | firmwareVersion =>
      change (dev.firmwareVersion >>= fun v => pure (Value.version v)).run.Runs _ _ ↔ _
      rw [firmwareVersion_eq, settle_bind_return]
      exact runs_bind_settle_of (EntryPoint.runs_perform_iff .transceiveRaw dev)
  | enrolledCount =>
      change (dev.enrolledCount >>= fun n => pure (Value.count n)).run.Runs _ _ ↔ _
      rw [enrolledCount_eq, settle_bind_return]
      exact runs_bind_settle_of runs_retry_iff
  | fingerInfo index =>
      change (dev.fingerInfo index >>= fun f => pure (Value.info f)).run.Runs _ _ ↔ _
      rw [fingerInfo_eq, settle_bind_return]
      exact runs_bind_settle_of runs_retry_iff
  | abort =>
      change ((dev.transceive Proto.abort [] >>= fun _ => settle (.ok ())) >>=
        fun _ => pure Value.unit).run.Runs _ _ ↔ _
      rw [settle_bind_return]
      exact runs_bind_settle_of (EntryPoint.runs_perform_iff .transceive dev)

end Elan0c00
