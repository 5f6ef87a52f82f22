import Elan0c00.Bytes.Access
import Elan0c00.Bytes.Padding

/-! # The wire protocol

Requests, commands and status bytes of the match-on-chip sensor, as `src/proto.rs` has them.
A request is `0x40`, the opcode, the payload and zeros up to the command's `outLen`;
`Proto.frame` builds it by checked writes into a zeroed buffer, and `Proto.frame_eq` says
that no write faults and what the result is.
-/

namespace Elan0c00

open Bytes

namespace Proto

/-- Every request and every framed response begins with this byte. -/
def frameMagic : UInt8 := 0x40

def epCmdOut : UInt8 := 0x01

def epCmdIn : UInt8 := 0x83

/-- The endpoint of the long-running replies of `identify` and `enroll`. -/
def epMocCmdIn : UInt8 := 0x84

/-- The vendor of all ELAN sensors. -/
def vid : UInt16 := 0x04f3

def supportedPids : List UInt16 := [0x0c00, 0x0c4c, 0x0c5e, 0x0c7c, 0x0c90]

def pid0c5e : UInt16 := 0x0c5e

/-- Attempts at a query that the sensor answers with zero bytes. -/
def maxRetries : Nat := 3

/-- Templates storable on the sensor. -/
def maxPrints : Nat := 10

end Proto

/-- Whether a command may write to the sensor's persistent state. -/
inductive Effect where
  | readOnly
  | transient
  | persistent
  deriving DecidableEq, Repr

/-- A single protocol command. Every field is public: a caller may build any of them. -/
structure Cmd where
  name : String
  cmd : List UInt8
  outLen : Nat
  inLen : Nat
  epIn : UInt8
  isCancellable : Bool
  effect : Effect
  deriving DecidableEq, Repr

namespace Proto

def getFwVer : Cmd where
  name := "get_fw_ver"
  cmd := [0x19]
  outLen := 2
  inLen := 2
  epIn := epCmdIn
  isCancellable := false
  effect := .readOnly

def getEnrolledCount : Cmd where
  name := "get_enrolled_count"
  cmd := [0xff, 0x04]
  outLen := 3
  inLen := 2
  epIn := epCmdIn
  isCancellable := false
  effect := .readOnly

def fingerInfo : Cmd where
  name := "finger_info"
  cmd := [0xff, 0x12]
  outLen := 4
  inLen := 64
  epIn := epCmdIn
  isCancellable := false
  effect := .readOnly

def checkEnrollCollision : Cmd where
  name := "check_enroll_collision"
  cmd := [0xff, 0x10]
  outLen := 3
  inLen := 3
  epIn := epCmdIn
  isCancellable := false
  effect := .readOnly

def abort : Cmd where
  name := "abort"
  cmd := [0xff, 0x02]
  outLen := 3
  inLen := 2
  epIn := epCmdIn
  isCancellable := false
  effect := .transient

def identify : Cmd where
  name := "identify"
  cmd := [0xff, 0x03]
  outLen := 3
  inLen := 2
  epIn := epMocCmdIn
  isCancellable := true
  effect := .transient

def enroll : Cmd where
  name := "enroll"
  cmd := [0xff, 0x01]
  outLen := 7
  inLen := 2
  epIn := epMocCmdIn
  isCancellable := true
  effect := .persistent

def commit : Cmd where
  name := "commit"
  cmd := [0xff, 0x11]
  outLen := 72
  inLen := 2
  epIn := epCmdIn
  isCancellable := false
  effect := .persistent

def delete : Cmd where
  name := "delete"
  cmd := [0xff, 0x13]
  outLen := 72
  inLen := 2
  epIn := epCmdIn
  isCancellable := false
  effect := .persistent

def wipeSensor : Cmd where
  name := "wipe_sensor"
  cmd := [0xff, 0x99]
  outLen := 3
  inLen := 0
  epIn := epCmdIn
  isCancellable := false
  effect := .persistent

/-- The ten commands the crate ships. -/
def commands : List Cmd :=
  [getFwVer, getEnrolledCount, fingerInfo, checkEnrollCollision, abort, identify, enroll, commit,
    delete, wipeSensor]

end Proto

/-- The status byte of a response, decoded. -/
inductive Status where
  | ok (b : UInt8)
  | moveDown
  | moveRight
  | moveUp
  | moveLeft
  | maxEnrolledReached
  | sensorDirty
  | notEnrolled
  | notEnoughSurface
  | rejected
  | unknown (b : UInt8)
  deriving DecidableEq, Repr

/-- A clear upper nibble is an ordinary status, anything else an error. -/
def Status.fromByte (b : UInt8) : Status :=
  if b &&& 0xF0 = 0 then .ok b
  else if b = 0x41 then .moveDown
  else if b = 0x42 then .moveRight
  else if b = 0x43 then .moveUp
  else if b = 0x44 then .moveLeft
  else if b = 0xdd then .maxEnrolledReached
  else if b = 0xfb then .sensorDirty
  else if b = 0xfd then .notEnrolled
  else if b = 0xfe then .notEnoughSurface
  else if b = 0xff then .rejected
  else .unknown b

/-- `matches!(status, Status::Ok(_))`. -/
def Status.isOk : Status → Bool
  | .ok _ => true
  | _ => false

namespace Status

theorem fromByte_eq_ok {b : UInt8} (ordinary : b &&& 0xF0 = 0) : fromByte b = .ok b :=
  if_pos ordinary

/-- Only bytes with a clear upper nibble are ordinary statuses. -/
theorem isOk_fromByte (b : UInt8) : (fromByte b).isOk = true ↔ b &&& 0xF0 = 0 := by
  constructor
  · intro accepted
    by_contra failing
    unfold fromByte at accepted
    rw [if_neg failing] at accepted
    simp only [apply_ite Status.isOk] at accepted
    simp only [isOk, ite_self, Bool.false_eq_true] at accepted
  · intro ordinary
    rw [fromByte_eq_ok ordinary]
    rfl

theorem eq_of_fromByte_eq_ok {b s : UInt8} (decoded : fromByte b = .ok s) :
    s = b ∧ b &&& 0xF0 = 0 := by
  have ordinary : b &&& 0xF0 = 0 := (isOk_fromByte b).mp (by rw [decoded]; rfl)
  rw [fromByte_eq_ok ordinary, Status.ok.injEq] at decoded
  exact ⟨decoded.symm, ordinary⟩

end Status

namespace Proto

/-- Offset of the user id in a `fingerInfo` reply: `0c5e` reserves one extra byte. -/
def userIdOffset (pid : UInt16) : Nat := if pid = pid0c5e then 3 else 2

theorem userIdOffset_cases (pid : UInt16) : userIdOffset pid = 2 ∨ userIdOffset pid = 3 := by
  unfold userIdOffset
  split
  · exact .inr rfl
  · exact .inl rfl

/-- Decode one packed-BCD byte. -/
def bcd (b : UInt8) : UInt8 := (b >>> 4) * 10 + (b &&& 0x0f)

/-- Build the OUT buffer of a command, the payload after the opcode; `none` when they do not
fit. -/
def frame (cmd : Cmd) (payload : List UInt8) : Except Fault (Option (List UInt8)) := do
  let header := 1 + cmd.cmd.length
  if header + payload.length > cmd.outLen then
    return none
  let buf := List.replicate cmd.outLen 0
  let buf ← write buf 0 frameMagic
  let buf ← copyFromSlice buf 1 header cmd.cmd
  let buf ← copyFromSlice buf header (header + payload.length) payload
  return some buf

/-- The command's opcode and the payload fit behind the magic byte. -/
def Fits (cmd : Cmd) (payload : List UInt8) : Prop :=
  1 + cmd.cmd.length + payload.length ≤ cmd.outLen

instance (cmd : Cmd) (payload : List UInt8) : Decidable (Fits cmd payload) :=
  inferInstanceAs (Decidable (_ ≤ _))

theorem fits_fingerInfo (index : UInt8) : Fits fingerInfo [index] := Nat.le_refl 4

/-- The request a command and a payload stand for, filled up with zeros. -/
def encode (cmd : Cmd) (payload : List UInt8) : List UInt8 :=
  (frameMagic :: (cmd.cmd ++ payload)).rightpad cmd.outLen 0

theorem encode_eq_append (cmd : Cmd) (payload : List UInt8) :
    encode cmd payload = frameMagic :: (cmd.cmd ++ (payload ++
      List.replicate (cmd.outLen - (1 + cmd.cmd.length + payload.length)) 0)) := by
  unfold encode List.rightpad
  have size : (frameMagic :: (cmd.cmd ++ payload)).length =
      1 + cmd.cmd.length + payload.length := by
    rw [List.length_cons, List.length_append]
    omega
  rw [size, List.cons_append, List.append_assoc]

/-- A zeroed buffer splits into the places of the magic byte, the opcode, the payload and the
padding. -/
private theorem replicate_outLen {cmd : Cmd} {payload : List UInt8} (fits : Fits cmd payload) :
    List.replicate cmd.outLen (0 : UInt8) = 0 :: (List.replicate cmd.cmd.length 0 ++
      (List.replicate payload.length 0 ++
        List.replicate (cmd.outLen - (1 + cmd.cmd.length + payload.length)) 0)) := by
  have total : cmd.outLen = cmd.cmd.length + (payload.length +
      (cmd.outLen - (1 + cmd.cmd.length + payload.length))) + 1 := by
    unfold Fits at fits
    omega
  rw [← List.replicate_add, ← List.replicate_add, ← List.replicate_succ]
  exact congrArg (List.replicate · 0) total

theorem frame_of_fits {cmd : Cmd} {payload : List UInt8} (fits : Fits cmd payload) :
    frame cmd payload = .ok (some (encode cmd payload)) := by
  have room : ¬ 1 + cmd.cmd.length + payload.length > cmd.outLen := Nat.not_lt.mpr fits
  have magic := write_append [] (0 : UInt8) frameMagic (List.replicate cmd.cmd.length 0 ++
    (List.replicate payload.length 0 ++
      List.replicate (cmd.outLen - (1 + cmd.cmd.length + payload.length)) 0))
  have opcode := copyFromSlice_append [frameMagic] (List.replicate cmd.cmd.length 0)
    (List.replicate payload.length 0 ++
      List.replicate (cmd.outLen - (1 + cmd.cmd.length + payload.length)) 0)
    cmd.cmd (List.length_replicate ..)
  have body := copyFromSlice_append (frameMagic :: cmd.cmd) (List.replicate payload.length 0)
    (List.replicate (cmd.outLen - (1 + cmd.cmd.length + payload.length)) 0) payload
    (List.length_replicate ..)
  have header : (frameMagic :: cmd.cmd).length = 1 + cmd.cmd.length := by
    rw [List.length_cons, Nat.add_comm]
  rw [header] at body
  simp only [List.nil_append, List.length_nil, List.cons_append, List.length_cons,
    Nat.zero_add] at magic opcode body
  unfold frame
  simp only [room, ↓reduceIte, replicate_outLen fits, magic, opcode, body, bind, Except.bind,
    pure, Except.pure, encode_eq_append]

theorem frame_of_not_fits {cmd : Cmd} {payload : List UInt8} (oversized : ¬ Fits cmd payload) :
    frame cmd payload = .ok none := by
  have room : 1 + cmd.cmd.length + payload.length > cmd.outLen := Nat.not_le.mp oversized
  unfold frame
  simp only [room, ↓reduceIte]
  rfl

/-- `frame` never faults: it is the encoding when that fits and nothing otherwise. -/
theorem frame_eq (cmd : Cmd) (payload : List UInt8) :
    frame cmd payload = .ok (if Fits cmd payload then some (encode cmd payload) else none) := by
  by_cases fits : Fits cmd payload
  · rw [frame_of_fits fits, if_pos fits]
  · rw [frame_of_not_fits fits, if_neg fits]

theorem frame_eq_some_iff {cmd : Cmd} {payload out : List UInt8} :
    frame cmd payload = .ok (some out) ↔ Fits cmd payload ∧ out = encode cmd payload := by
  rw [frame_eq]
  constructor
  · intro framed
    split at framed
    · exact ⟨‹_›, (Option.some.inj (Except.ok.inj framed)).symm⟩
    · exact nomatch framed
  · rintro ⟨fits, rfl⟩
    rw [if_pos fits]

theorem length_encode {cmd : Cmd} {payload : List UInt8} (fits : Fits cmd payload) :
    (encode cmd payload).length = cmd.outLen := by
  apply length_rightpad_of_le
  unfold Fits at fits
  rw [List.length_cons, List.length_append]
  omega

example : frame fingerInfo [7] = .ok (some [0x40, 0xff, 0x12, 7]) := by decide

end Proto

end Elan0c00
