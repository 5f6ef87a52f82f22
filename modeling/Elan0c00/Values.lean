import Elan0c00.Proto

/-! # What the library returns

The errors of the transport, the errors of the library and the two records it decodes, with
the text a user id is shown as.
-/

namespace Elan0c00

/-- The failures libusb reports through `rusb`. -/
inductive UsbError where
  | io
  | invalidParam
  | access
  | noDevice
  | notFound
  | busy
  | timeout
  | overflow
  | pipe
  | interrupted
  | noMem
  | notSupported
  | badDescriptor
  | other
  deriving DecidableEq, Repr

/-- Anything that can go wrong talking to the sensor. -/
inductive Error where
  | usb (e : UsbError)
  | notFound
  | badMagic (got : UInt8)
  | short (expected got : Nat)
  | payloadTooLarge (cmd : String)
  | status (s : Status)
  | noResponse (cmd : String)
  | gated (cmd : String)
  deriving DecidableEq, Repr

/-- Sensor firmware version, decoded from two BCD bytes kept in `raw`. -/
structure FirmwareVersion where
  major : UInt8
  minor : UInt8
  raw : UInt8 × UInt8
  deriving DecidableEq, Repr

/-- One enrolled slot; trailing NULs of the user id are trimmed. -/
structure FingerInfo where
  index : UInt8
  userId : List UInt8
  deriving DecidableEq, Repr

/-- One digit of lower-case hexadecimal. -/
def hexDigit (n : Nat) : Char := "0123456789abcdef".toList.getD n '0'

/-- A byte as two lower-case hexadecimal digits. -/
def hexByte (b : UInt8) : List Char := [hexDigit (b.toNat / 16), hexDigit (b.toNat % 16)]

/-- Unicode general category `Cc`. -/
def isControl (c : Char) : Bool :=
  c.val ≤ 0x1f || (0x7f ≤ c.val && c.val ≤ 0x9f)

/-- The user id as text when it is UTF-8 without control characters, else in hexadecimal. -/
def FingerInfo.userIdDisplay (info : FingerInfo) : String :=
  match String.fromUTF8? ⟨info.userId.toArray⟩ with
  | some s =>
      if s.toList.all fun c => !isControl c then s
      else String.ofList (info.userId.flatMap hexByte)
  | none => String.ofList (info.userId.flatMap hexByte)

end Elan0c00
