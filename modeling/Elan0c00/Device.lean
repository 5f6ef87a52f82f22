import Elan0c00.Bus

/-! # The library

The operations of an opened sensor, as `src/device.rs` has them. An operation is a program
over bulk transfers that fails with an `Error`; a panic would be a fault.
-/

namespace Elan0c00

open Interaction Interaction.Fallible Bytes

/-- Capability token for the commands that write persistent data. -/
structure DestructiveOps where
  _private : Unit

def DestructiveOps.iUnderstandThisModifiesStoredFingerprints : DestructiveOps := ⟨()⟩

/-- An opened sensor with interface 0 claimed. -/
structure ElanMoc2 where
  pid : UInt16
  interface : UInt8
  claimed : Bool

/-- Refuse any command tagged as writing persistent data. -/
def gateCheck (cmd : Cmd) : DeviceM Unit :=
  if cmd.effect = .persistent then throw (.gated cmd.name) else pure ()

namespace ElanMoc2

def transceiveUnchecked (_dev : ElanMoc2) (cmd : Cmd) (payload : List UInt8) :
    DeviceM (List UInt8) := do
  let some out ← check (Proto.frame cmd payload) | throw (.payloadTooLarge cmd.name)
  let _ ← writeBulk Proto.epCmdOut out sendTimeout
  if cmd.inLen = 0 then
    return []
  let buf ← readBulk cmd.epIn cmd.inLen recvTimeout
  if buf.length = 0 then
    return buf
  let got ← check (index buf 0)
  if got ≠ Proto.frameMagic then
    throw (.badMagic got)
  return buf

/-- Send a command and return the framed reply; refuses persistent commands. -/
def transceive (dev : ElanMoc2) (cmd : Cmd) (payload : List UInt8) : DeviceM (List UInt8) := do
  gateCheck cmd
  dev.transceiveUnchecked cmd payload

/-- Send any command, given the token. -/
def transceiveDestructive (dev : ElanMoc2) (cmd : Cmd) (payload : List UInt8)
    (_token : DestructiveOps) : DeviceM (List UInt8) :=
  dev.transceiveUnchecked cmd payload

/-- Send a command and return the reply without enforcing the frame magic. -/
def transceiveRaw (_dev : ElanMoc2) (cmd : Cmd) (payload : List UInt8) :
    DeviceM (List UInt8) := do
  gateCheck cmd
  let some out ← check (Proto.frame cmd payload) | throw (.payloadTooLarge cmd.name)
  let _ ← writeBulk Proto.epCmdOut out sendTimeout
  if cmd.inLen = 0 then
    return []
  let buf ← readBulk cmd.epIn cmd.inLen recvTimeout
  return buf

/-- The loop of `transceiveRetrying`, by the attempts left. -/
def retry (dev : ElanMoc2) (cmd : Cmd) (payload : List UInt8) : Nat → DeviceM (List UInt8)
  | 0 => throw (.noResponse cmd.name)
  | attempts + 1 => do
      let r ← dev.transceive cmd payload
      if !r.isEmpty then
        return r
      dev.retry cmd payload attempts

/-- Repeat a query that the sensor may answer with zero bytes. -/
def transceiveRetrying (dev : ElanMoc2) (cmd : Cmd) (payload : List UInt8) :
    DeviceM (List UInt8) :=
  dev.retry cmd payload Proto.maxRetries

def firmwareVersion (dev : ElanMoc2) : DeviceM FirmwareVersion := do
  let r ← dev.transceiveRaw Proto.getFwVer []
  if r.length < 2 then
    throw (.short 2 r.length)
  let major ← check (index r 0)
  let minor ← check (index r 1)
  return { major := Proto.bcd major, minor := Proto.bcd minor, raw := (major, minor) }

/-- Number of fingers enrolled on the sensor. -/
def enrolledCount (dev : ElanMoc2) : DeviceM UInt8 := do
  let r ← dev.transceiveRetrying Proto.getEnrolledCount []
  if r.length < 2 then
    throw (.short 2 r.length)
  check (index r 1)

/-- The stored user id of one slot. -/
def fingerInfo (dev : ElanMoc2) (index : UInt8) : DeviceM FingerInfo := do
  let r ← dev.transceiveRetrying Proto.fingerInfo [index]
  if r.length ≥ 2 then
    let st := Status.fromByte (← check (Bytes.index r 1))
    if !st.isOk then
      throw (.status st)
  let off := Proto.userIdOffset dev.pid
  if r.length < off then
    throw (.short off r.length)
  let userId ← check (sliceFrom r off)
  return { index := index, userId := trimEnd 0 userId }

/-- Cancel an in-flight cancellable command. -/
def abort (dev : ElanMoc2) : DeviceM Unit := do
  let _ ← dev.transceive Proto.abort []
  return ()

end ElanMoc2

end Elan0c00
