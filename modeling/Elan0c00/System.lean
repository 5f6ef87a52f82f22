import Elan0c00.Interaction.Translation
import Elan0c00.Opening
import Elan0c00.Probe
import Elan0c00.ReportDescriptor

/-! # What the programs ask of the system

`elanctl` and the probe are programs over one interface: the calls that open a sensor, the
transfers on an open handle, the descriptors, and the text printed. The library's programs keep
their own interfaces and are put in these words, the calls of an opening as they are and the
transfers with the handle they go through. A print has no answer: one that fails is a panic, which
ends the process where it stands (`Process.Over`).
-/

namespace Elan0c00

open Interaction Bytes

/-- A version in binary-coded decimal, by its digits. -/
structure Version where
  major : UInt8
  minor : UInt8
  subMinor : UInt8
  deriving DecidableEq, Repr

inductive Speed where
  | unknown
  | low
  | full
  | high
  | super
  | superPlus
  deriving DecidableEq, Repr

/-- Where a device is attached. -/
structure Place where
  busNumber : UInt8
  address : UInt8
  speed : Speed
  deriving DecidableEq, Repr

/-- The texts a device may have. -/
inductive StringField where
  | iManufacturer
  | iProduct
  | iSerialNumber
  deriving DecidableEq, Repr

/-- All that the probe reads of a device descriptor. -/
structure FullDescriptor extends DeviceDescriptor where
  usbVersion : Version
  deviceVersion : Version
  classCode : UInt8
  maxPacketSize : UInt8
  numConfigurations : UInt8
  stringIndex : StringField → Option UInt8

inductive Direction where
  | in
  | out
  deriving DecidableEq, Repr

inductive TransferType where
  | control
  | isochronous
  | bulk
  | interrupt
  deriving DecidableEq, Repr

/-- An endpoint, with what libusb says of its direction and its transfers. -/
structure EndpointDescriptor where
  address : UInt8
  direction : Direction
  transferType : TransferType
  maxPacketSize : UInt16
  interval : UInt8
  deriving DecidableEq, Repr

inductive RequestType where
  | standard
  | ofClass
  | vendor
  | reserved
  deriving DecidableEq, Repr

inductive Recipient where
  | device
  | interface
  | endpoint
  | other
  deriving DecidableEq, Repr

/-- The `bmRequestType` of a control transfer, by the parts `rusb::request_type` makes it of. -/
structure BmRequestType where
  direction : Direction
  requestType : RequestType
  recipient : Recipient
  deriving DecidableEq, Repr

/-- One alternate setting of an interface. -/
structure InterfaceDescriptor where
  interfaceNumber : UInt8
  settingNumber : UInt8
  classCode : UInt8
  subClassCode : UInt8
  protocolCode : UInt8
  numEndpoints : UInt8
  extra : List UInt8
  endpointDescriptors : List EndpointDescriptor

/-- A configuration; each interface by its alternate settings. -/
structure ConfigDescriptor where
  number : UInt8
  numInterfaces : UInt8
  maxPower : UInt16
  selfPowered : Bool
  interfaces : List (List InterfaceDescriptor)

/-- The lines the probe prints, by the values filled in; elapsed times are left out. -/
inductive ProbeLine where
  | device
  | busAddr (place : Place)
  | speed (speed : Speed)
  | bcdUsb (version : Version)
  | bcdDevice (version : Version)
  | deviceClass (classCode : UInt8)
  | maxPacketSize0 (size : UInt8)
  | numConfigurations (count : UInt8)
  | config (number numInterfaces : UInt8) (maxPower : UInt16) (selfPowered : Bool)
  | interface (interfaceNumber settingNumber classCode subClassCode protocolCode
      numEndpoints : UInt8)
  | extra (bytes : List UInt8)
  | hid (report : HidReport)
  | endpoint (address : UInt8) (direction : Direction) (transferType : TransferType)
      (maxPacketSize : UInt16) (interval : UInt8)
  | open
  | openFailed (e : UsbError)
  | openedOk
  | languages (langs : List UInt16)
  | string (name : StringField) (text : Except UsbError String)
  | stringNone (name : StringField)
  | driverActive (iface : UInt8)
  | noDriver (iface : UInt8)
  | driverUnknown (e : UsbError)
  | claimed (iface : UInt8)
  | reportDescriptor
  | got (bytes : List UInt8)
  | reportItem (item : ReportItem)
  | controlError (e : UsbError)
  | passive
  | heard (ep : UInt8) (bytes : List UInt8)
  | unheard (ep : UInt8) (e : UsbError)
  | done

/-- What is printed. -/
inductive Text where
  | line (line : Line)
  | openFailed (e : Error)
  | usage
  | unknownCommand (other : String)
  | probe (line : ProbeLine)

/-- One request to libusb or to the terminal. The probe reads the whole of a device descriptor
(`fullDescriptor`), an opening only what it decides by (`usb`). -/
inductive SysRequest where
  | usb (call : UsbRequest)
  | fullDescriptor (dev : UsbDevice)
  | place (dev : UsbDevice)
  | configDescriptor (dev : UsbDevice) (index : UInt8)
  | readLanguages (handle : DeviceHandle) (timeout : Nat)
  | readString (handle : DeviceHandle) (field : StringField) (lang : UInt16) (timeout : Nat)
  | readControl (handle : DeviceHandle) (requestType : BmRequestType) (request : UInt8)
      (value index : UInt16) (len timeout : Nat)
  | writeBulk (handle : DeviceHandle) (endpoint : UInt8) (buf : List UInt8) (timeout : Nat)
  | readBulk (handle : DeviceHandle) (endpoint : UInt8) (len timeout : Nat)
  | print (text : Text)

/-- What a request is answered with. -/
def SysAnswer : SysRequest → Type
  | .usb call => UsbAnswer call
  | .fullDescriptor _ => Except UsbError FullDescriptor
  | .place _ => Place
  | .configDescriptor _ _ => Except UsbError ConfigDescriptor
  | .readLanguages _ _ => Except UsbError (List UInt16)
  | .readString _ _ _ _ => Except UsbError String
  | .readControl _ _ _ _ _ len _ => Except UsbError {bytes : List UInt8 // bytes.length ≤ len}
  | .writeBulk _ _ buf _ => Except UsbError {n : Nat // n ≤ buf.length}
  | .readBulk _ _ len _ => Except UsbError {bytes : List UInt8 // bytes.length ≤ len}
  | .print _ => Unit

abbrev SysM := Program SysAnswer Fault

abbrev SysTrace := List (Event SysAnswer)

/-- The calls of an opening or a drop, as they are. -/
def usbWords : Translation UsbAnswer SysAnswer where
  op := .usb
  answer _ := Equiv.refl _

/-- The requests of the library on a sensor, through the handle of the sensor. -/
def sensorWords (handle : DeviceHandle) : Translation Answer SysAnswer where
  op
    | .writeBulk endpoint buf timeout => .writeBulk handle endpoint buf timeout
    | .readBulk endpoint len timeout => .readBulk handle endpoint len timeout
    | .println line => .print (.line line)
  answer
    | .writeBulk _ _ _ => Equiv.refl _
    | .readBulk _ _ _ => Equiv.refl _
    | .println _ => Equiv.refl _

namespace Sys

/-- Print a text. -/
def print (text : Text) : SysM Unit := @Program.request _ SysAnswer Fault (.print text)

/-- A text has been printed. -/
def printed (text : Text) : Event SysAnswer := ⟨.print text, ()⟩

theorem runs_print_bind_iff {α : Type} {text : Text} {rest : Unit → SysM α} {trace : SysTrace}
    {result : Except Fault α} :
    (print text >>= rest).Runs trace result ↔
      ∃ tail, trace = printed text :: tail ∧ (rest ()).Runs tail result := by
  refine Program.runs_ask_iff.trans ⟨?_, ?_⟩
  · rintro ⟨_, tail, rfl, run⟩
    exact ⟨tail, rfl, run⟩
  · rintro ⟨tail, rfl, run⟩
    exact ⟨(), tail, rfl, run⟩

/-- The frame an event offers to a sensor, whatever came of it. -/
def outFrame? : Event SysAnswer → Option (List UInt8)
  | ⟨.writeBulk _ _ buf _, _⟩ => some buf
  | _ => none

/-- The text an event printed. -/
def text? : Event SysAnswer → Option Text
  | ⟨.print text, _⟩ => some text
  | _ => none

/-- The frames of the attempted OUT transfers, in order. -/
def outFrames (trace : SysTrace) : List (List UInt8) := trace.filterMap outFrame?

/-- The texts printed, in order. -/
def texts (trace : SysTrace) : List Text := trace.filterMap text?

theorem outFrames_append (first second : SysTrace) :
    outFrames (first ++ second) = outFrames first ++ outFrames second :=
  List.filterMap_append

theorem texts_append (first second : SysTrace) :
    texts (first ++ second) = texts first ++ texts second :=
  List.filterMap_append

/-- Opening and dropping offer nothing to the sensor. -/
theorem outFrames_usbWords (trace : UsbTrace) : outFrames (trace.map usbWords.event) = [] := by
  apply List.filterMap_eq_nil_iff.mpr
  intro event member
  obtain ⟨call, _, rfl⟩ := List.mem_map.mp member
  rfl

theorem texts_usbWords (trace : UsbTrace) : texts (trace.map usbWords.event) = [] := by
  apply List.filterMap_eq_nil_iff.mpr
  intro event member
  obtain ⟨call, _, rfl⟩ := List.mem_map.mp member
  rfl

/-- Through a handle the library offers the frames it offers. -/
theorem outFrames_sensorWords (handle : DeviceHandle) (trace : Trace) :
    outFrames (trace.map (sensorWords handle).event) = trace.outFrames := by
  rw [outFrames, List.filterMap_map]
  apply List.filterMap_congr
  rintro ⟨request, answer⟩ -
  cases request <;> rfl

theorem texts_sensorWords (handle : DeviceHandle) (trace : Trace) :
    texts (trace.map (sensorWords handle).event) = trace.lines.map Text.line := by
  rw [texts, List.filterMap_map, Trace.lines, List.map_filterMap]
  apply List.filterMap_congr
  rintro ⟨request, answer⟩ -
  cases request <;> rfl

end Sys

end Elan0c00
