import Elan0c00.Brackets

/-! # The whole of the probe

The probe finds the sensor, lists its descriptors, opens it, reads its texts and its report
descriptor, listens once on each bulk IN endpoint, and gives the device back. Its policy is that
of its own documentation: no device but `04f3:0c00` is opened, no driver is detached, no frame is
sent, and control transfers only read descriptors (`Probe.meets_main`).
-/

namespace Elan0c00.Probe

open Interaction Interaction.Fallible Bytes

def vid : UInt16 := 0x04f3

def pid : UInt16 := 0x0c00

/-- Standard GET_DESCRIPTOR on an interface. -/
def reqGetDescriptor : UInt8 := 0x06

def descHidReport : UInt16 := 0x22

/-- IN, standard, interface. -/
def requestType : BmRequestType := ⟨.in, .standard, .interface⟩

/-- Milliseconds before a read of a descriptor gives up. -/
def timeout : Nat := 1000

/-- What ends the probe early. -/
inductive ProbeError where
  | usb (e : UsbError)
  | notFound
  deriving DecidableEq, Repr

abbrev ProbeM := Fallible SysAnswer Fault ProbeError

section Requests

def print (line : ProbeLine) : ProbeM Unit :=
  Fallible.request (.print (.probe line)) fun _ => .ok ()

def newContext : ProbeM Context :=
  Fallible.request (.usb .newContext)
    fun answer : Except UsbError Context => answer.mapError .usb

def devices (ctx : Context) : ProbeM (List UsbDevice) :=
  Fallible.request (.usb (.devices ctx))
    fun answer : Except UsbError (List UsbDevice) => answer.mapError .usb

def deviceDescriptor (dev : UsbDevice) : ProbeM (Except UsbError FullDescriptor) :=
  Fallible.request (.fullDescriptor dev) .ok

def place (dev : UsbDevice) : ProbeM Place :=
  Fallible.request (.place dev) .ok

def configDescriptor (dev : UsbDevice) (index : UInt8) : ProbeM ConfigDescriptor :=
  Fallible.request (.configDescriptor dev index)
    fun answer : Except UsbError ConfigDescriptor => answer.mapError .usb

def openDevice (dev : UsbDevice) : ProbeM (Except UsbError DeviceHandle) :=
  Fallible.request (.usb (.openDevice dev))
    fun answer : Except UsbError {handle : DeviceHandle // handle.device = dev} =>
      .ok (answer.map Subtype.val)

def readLanguages (handle : DeviceHandle) : ProbeM (List UInt16) :=
  Fallible.request (.readLanguages handle timeout)
    fun answer : Except UsbError (List UInt16) => answer.mapError .usb

def readString (handle : DeviceHandle) (field : StringField) (lang : UInt16) :
    ProbeM (Except UsbError String) :=
  Fallible.request (.readString handle field lang timeout) .ok

def kernelDriverActive (handle : DeviceHandle) (iface : UInt8) : ProbeM (Except UsbError Bool) :=
  Fallible.request (.usb (.kernelDriverActive handle iface)) .ok

def claimInterface (handle : DeviceHandle) (iface : UInt8) : ProbeM Unit :=
  Fallible.request (.usb (.claimInterface handle iface))
    fun answer : Except UsbError Unit => answer.mapError .usb

/-- Read a descriptor into a buffer of 256 bytes; the bytes received. -/
def readControl (handle : DeviceHandle) (value index : UInt16) :
    ProbeM (Except UsbError (List UInt8)) :=
  Fallible.request (.readControl handle requestType reqGetDescriptor value index 256 timeout)
    fun answer : Except UsbError {bytes : List UInt8 // bytes.length ≤ 256} =>
      .ok (answer.map Subtype.val)

/-- Read into a buffer of 64 bytes for 300 milliseconds; the bytes received. -/
def readBulk (handle : DeviceHandle) (ep : UInt8) : ProbeM (Except UsbError (List UInt8)) :=
  Fallible.request (.readBulk handle ep 64 300)
    fun answer : Except UsbError {bytes : List UInt8 // bytes.length ≤ 64} =>
      .ok (answer.map Subtype.val)

def releaseInterface (handle : DeviceHandle) (iface : UInt8) : ProbeM Unit :=
  Fallible.request (.usb (.releaseInterface handle iface))
    fun answer : Except UsbError Unit => answer.mapError .usb

/-- What dropping the handle does: its claims end with it. -/
def close (handle : DeviceHandle) : ProbeM Unit :=
  Fallible.request (.usb (.close handle)) fun _ => .ok ()

end Requests

/-- The first device that says it is the sensor. One that cannot be read is passed over. -/
def find : List UsbDevice → ProbeM UsbDevice
  | [] => throw .notFound
  | dev :: rest => do
      let dd ← deviceDescriptor dev
      if (dd.map fun dd => dd.vendorId = vid && dd.productId = pid).toOption.getD false then
        return dev
      find rest

/-- Print what the descriptor of the device says. -/
def showDevice (dev : UsbDevice) (dd : FullDescriptor) : ProbeM Unit := do
  print .device
  let place ← place dev
  print (.busAddr place)
  print (.speed place.speed)
  print (.bcdUsb dd.usbVersion)
  print (.bcdDevice dd.deviceVersion)
  print (.deviceClass dd.classCode)
  print (.maxPacketSize0 dd.maxPacketSize)
  print (.numConfigurations dd.numConfigurations)

/-- Print the class-specific bytes of an interface, if there are any, and the HID descriptors
among them. -/
def showExtra (extra : List UInt8) : ProbeM Unit := do
  if !extra.isEmpty then
    print (.extra extra)
    (← check (decodeHidDescriptor extra)).forM fun report => print (.hid report)

/-- Print an alternate setting with its class-specific bytes and its endpoints. -/
def showSetting (alt : InterfaceDescriptor) : ProbeM Unit := do
  print (.interface alt.interfaceNumber alt.settingNumber alt.classCode alt.subClassCode
    alt.protocolCode alt.numEndpoints)
  showExtra alt.extra
  alt.endpointDescriptors.forM fun ep =>
    print (.endpoint ep.address ep.direction ep.transferType ep.maxPacketSize ep.interval)

/-- One round of the walk over the configurations. -/
def showConfig (dev : UsbDevice) (ci : UInt8) : ProbeM Unit := do
  let cfg ← configDescriptor dev ci
  print (.config cfg.number cfg.numInterfaces cfg.maxPower cfg.selfPowered)
  cfg.interfaces.forM fun iface => iface.forM showSetting

/-- The numbers of the configurations. -/
def configsBelow (count : UInt8) : List UInt8 := (List.range count.toNat).map UInt8.ofNat

/-- One of the three texts. -/
def showString (handle : DeviceHandle) (dd : FullDescriptor) (lang : UInt16) (name : StringField) :
    ProbeM Unit := do
  match dd.stringIndex name with
  | some _ => print (.string name (← readString handle name lang))
  | none => print (.stringNone name)

/-- The texts in the first of the languages, if there is one. -/
def showStrings (handle : DeviceHandle) (dd : FullDescriptor) : List UInt16 → ProbeM Unit
  | [] => return ()
  | lang :: _ =>
      [.iManufacturer, .iProduct, .iSerialNumber].forM (showString handle dd lang)

/-- What is said of a kernel driver, which is left where it is. -/
def driverLine (iface : UInt8) : Except UsbError Bool → ProbeLine
  | .ok true => .driverActive iface
  | .ok false => .noDriver iface
  | .error e => .driverUnknown e

/-- Read the report descriptor and print its items. -/
def showReport (handle : DeviceHandle) (iface : UInt8) : ProbeM Unit := do
  match ← readControl handle (descHidReport <<< 8) iface.toUInt16 with
  | .ok bytes => do
      print (.got bytes)
      (← check (decodeReportDescriptor bytes)).forM fun item => print (.reportItem item)
  | .error e => print (.controlError e)

/-- The addresses of the bulk IN endpoints, in the order of the configuration. -/
def inEps (cfg : ConfigDescriptor) : List UInt8 :=
  ((cfg.interfaces.flatten.flatMap InterfaceDescriptor.endpointDescriptors).filter fun e =>
    e.direction = .in ∧ e.transferType = .bulk).map EndpointDescriptor.address

/-- Listen on one endpoint, without having sent anything. -/
def listen (handle : DeviceHandle) (ep : UInt8) : ProbeM Unit := do
  match ← readBulk handle ep with
  | .ok bytes => print (.heard ep bytes)
  | .error e => print (.unheard ep e)

/-- What is done while the interface is claimed. -/
def claimedSession (dev : UsbDevice) (handle : DeviceHandle) (iface : UInt8) : ProbeM Unit := do
  print (.claimed iface)
  print .reportDescriptor
  showReport handle iface
  print .passive
  let cfg ← configDescriptor dev 0
  (inEps cfg).forM (listen handle)
  releaseInterface handle iface
  print .done

/-- What is done with the open handle. -/
def session (dev : UsbDevice) (dd : FullDescriptor) (handle : DeviceHandle) : ProbeM Unit := do
  print .openedOk
  let langs ← readLanguages handle
  print (.languages langs)
  showStrings handle dd langs
  let iface : UInt8 := 0
  print (driverLine iface (← kernelDriverActive handle iface))
  claimInterface handle iface
  claimedSession dev handle iface

/-- `main`. However it returns, the handle is dropped first. -/
def main : ProbeM Unit := do
  let ctx ← newContext
  let dev ← find (← devices ctx)
  let dd ← settle ((← deviceDescriptor dev).mapError .usb)
  showDevice dev dd
  (configsBelow dd.numConfigurations).forM (showConfig dev)
  print .open
  match ← openDevice dev with
  | .ok handle => ensuring (close handle) (session dev dd handle)
  | .error e => do
      print (.openFailed e)
      throw (.usb e)

/-! ### The parts that only print -/

/-- A line that says nothing of what is read through the handle. -/
def Plain : ProbeLine → Prop
  | .languages _ => False
  | .string _ _ => False
  | .got _ => False
  | .controlError _ => False
  | .heard _ _ => False
  | .unheard _ _ => False
  | _ => True

section Printing

variable {σ : Type} {monitor : Monitor (Event SysAnswer) σ} {kept : σ → Prop} {dev : UsbDevice}

theorem preserves_showDevice
    (prints : ∀ line, Plain line → Preserves monitor kept (print line))
    (places : Preserves monitor kept (place dev)) (dd : FullDescriptor) :
    Preserves monitor kept (showDevice dev dd) := by
  refine (prints _ (by trivial)).bind fun _ => ?_
  refine places.bind fun place => ?_
  refine (prints _ (by trivial)).bind fun _ => ?_
  refine (prints _ (by trivial)).bind fun _ => ?_
  refine (prints _ (by trivial)).bind fun _ => ?_
  refine (prints _ (by trivial)).bind fun _ => ?_
  refine (prints _ (by trivial)).bind fun _ => ?_
  refine (prints _ (by trivial)).bind fun _ => ?_
  exact prints _ (by trivial)

theorem preserves_showExtra (prints : ∀ line, Plain line → Preserves monitor kept (print line))
    (extra : List UInt8) : Preserves monitor kept (showExtra extra) := by
  unfold showExtra
  split
  · obtain ⟨reports, decoded, -⟩ := decodeHidDescriptor_reports extra
    refine (prints _ (by trivial)).bind fun _ => ?_
    refine (preserves_check ⟨reports, decoded⟩).bind fun reports => ?_
    exact preserves_forM fun _ _ => prints _ (by trivial)
  · exact preserves_pure ()

theorem preserves_showSetting (prints : ∀ line, Plain line → Preserves monitor kept (print line))
    (alt : InterfaceDescriptor) : Preserves monitor kept (showSetting alt) := by
  refine (prints _ (by trivial)).bind fun _ => ?_
  refine (preserves_showExtra prints alt.extra).bind fun _ => ?_
  exact preserves_forM fun _ _ => prints _ (by trivial)

end Printing

/-! ### The life of the probe -/

/-- The policy of the probe, from its documentation. -/
def policy : Policy where
  supports d := d.vendorId = vid && d.productId = pid
  detaches := false
  frames _ := false

section Life

variable {α β : Type} {phase : Phase} {handle : DeviceHandle} {dev : UsbDevice}

/-- The program leaves the process where it was, whatever becomes of it. -/
def Keeps (phase : Phase) (program : ProbeM α) : Prop :=
  Meets (lifecycle policy) phase program (fun _ after => after = phase) fun _ after => after = phase

theorem Keeps.bind {program : ProbeM α} {rest : α → ProbeM β} (first : Keeps phase program)
    (later : ∀ value, Keeps phase (rest value)) : Keeps phase (program >>= rest) := by
  refine Meets.bind first ?_
  rintro value _ rfl
  exact later value

theorem keeps_pure (value : α) : Keeps phase (pure value : ProbeM α) :=
  meets_pure rfl

theorem keeps_request {op : SysRequest} {read : SysAnswer op → Except ProbeError α}
    (step : ∀ answer, phase.Step policy (act ⟨op, answer⟩) phase) :
    Keeps phase (Fallible.request op read : ProbeM α) := by
  refine meets_request fun answer => ⟨phase, lifecycle_iff.mpr (step answer), ?_⟩
  cases read answer <;> rfl

theorem keeps_forM {γ : Type} {items : List γ} {body : γ → ProbeM Unit}
    (round : ∀ item ∈ items, Keeps phase (body item)) : Keeps phase (items.forM body) := by
  refine meets_forM (fun item member middle same => ?_) rfl
  subst same
  exact round item member

/-- A computation that is known not to fault. -/
theorem keeps_check {computed : Except Fault α} (safe : ∃ value, computed = .ok value) :
    Keeps phase (check computed : ProbeM α) := by
  obtain ⟨value, rfl⟩ := safe
  exact keeps_pure value

theorem keeps_print (line : ProbeLine) : Keeps phase (print line) :=
  keeps_request fun _ => .neutral phase

theorem Keeps.preserves {program : ProbeM α} (keeps : Keeps phase program) :
    Preserves (lifecycle policy) (· = phase) program := by
  rintro _ rfl
  exact keeps

theorem keeps_showDevice (dd : FullDescriptor) : Keeps phase (showDevice dev dd) := by
  have places : Keeps phase (place dev) := keeps_request fun _ => .neutral phase
  exact preserves_showDevice (fun line _ => (keeps_print line).preserves) places.preserves dd
    phase rfl

theorem keeps_showSetting (alt : InterfaceDescriptor) : Keeps phase (showSetting alt) :=
  preserves_showSetting (fun line _ => (keeps_print line).preserves) alt phase rfl

theorem keeps_showConfig (ci : UInt8) : Keeps phase (showConfig dev ci) := by
  refine (keeps_request fun _ => .neutral phase).bind fun cfg => ?_
  refine (keeps_print _).bind fun _ => ?_
  exact keeps_forM fun _ _ => keeps_forM fun alt _ => keeps_showSetting alt

theorem keeps_showString (dd : FullDescriptor) (lang : UInt16) (name : StringField) :
    Keeps (.opened handle) (showString handle dd lang name) := by
  unfold showString
  split
  · exact (keeps_request fun _ => .asks handle).bind fun text => keeps_print _
  · exact keeps_print _

theorem keeps_showStrings (dd : FullDescriptor) (langs : List UInt16) :
    Keeps (.opened handle) (showStrings handle dd langs) := by
  cases langs with
  | nil => exact keeps_pure ()
  | cons lang rest => exact keeps_forM fun name _ => keeps_showString dd lang name

/-- The control transfer of the probe reads a descriptor. -/
theorem keeps_readControl (value index : UInt16) :
    Keeps (.holding handle) (readControl handle value index) :=
  keeps_request fun _ => .controls handle

theorem keeps_showReport (iface : UInt8) : Keeps (.holding handle) (showReport handle iface) := by
  refine (keeps_readControl _ _).bind fun answer => ?_
  cases answer with
  | error e => exact keeps_print _
  | ok bytes =>
      obtain ⟨items, decoded, -⟩ := decodeReportFrom_items bytes 0
      refine (keeps_print _).bind fun _ => ?_
      refine (keeps_check ⟨items, decoded⟩).bind fun items => ?_
      exact keeps_forM fun _ _ => keeps_print _

theorem keeps_listen (ep : UInt8) : Keeps (.holding handle) (listen handle ep) := by
  refine (keeps_request fun _ => .receives handle).bind fun answer => ?_
  cases answer with
  | error e => exact keeps_print _
  | ok bytes => exact keeps_print _

/-- What keeps the process where it is with the handle open keeps the handle open. -/
theorem Keeps.opened {program : ProbeM α} (keeps : Keeps phase program)
    (own : phase.handle? = some handle) :
    Meets (lifecycle policy) phase program (fun _ after => after.handle? = some handle)
      fun _ after => after = phase := by
  refine Meets.mono keeps ?_ fun _ _ => id
  rintro _ _ rfl
  exact own

theorem meets_claimInterface :
    Meets (lifecycle policy) (.opened handle) (claimInterface handle 0)
      (fun _ after => after.handle? = some handle) fun _ after => after = .holding handle := by
  refine meets_request fun answer => ?_
  cases answer with
  | error e => exact ⟨_, lifecycle_iff.mpr (.refused handle), rfl⟩
  | ok _ => exact ⟨_, lifecycle_iff.mpr (.claims handle), rfl⟩

theorem meets_releaseInterface :
    Meets (lifecycle policy) (.holding handle) (releaseInterface handle 0)
      (fun _ after => after.handle? = some handle) fun _ after => after = .released handle := by
  refine meets_request fun answer => ⟨_, lifecycle_iff.mpr (.releases handle), ?_⟩
  cases answer <;> rfl

theorem meets_claimedSession :
    Meets (lifecycle policy) (.holding handle) (claimedSession dev handle 0)
      (fun _ after => after.handle? = some handle) fun _ after => after.handle? = some handle := by
  refine ((keeps_print _).opened rfl).bind ?_
  rintro _ _ rfl
  refine ((keeps_print _).opened rfl).bind ?_
  rintro _ _ rfl
  refine ((keeps_showReport 0).opened rfl).bind ?_
  rintro _ _ rfl
  refine ((keeps_print _).opened rfl).bind ?_
  rintro _ _ rfl
  refine ((keeps_request fun _ => .neutral _).opened rfl).bind ?_
  rintro cfg _ rfl
  refine ((keeps_forM fun ep _ => keeps_listen ep).opened rfl).bind ?_
  rintro _ _ rfl
  refine meets_releaseInterface.bind ?_
  rintro _ _ rfl
  refine ((keeps_print _).opened rfl).mono (fun _ _ => id) ?_
  rintro _ _ rfl
  rfl

/-- **The session.** The handle is still open at its end, however it ends. -/
theorem meets_session (dd : FullDescriptor) :
    Meets (lifecycle policy) (.opened handle) (session dev dd handle)
      (fun _ after => after.handle? = some handle) fun _ after => after.handle? = some handle := by
  refine ((keeps_print _).opened rfl).bind ?_
  rintro _ _ rfl
  refine ((keeps_request fun _ => .asks handle).opened rfl).bind ?_
  rintro langs _ rfl
  refine ((keeps_print _).opened rfl).bind ?_
  rintro _ _ rfl
  refine ((keeps_showStrings dd langs).opened rfl).bind ?_
  rintro _ _ rfl
  refine ((keeps_request fun _ => .asks handle).opened rfl).bind ?_
  rintro answer _ rfl
  refine ((keeps_print _).opened rfl).bind ?_
  rintro _ _ rfl
  refine meets_claimInterface.bind ?_
  rintro _ _ rfl
  exact meets_claimedSession

theorem meets_close (own : phase.handle? = some handle) :
    Meets (lifecycle policy) phase (close handle) (fun _ after => after.Ended)
      fun _ after => after.Ended :=
  meets_request fun _ => ⟨.closed, lifecycle_iff.mpr (.closes own), rfl⟩

/-- A device that says it is the sensor is vetted by that. -/
theorem meets_deviceDescriptor (dev : UsbDevice) (vetted : List UsbDevice) :
    Meets (lifecycle policy) (.before vetted) (deviceDescriptor dev) (fun _ after => after.Ended)
      fun answer after => ∃ now, after = .before now ∧ vetted ⊆ now ∧
        ∀ dd, answer = .ok dd → policy.supports dd.toDeviceDescriptor = true → dev ∈ now := by
  refine meets_request fun answer => ?_
  cases answer with
  | error e =>
      refine ⟨_, lifecycle_iff.mpr (.neutral _), vetted, rfl, List.Subset.refl vetted, ?_⟩
      rintro _ ⟨⟩
  | ok dd =>
      refine ⟨_, lifecycle_iff.mpr (.describes vetted dev dd.toDeviceDescriptor), _, rfl, ?_, ?_⟩
      · split
        · exact List.subset_cons_self dev vetted
        · exact List.Subset.refl vetted
      · intro dd' same supports
        cases same
        rw [if_pos supports]
        exact List.mem_cons_self

/-- The search vets what it returns. -/
theorem meets_find (devs : List UsbDevice) (vetted : List UsbDevice) :
    Meets (lifecycle policy) (.before vetted) (find devs) (fun _ after => after.Ended)
      fun dev after => ∃ now, after = .before now ∧ dev ∈ now := by
  induction devs generalizing vetted with
  | nil => exact meets_throw rfl
  | cons dev rest ih =>
      refine (meets_deviceDescriptor dev vetted).bind ?_
      rintro answer _ ⟨now, rfl, -, vets⟩
      cases answer with
      | error e => exact ih now
      | ok dd =>
          change Meets _ _ (if policy.supports dd.toDeviceDescriptor = true then pure dev
            else find rest) _ _
          by_cases supported : policy.supports dd.toDeviceDescriptor = true
          · rw [if_pos supported]
            exact meets_pure ⟨now, rfl, vets dd rfl supported⟩
          · rw [if_neg supported]
            exact ih now

/-- What keeps the process where it is before anything is open. -/
theorem Keeps.ended {program : ProbeM α} (keeps : Keeps phase program) (ended : phase.Ended) :
    Meets (lifecycle policy) phase program (fun _ after => after.Ended)
      fun _ after => after = phase := by
  refine Meets.mono keeps ?_ fun _ _ => id
  rintro _ _ rfl
  exact ended

/-- A vetted device may be opened. -/
theorem meets_openDevice {vetted : List UsbDevice} (known : dev ∈ vetted) :
    Meets (lifecycle policy) (.before vetted) (openDevice dev) (fun _ after => after.Ended)
      fun answer after => after = match answer with
        | .ok handle => .opened handle
        | .error _ => .before vetted := by
  refine meets_request fun answer => ?_
  cases answer with
  | error e => exact ⟨_, lifecycle_iff.mpr (.unopened known), rfl⟩
  | ok opened => exact ⟨_, lifecycle_iff.mpr (.opens known opened.val), rfl⟩

/-- **The life of the probe.** Whatever it is answered, it lives by its policy, and nothing is
open at its end. -/
theorem meets_main :
    Meets (lifecycle policy) Phase.start main (fun _ after => after.Ended)
      fun _ after => after.Ended := by
  refine ((keeps_request fun _ => .neutral _).ended (Phase.ended_before _)).bind ?_
  rintro ctx _ rfl
  refine ((keeps_request fun _ => .neutral _).ended (Phase.ended_before _)).bind ?_
  rintro devs _ rfl
  refine (meets_find devs []).bind ?_
  rintro dev _ ⟨found, rfl, known⟩
  refine (meets_deviceDescriptor dev found).bind ?_
  rintro answer _ ⟨vetted, rfl, kept, -⟩
  have read : Keeps (.before vetted) (settle (answer.mapError .usb) : ProbeM FullDescriptor) := by
    apply meets_settle
    cases answer <;> rfl
  refine (read.ended (Phase.ended_before _)).bind ?_
  rintro dd _ rfl
  refine ((keeps_showDevice dd).ended (Phase.ended_before _)).bind ?_
  rintro _ _ rfl
  refine ((keeps_forM fun ci _ => keeps_showConfig ci).ended (Phase.ended_before _)).bind ?_
  rintro _ _ rfl
  refine ((keeps_print _).ended (Phase.ended_before _)).bind ?_
  rintro _ _ rfl
  refine (meets_openDevice (kept known)).bind ?_
  rintro answer _ rfl
  cases answer with
  | ok handle =>
      refine (meets_session dd).ensuring ?_ ?_
      · exact fun _ _ own => meets_close own
      · exact fun _ _ own => meets_close own
  | error e =>
      refine ((keeps_print _).ended (Phase.ended_before _)).bind ?_
      rintro _ _ rfl
      exact meets_throw rfl

/-! ### The policy of its documentation -/

/-- An event that does not act on the device: nothing is sent to it, its driver is left alone, and
control transfers read descriptors. -/
def Passive : Event SysAnswer → Prop
  | ⟨.writeBulk _ _ _ _, _⟩ => False
  | ⟨.usb (.detachKernelDriver _ _), _⟩ => False
  | ⟨.readControl _ requestType request _ _ _ _, _⟩ => ReadsDescriptor requestType request
  | _ => True

theorem passive_of_step {after : Phase} {event : Event SysAnswer}
    (step : lifecycle policy phase event = some after) : Passive event := by
  rw [lifecycle_iff] at step
  rcases event with ⟨request, answer⟩
  cases request with
  | writeBulk handle endpoint buf timeout =>
      cases step with
      | sends _ allowed => cases allowed
  | readControl handle requestType request value index len timeout =>
      by_contra commands
      have meant : act ⟨.readControl handle requestType request value index len timeout, answer⟩ =
          .commands handle := if_neg commands
      rw [meant] at step
      cases step
  | usb call =>
      cases call with
      | detachKernelDriver handle iface =>
          cases step with
          | detaches allowed => cases allowed
      | _ => trivial
  | _ => trivial

/-- No access of the probe to a buffer is out of range. -/
theorem main_safe : Safe main := by
  intro trace fault run
  obtain ⟨_, _, impossible, -⟩ := meets_main _ _ run
  cases impossible

/-- The descriptor of a sensor without configurations. -/
def bare : FullDescriptor where
  vendorId := 0x04f3
  productId := 0x0c00
  usbVersion := ⟨2, 0, 0⟩
  deviceVersion := ⟨2, 8, 3⟩
  classCode := 0
  maxPacketSize := 8
  numConfigurations := 0
  stringIndex _ := none

/-- What the probe does with it before it opens it. -/
def bareShown : SysTrace :=
  [⟨.usb .newContext, (.ok ⟨0⟩ : Except UsbError Context)⟩,
    ⟨.usb (.devices ⟨0⟩), (.ok [⟨0⟩] : Except UsbError (List UsbDevice))⟩,
    ⟨.fullDescriptor ⟨0⟩, (.ok bare : Except UsbError FullDescriptor)⟩,
    ⟨.fullDescriptor ⟨0⟩, (.ok bare : Except UsbError FullDescriptor)⟩,
    Sys.printed (.probe .device), ⟨.place ⟨0⟩, (⟨1, 4, .full⟩ : Place)⟩,
    Sys.printed (.probe (.busAddr ⟨1, 4, .full⟩)), Sys.printed (.probe (.speed .full)),
    Sys.printed (.probe (.bcdUsb ⟨2, 0, 0⟩)), Sys.printed (.probe (.bcdDevice ⟨2, 8, 3⟩)),
    Sys.printed (.probe (.deviceClass 0)), Sys.printed (.probe (.maxPacketSize0 8)),
    Sys.printed (.probe (.numConfigurations 0)), Sys.printed (.probe .open)]

end Life

end Elan0c00.Probe
