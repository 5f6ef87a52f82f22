import Elan0c00.Interaction.Monitor
import Elan0c00.Interaction.Interleaving
import Elan0c00.Framing
import Elan0c00.System

/-! # The life of a process

What a program of this repository may do to the system, as a monitor over its requests. It opens
one device at most, and only one whose descriptor it has read and found supported; it asks and
claims through the handle it got; it transfers only between a granted claim and the release, and
only frames its policy allows; and it closes the handle, after which it does nothing more to the
system. `Phase.discipline` reads a life as the holding of one device, once.
-/

namespace Elan0c00

open Interaction Bytes

/-- What a request with its answer means for the device and the handle it is about. -/
inductive Act where
  | neutral
  | describes (dev : UsbDevice) (d : DeviceDescriptor)
  | opens (dev : UsbDevice) (handle : Option DeviceHandle)
  | asks (handle : DeviceHandle)
  | detaches (handle : DeviceHandle) (iface : UInt8)
  | claims (handle : DeviceHandle) (iface : UInt8) (granted : Bool)
  | controls (handle : DeviceHandle)
  | commands (handle : DeviceHandle)
  | sends (handle : DeviceHandle) (frame : List UInt8)
  | receives (handle : DeviceHandle)
  | releases (handle : DeviceHandle) (iface : UInt8)
  | closes (handle : DeviceHandle)

/-- A control transfer that only reads a descriptor: it goes in, is a standard request, and the
request is GET_DESCRIPTOR. -/
def ReadsDescriptor (requestType : BmRequestType) (request : UInt8) : Prop :=
  requestType.direction = .in ∧ requestType.requestType = .standard ∧ request = 0x06

instance (requestType : BmRequestType) (request : UInt8) :
    Decidable (ReadsDescriptor requestType request) :=
  inferInstanceAs (Decidable (_ ∧ _ ∧ _))

/-- What a call of an opening or a drop means. -/
def usbAct : Event UsbAnswer → Act
  | ⟨.deviceDescriptor dev, (.ok d : Except UsbError DeviceDescriptor)⟩ => .describes dev d
  | ⟨.openDevice dev, (.ok handle : Except UsbError (Subtype _))⟩ => .opens dev (some handle.val)
  | ⟨.openDevice dev, (.error _ : Except UsbError (Subtype _))⟩ => .opens dev none
  | ⟨.kernelDriverActive handle _, _⟩ => .asks handle
  | ⟨.detachKernelDriver handle iface, _⟩ => .detaches handle iface
  | ⟨.claimInterface handle iface, (.ok _ : Except UsbError Unit)⟩ => .claims handle iface true
  | ⟨.claimInterface handle iface, (.error _ : Except UsbError Unit)⟩ => .claims handle iface false
  | ⟨.releaseInterface handle iface, _⟩ => .releases handle iface
  | ⟨.close handle, _⟩ => .closes handle
  | _ => .neutral

/-- What a request means. -/
def act : Event SysAnswer → Act
  | ⟨.usb call, answer⟩ => usbAct ⟨call, answer⟩
  | ⟨.fullDescriptor dev, (.ok d : Except UsbError FullDescriptor)⟩ =>
      .describes dev d.toDeviceDescriptor
  | ⟨.readLanguages handle _, _⟩ => .asks handle
  | ⟨.readString handle _ _ _, _⟩ => .asks handle
  | ⟨.readControl handle requestType request _ _ _ _, _⟩ =>
      if ReadsDescriptor requestType request then .controls handle else .commands handle
  | ⟨.writeBulk handle _ buf _, _⟩ => .sends handle buf
  | ⟨.readBulk handle _ _ _, _⟩ => .receives handle
  | _ => .neutral

/-- An event that reads the descriptor of a device. -/
inductive Describes (dev : UsbDevice) : DeviceDescriptor → Event SysAnswer → Prop where
  | usb (d : DeviceDescriptor) :
      Describes dev d ⟨.usb (.deviceDescriptor dev), (.ok d : Except UsbError DeviceDescriptor)⟩
  | full (d : FullDescriptor) :
      Describes dev d.toDeviceDescriptor
        ⟨.fullDescriptor dev, (.ok d : Except UsbError FullDescriptor)⟩

/-- The event behind an act that changes what is held, or reads a descriptor. -/
def Act.Of (event : Event SysAnswer) : Act → Prop
  | .describes dev d => Describes dev d event
  | .opens dev (some handle) => handle.device = dev ∧ event = usbWords.event (Usb.opened handle)
  | .claims handle iface true => event = usbWords.event (Usb.claimed handle iface (.ok ()))
  | .releases handle iface =>
      ∃ answer, event = usbWords.event (Usb.released handle iface answer)
  | .closes handle => event = usbWords.event (Usb.closed handle)
  | _ => True

theorem act_of (event : Event SysAnswer) : (act event).Of event := by
  rcases event with ⟨request, answer⟩
  cases request with
  | usb call =>
      cases call with
      | deviceDescriptor dev =>
          cases answer with
          | error e => trivial
          | ok d => exact .usb d
      | openDevice dev =>
          cases answer with
          | error e => trivial
          | ok opened =>
              obtain ⟨handle, rfl⟩ := opened
              exact ⟨rfl, rfl⟩
      | claimInterface handle iface =>
          cases answer with
          | error e => trivial
          | ok _ => rfl
      | releaseInterface handle iface => exact ⟨answer, rfl⟩
      | close handle => rfl
      | _ => trivial
  | fullDescriptor dev =>
      cases answer with
      | error e => trivial
      | ok d => exact .full d
  | readControl handle requestType request value index len timeout =>
      change Act.Of _ (if ReadsDescriptor requestType request then .controls handle
        else .commands handle)
      split <;> trivial
  | _ => trivial

theorem of_act {event : Event SysAnswer} {meant : Act} (same : act event = meant) :
    meant.Of event := by
  rw [← same]
  exact act_of event

/-- What distinguishes the programs: the devices they take for a sensor, whether they detach a
driver, and the frames they may send. -/
structure Policy where
  supports : DeviceDescriptor → Bool
  detaches : Bool
  frames : List UInt8 → Bool

/-- How far a process has come: the devices found supported so far, then the handle it has, and
whether it holds interface 0 through it. -/
inductive Phase where
  | before (vetted : List UsbDevice)
  | opened (handle : DeviceHandle)
  | holding (handle : DeviceHandle)
  | released (handle : DeviceHandle)
  | closed
  deriving DecidableEq

namespace Phase

/-- Before anything has been done. -/
def start : Phase := .before []

/-- The handle that is open. -/
def handle? : Phase → Option DeviceHandle
  | .before _ => none
  | .opened handle => some handle
  | .holding handle => some handle
  | .released handle => some handle
  | .closed => none

/-- Nothing is open. -/
def Ended (phase : Phase) : Prop := phase.handle? = none

theorem ended_before (vetted : List UsbDevice) : (before vetted).Ended := rfl

/-- The phase an act leads to; acts out of place are refused. -/
def step (policy : Policy) : Phase → Act → Option Phase
  | phase, .neutral => some phase
  | .before vetted, .describes dev d =>
      some (.before (if policy.supports d then dev :: vetted else vetted))
  | .before vetted, .opens dev none => if dev ∈ vetted then some (.before vetted) else none
  | .before vetted, .opens dev (some handle) => if dev ∈ vetted then some (.opened handle) else none
  | .opened handle, .asks other => if other = handle then some (.opened handle) else none
  | .opened handle, .detaches other iface =>
      if policy.detaches ∧ other = handle ∧ iface = 0 then some (.opened handle) else none
  | .opened handle, .claims other iface granted =>
      if other = handle ∧ iface = 0 then
        some (if granted then .holding handle else .opened handle)
      else none
  | .holding handle, .controls other => if other = handle then some (.holding handle) else none
  | .holding handle, .sends other frame =>
      if other = handle ∧ policy.frames frame then some (.holding handle) else none
  | .holding handle, .receives other => if other = handle then some (.holding handle) else none
  | .holding handle, .releases other iface =>
      if other = handle ∧ iface = 0 then some (.released handle) else none
  | .opened handle, .closes other => if other = handle then some .closed else none
  | .holding handle, .closes other => if other = handle then some .closed else none
  | .released handle, .closes other => if other = handle then some .closed else none
  | _, _ => none

/-- The acts in their places, with what each asks for and leads to. -/
inductive Step (policy : Policy) : Phase → Act → Phase → Prop where
  | neutral (phase : Phase) : Step policy phase .neutral phase
  | describes (vetted : List UsbDevice) (dev : UsbDevice) (d : DeviceDescriptor) :
      Step policy (.before vetted) (.describes dev d)
        (.before (if policy.supports d then dev :: vetted else vetted))
  | unopened {vetted : List UsbDevice} {dev : UsbDevice} (known : dev ∈ vetted) :
      Step policy (.before vetted) (.opens dev none) (.before vetted)
  | opens {vetted : List UsbDevice} {dev : UsbDevice} (known : dev ∈ vetted)
      (handle : DeviceHandle) : Step policy (.before vetted) (.opens dev (some handle)) (.opened handle)
  | asks (handle : DeviceHandle) : Step policy (.opened handle) (.asks handle) (.opened handle)
  | detaches (allowed : policy.detaches = true) (handle : DeviceHandle) :
      Step policy (.opened handle) (.detaches handle 0) (.opened handle)
  | refused (handle : DeviceHandle) :
      Step policy (.opened handle) (.claims handle 0 false) (.opened handle)
  | claims (handle : DeviceHandle) :
      Step policy (.opened handle) (.claims handle 0 true) (.holding handle)
  | controls (handle : DeviceHandle) :
      Step policy (.holding handle) (.controls handle) (.holding handle)
  | sends (handle : DeviceHandle) {frame : List UInt8} (allowed : policy.frames frame = true) :
      Step policy (.holding handle) (.sends handle frame) (.holding handle)
  | receives (handle : DeviceHandle) :
      Step policy (.holding handle) (.receives handle) (.holding handle)
  | releases (handle : DeviceHandle) :
      Step policy (.holding handle) (.releases handle 0) (.released handle)
  | closes {phase : Phase} {handle : DeviceHandle} (own : phase.handle? = some handle) :
      Step policy phase (.closes handle) .closed

/-- **What a step can do.** -/
theorem step_iff {policy : Policy} {phase after : Phase} {act : Act} :
    phase.step policy act = some after ↔ Step policy phase act after := by
  constructor
  · fun_cases step policy phase act
    -- A refused act leads nowhere; the others are told apart by what was checked.
    all_goals rintro ⟨⟩
    · exact .neutral _
    · exact .describes _ _ _
    · exact .unopened ‹_›
    · exact .opens ‹_› _
    · exact .asks _
    next allowed =>
      obtain ⟨detaches, rfl, rfl⟩ := allowed
      exact .detaches detaches _
    next granted own =>
      obtain ⟨rfl, rfl⟩ := own
      cases granted with
      | false => exact .refused _
      | true => exact .claims _
    · exact .controls _
    next own =>
      obtain ⟨rfl, allowed⟩ := own
      exact .sends _ allowed
    · exact .receives _
    next own =>
      obtain ⟨rfl, rfl⟩ := own
      exact .releases _
    all_goals exact .closes rfl
  · intro step
    cases step with
    | neutral => cases phase <;> rfl
    | describes => rfl
    | unopened known => exact if_pos known
    | opens known => exact if_pos known
    | asks => exact if_pos rfl
    | detaches allowed => exact if_pos ⟨allowed, rfl, rfl⟩
    | refused => exact if_pos ⟨rfl, rfl⟩
    | claims => exact if_pos ⟨rfl, rfl⟩
    | controls => exact if_pos rfl
    | sends _ allowed => exact if_pos ⟨rfl, allowed⟩
    | receives => exact if_pos rfl
    | releases => exact if_pos ⟨rfl, rfl⟩
    | closes own =>
        cases phase with
        | before => cases own
        | closed => cases own
        | _ => exact if_pos (Option.some.inj own).symm

/-- How far a process has come with the device it may hold. -/
def stage : Phase → Stage UsbDevice
  | .before _ => .idle
  | .opened _ => .idle
  | .holding handle => .holding handle.device
  | .released _ => .done
  | .closed => .done

theorem Step.follows {policy : Policy} {phase after : Phase} {act : Act}
    (step : Step policy phase act after) : phase.stage.Follows after.stage := by
  cases step with
  | claims handle => exact .takes handle.device
  | releases handle => exact .gives handle.device
  | closes own =>
      cases phase with
      | before => cases own
      | opened => exact .passes
      | holding handle => exact .gives handle.device
      | released => exact .stays _
      | closed => cases own
  | _ => exact .stays _

end Phase

/-- The life of a process under a policy. -/
def lifecycle (policy : Policy) : Monitor (Event SysAnswer) Phase :=
  fun phase event => phase.step policy (act event)

/-- The handle a transfer goes through: a bulk transfer, or a control transfer with a request of the
program's own. What libusb transfers itself to read a string descriptor is not counted. -/
def through? : Event SysAnswer → Option DeviceHandle
  | ⟨.readControl handle _ _ _ _ _ _, _⟩ => some handle
  | ⟨.writeBulk handle _ _ _, _⟩ => some handle
  | ⟨.readBulk handle _ _ _, _⟩ => some handle
  | _ => none

/-- The device a bulk transfer is for. -/
def transferTo? : Event SysAnswer → Option UsbDevice
  | ⟨.writeBulk handle _ _ _, _⟩ => some handle.device
  | ⟨.readBulk handle _ _ _, _⟩ => some handle.device
  | _ => none

section Lifecycle

variable {policy : Policy} {phase after : Phase} {event : Event SysAnswer} {trace : SysTrace}

theorem lifecycle_iff :
    lifecycle policy phase event = some after ↔ phase.Step policy (act event) after :=
  Phase.step_iff

/-- Transfers go through the handle that holds the device. -/
theorem holding_of_through {handle : DeviceHandle}
    (step : lifecycle policy phase event = some after) (through : through? event = some handle) :
    phase = .holding handle := by
  rw [lifecycle_iff] at step
  rcases event with ⟨request, answer⟩
  cases request with
  | writeBulk handle endpoint buf timeout =>
      cases through
      cases step with
      | sends => rfl
  | readBulk handle endpoint len timeout =>
      cases through
      cases step with
      | receives => rfl
  | readControl handle requestType request value index len timeout =>
      cases through
      by_cases reads : ReadsDescriptor requestType request
      · have meant : act ⟨.readControl handle requestType request value index len timeout, answer⟩ =
            .controls handle := if_pos reads
        rw [meant] at step
        cases step with
        | controls => rfl
      · have meant : act ⟨.readControl handle requestType request value index len timeout, answer⟩ =
            .commands handle := if_neg reads
        rw [meant] at step
        cases step
  | _ => cases through

theorem through_of_transferTo {dev : UsbDevice} (transfer : transferTo? event = some dev) :
    ∃ handle, through? event = some handle ∧ handle.device = dev := by
  rcases event with ⟨request, answer⟩
  cases request with
  | writeBulk handle => exact ⟨handle, rfl, Option.some.inj transfer⟩
  | readBulk handle => exact ⟨handle, rfl, Option.some.inj transfer⟩
  | _ => cases transfer

/-- Processes that live by their policies hold one device each, once. -/
def discipline {ι : Type} (policies : ι → Policy) :
    Discipline (fun i => lifecycle (policies i)) UsbDevice where
  stage := Phase.stage
  used := transferTo?
  follows step := (lifecycle_iff.mp step).follows
  held step transfer := by
    obtain ⟨handle, through, rfl⟩ := through_of_transferTo transfer
    rw [holding_of_through step through]
    rfl

/-- Every frame sent is one the policy allows. -/
theorem frames_of_watch {out : List UInt8}
    (accepted : (lifecycle policy).watch phase trace = some after)
    (sent : out ∈ Sys.outFrames trace) : policy.frames out = true := by
  obtain ⟨⟨request, answer⟩, member, offered⟩ := List.mem_filterMap.mp sent
  obtain ⟨_, _, step⟩ := Monitor.exists_step_of_mem accepted member
  rw [lifecycle_iff] at step
  cases request with
  | writeBulk handle endpoint buf timeout =>
      cases offered
      cases step with
      | sends _ allowed => exact allowed
  | _ => cases offered

/-- Only interface 0 has its driver detached, and only where the policy allows it. -/
theorem detaches_of_watch {handle : DeviceHandle} {iface : UInt8} {answer : Except UsbError Unit}
    (accepted : (lifecycle policy).watch phase trace = some after)
    (member : usbWords.event (Usb.detached handle iface answer) ∈ trace) :
    policy.detaches = true ∧ iface = 0 := by
  obtain ⟨_, _, step⟩ := Monitor.exists_step_of_mem accepted member
  cases lifecycle_iff.mp step with
  | detaches allowed => exact ⟨allowed, rfl⟩

/-- A handle once claimed through stays open until it is closed, and is not claimed through
again. -/
theorem watch_claimed {handle : DeviceHandle}
    (accepted : (lifecycle policy).watch phase trace = some after)
    (claimed : phase = .holding handle ∨ phase = .released handle)
    (kept : ∀ event ∈ trace, act event ≠ .closes handle) :
    after = .holding handle ∨ after = .released handle := by
  induction trace generalizing phase with
  | nil =>
      obtain rfl := Option.some.inj accepted
      exact claimed
  | cons event rest ih =>
      obtain ⟨here, later⟩ := List.forall_mem_cons.mp kept
      obtain ⟨middle, step, tail⟩ := Monitor.watch_cons_iff.mp accepted
      rw [lifecycle_iff] at step
      refine ih tail ?_ later
      generalize act event = done at step here
      rcases claimed with rfl | rfl
      · cases step with
        | releases => exact .inr rfl
        | closes own =>
            cases own
            exact absurd rfl here
        | _ => exact .inl rfl
      · cases step with
        | neutral => exact .inr rfl
        | closes own =>
            cases own
            exact absurd rfl here

end Lifecycle

/-! ### Opening, transferring, dropping -/

/-- The policy of `elanctl`. -/
def Elanctl.policy : Policy where
  supports d := d.vendorId = Proto.vid ∧ d.productId ∈ Proto.supportedPids
  detaches := true
  frames out := ¬ Proto.PersistentHeader out

section Opening

open Fallible

/-- The calls of an opening or a drop, watched. -/
def usbLife (policy : Policy) : Monitor (Event UsbAnswer) Phase :=
  fun phase event => lifecycle policy phase (usbWords.event event)

variable {policy : Policy} {phase after : Phase} {α : Type} {failed : Error → Phase → Prop}

theorem usbLife_iff {event : Event UsbAnswer} :
    usbLife policy phase event = some after ↔ phase.Step policy (usbAct event) after :=
  Phase.step_iff

/-- A call that means nothing for the life of the process. -/
theorem meets_neutral {op : UsbRequest} {read : UsbAnswer op → Except Error α}
    (neutral : ∀ answer, usbAct ⟨op, answer⟩ = .neutral) :
    Meets (usbLife policy) phase (Fallible.request op read : UsbM α)
      (fun _ after => after = phase) fun _ after => after = phase := by
  refine meets_request fun answer => ⟨phase, ?_, ?_⟩
  · rw [usbLife_iff, neutral answer]
    exact .neutral phase
  · cases read answer <;> rfl

theorem meets_newContext : Meets (usbLife policy) phase newContext
    (fun _ after => after = phase) fun _ after => after = phase :=
  meets_neutral fun _ => rfl

theorem meets_devices (ctx : Context) : Meets (usbLife policy) phase ctx.devices
    (fun _ after => after = phase) fun _ after => after = phase :=
  meets_neutral fun _ => rfl

/-- A supported device is vetted by its descriptor. -/
theorem meets_deviceDescriptor (dev : UsbDevice) (vetted : List UsbDevice) :
    Meets (usbLife policy) (.before vetted) dev.deviceDescriptor failed
      fun answer after => ∃ now, after = .before now ∧ vetted ⊆ now ∧
        ∀ d, answer = .ok d → policy.supports d = true → dev ∈ now := by
  refine meets_request fun answer => ?_
  cases answer with
  | error e =>
      refine ⟨_, rfl, vetted, rfl, List.Subset.refl vetted, ?_⟩
      rintro _ ⟨⟩
  | ok d =>
      refine ⟨_, rfl, _, rfl, ?_, ?_⟩
      · split
        · exact List.subset_cons_self dev vetted
        · exact List.Subset.refl vetted
      · intro d' same supports
        cases same
        rw [if_pos supports]
        exact List.mem_cons_self

/-- The search vets what it returns. -/
theorem meets_findAmong (devs : List UsbDevice) (vetted : List UsbDevice) :
    Meets (usbLife Elanctl.policy) (.before vetted) (findAmong devs) (fun _ after => after.Ended)
      fun dev after => ∃ now, after = .before now ∧ dev ∈ now := by
  induction devs generalizing vetted with
  | nil => exact meets_throw rfl
  | cons dev rest ih =>
      refine (meets_deviceDescriptor dev vetted).bind ?_
      rintro answer _ ⟨now, rfl, -, vets⟩
      cases answer with
      | error e => exact ih now
      | ok d =>
          by_cases supported : d.vendorId = Proto.vid ∧ d.productId ∈ Proto.supportedPids
          · simp only [if_pos supported]
            exact meets_pure ⟨now, rfl, vets d rfl (decide_eq_true supported)⟩
          · simp only [if_neg supported]
            exact ih now

/-- The search starts with nothing vetted. -/
theorem meets_findElanMoc2 (ctx : Context) :
    Meets (usbLife Elanctl.policy) Phase.start (findElanMoc2 ctx) (fun _ after => after.Ended)
      fun dev after => ∃ now, after = .before now ∧ dev ∈ now := by
  refine ((meets_devices ctx).mono ?_ fun _ _ => id).bind ?_
  · rintro _ _ rfl
    rfl
  · rintro devs _ rfl
    exact meets_findAmong devs []

/-- A vetted device may be opened. -/
theorem meets_openDevice {dev : UsbDevice} {vetted : List UsbDevice} (known : dev ∈ vetted) :
    Meets (usbLife policy) (.before vetted) dev.openDevice (fun _ after => after.Ended)
      fun handle after => after = .opened handle := by
  refine meets_request fun answer => ?_
  cases answer with
  | error e => exact ⟨_, usbLife_iff.mpr (.unopened known), rfl⟩
  | ok opened => exact ⟨_, usbLife_iff.mpr (.opens known opened.val), rfl⟩

theorem meets_kernelDriverActive (handle : DeviceHandle) (iface : UInt8) :
    Meets (usbLife policy) (.opened handle) (handle.kernelDriverActive iface) failed
      fun _ after => after = .opened handle :=
  meets_request fun _ => ⟨_, usbLife_iff.mpr (.asks handle), rfl⟩

theorem meets_detachKernelDriver (allowed : policy.detaches = true) (handle : DeviceHandle) :
    Meets (usbLife policy) (.opened handle) (handle.detachKernelDriver 0)
      (fun _ after => after = .opened handle) fun _ after => after = .opened handle := by
  refine meets_request fun answer => ⟨_, usbLife_iff.mpr (.detaches allowed handle), ?_⟩
  cases answer <;> rfl

theorem meets_claimInterface (handle : DeviceHandle) :
    Meets (usbLife policy) (.opened handle) (handle.claimInterface 0)
      (fun _ after => after = .opened handle) fun _ after => after = .holding handle := by
  refine meets_request fun answer => ?_
  cases answer with
  | error e => exact ⟨_, usbLife_iff.mpr (.refused handle), rfl⟩
  | ok _ => exact ⟨_, usbLife_iff.mpr (.claims handle), rfl⟩

theorem meets_releaseInterface (handle : DeviceHandle) :
    Meets (usbLife policy) (.holding handle) (handle.releaseInterface 0) failed
      fun _ after => after = .released handle :=
  meets_request fun _ => ⟨_, usbLife_iff.mpr (.releases handle), rfl⟩

/-- Closing the handle that is open ends the life. -/
theorem meets_close {handle : DeviceHandle} (own : phase.handle? = some handle) :
    Meets (usbLife policy) phase handle.close failed fun _ after => after = .closed :=
  meets_request fun _ => ⟨.closed, usbLife_iff.mpr (.closes own), rfl⟩

/-- What fails with the handle open is followed by its closing. -/
theorem meets_closing {handle : DeviceHandle} {program : UsbM Unit}
    {returned : Unit → Phase → Prop}
    (meets : Meets (usbLife policy) phase program (fun _ after => after = .opened handle)
      returned) :
    Meets (usbLife policy) phase (onFailure handle.close program) (fun _ after => after.Ended)
      returned := by
  refine meets.onFailure ?_
  rintro _ _ rfl
  refine (meets_close rfl).mono (fun _ _ => id) ?_
  rintro _ _ rfl
  rfl

/-- Asking for a driver and detaching it leave the handle open. -/
theorem meets_prepare (handle : DeviceHandle) :
    Meets (usbLife Elanctl.policy) (.opened handle) (do
      if (← handle.kernelDriverActive 0).toOption.getD false then
        handle.detachKernelDriver 0 : UsbM Unit)
      (fun _ after => after = .opened handle) fun _ after => after = .opened handle := by
  refine (meets_kernelDriverActive handle 0).bind ?_
  rintro answer _ rfl
  split
  · exact meets_detachKernelDriver rfl handle
  · exact meets_pure rfl

/-- **Opening.** It ends with the claim of interface 0, or with nothing open. -/
theorem meets_openElanMoc2 :
    Meets (usbLife Elanctl.policy) Phase.start openElanMoc2 (fun _ after => after.Ended)
      fun me after => after = .holding me.handle ∧ me.interface = 0 ∧ me.claimed = true := by
  refine (meets_newContext.mono ?_ fun _ _ => id).bind ?_
  · rintro _ _ rfl
    rfl
  rintro ctx _ rfl
  refine (meets_findElanMoc2 ctx).bind ?_
  rintro dev _ ⟨found, rfl, known⟩
  refine (meets_deviceDescriptor dev found).bind ?_
  rintro answer _ ⟨vetted, rfl, kept, -⟩
  have read : Meets (usbLife Elanctl.policy) (.before vetted)
      (settle (answer.mapError .usb) : UsbM DeviceDescriptor) (fun _ after => after.Ended)
        fun _ after => after = .before vetted := by
    apply meets_settle
    cases answer <;> rfl
  refine read.bind ?_
  rintro d _ rfl
  refine (meets_openDevice (kept known)).bind ?_
  rintro handle _ rfl
  refine (meets_closing (meets_prepare handle)).bind ?_
  rintro _ _ rfl
  refine (meets_closing (meets_claimInterface handle)).bind ?_
  rintro _ _ rfl
  exact meets_pure ⟨rfl, rfl, rfl⟩

/-- **Dropping.** A sensor is released and closed. -/
theorem meets_drop {me : Opened} (interface : me.interface = 0) (claimed : me.claimed = true) :
    Program.Meets (lifecycle policy) (.holding me.handle) (me.drop.run.translate usbWords)
      fun _ after => after = .closed := by
  have dropped : Meets (usbLife policy) (.holding me.handle) me.drop
      (fun _ after => after = .closed) fun _ after => after = .closed := by
    unfold Opened.drop
    rw [if_pos claimed, interface]
    refine (meets_releaseInterface me.handle).bind ?_
    rintro _ _ rfl
    exact meets_close rfl
  refine (Program.Meets.mono dropped fun known after ended => ?_).translate
  cases known <;> exact ended

end Opening

/-- Between claim and release the library may transfer what the policy allows. -/
theorem watch_sensorWords {policy : Policy} {handle : DeviceHandle} {trace : Trace}
    (allowed : ∀ out ∈ trace.outFrames, policy.frames out = true) :
    (lifecycle policy).watch (.holding handle) (trace.map (sensorWords handle).event) =
      some (.holding handle) := by
  apply Monitor.watch_stays
  intro event member
  obtain ⟨⟨request, answer⟩, inside, rfl⟩ := List.mem_map.mp member
  cases request with
  | writeBulk endpoint buf timeout =>
      refine lifecycle_iff.mpr (.sends handle (allowed buf ?_))
      exact List.mem_filterMap.mpr ⟨_, inside, rfl⟩
  | readBulk => exact lifecycle_iff.mpr (.receives handle)
  | println => exact lifecycle_iff.mpr (.neutral _)

end Elan0c00
