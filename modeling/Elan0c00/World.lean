import Elan0c00.Interfaces
import Elan0c00.Lifecycle
import Elan0c00.Sensor

/-! # The machine the processes share

The interfaces with their claims and drivers, the handles in use, and the sensors. Of the kernel
this is used: a descriptor names the product of its device, a handle given out is not in use, an
interface of a device is claimed through one handle at a time, and what is claimed is claimed
through a handle in use. A bulk transfer reaches the sensor of the device of its handle, which
answers a frame before it takes the next and drops a reply that is not read by then (`Sensor`).
`World.effect_of_step` says what a step changes of the handles and the claims, by what the request
means for the process.
-/

namespace Elan0c00

open Interaction Bytes

/-- The sensors of all devices. -/
abbrev Sensors (pids : UsbDevice → UInt16) := (dev : UsbDevice) → Sensor (pids dev)

/-- The state of the machine. -/
structure World (pids : UsbDevice → UInt16) where
  interfaces : Interfaces
  live : DeviceHandle → Bool
  sensors : Sensors pids
  claimed_live : ∀ handle iface, interfaces.claims handle iface = true → live handle = true

namespace World

variable {pids : UsbDevice → UInt16} {conduct : UsbDevice → Conduct}

/-- Nothing is claimed through a handle that is not in use. -/
theorem claims_of_dead (world : World pids) {handle : DeviceHandle}
    (dead : world.live handle = false) : world.interfaces.claims handle = fun _ => false := by
  funext iface
  rw [Bool.eq_false_iff]
  intro claimed
  have live := world.claimed_live handle iface claimed
  rw [dead] at live
  cases live

/-- The handles in use after a call. -/
def liveAfter (live : DeviceHandle → Bool) : Event UsbAnswer → DeviceHandle → Bool
  | ⟨.openDevice _, (.ok handle : Except UsbError (Subtype _))⟩ =>
      fun other => live other || other = handle.val
  | ⟨.close handle, _⟩ => fun other => live other && other ≠ handle
  | _ => live

/-- What the kernel grants. Any call may fail; a descriptor that is read names the product. -/
def Grants (now : World pids) : Event UsbAnswer → Prop
  | ⟨.deviceDescriptor dev, (.ok d : Except UsbError DeviceDescriptor)⟩ => d.productId = pids dev
  | ⟨.openDevice _, (.ok handle : Except UsbError (Subtype _))⟩ => now.live handle.val = false
  | ⟨.claimInterface handle iface, (.ok _ : Except UsbError Unit)⟩ =>
      now.live handle = true ∧
        ∀ other : DeviceHandle, other ≠ handle → other.device = handle.device →
          now.interfaces.claims other iface = false
  | _ => True

/-- The world as the environment of the processes. -/
def env (pids : UsbDevice → UInt16) (conduct : UsbDevice → Conduct) :
    Environment SysAnswer (World pids) :=
  fun before request answer after =>
    match request, answer with
    | .usb call, answer =>
        before.Grants ⟨call, answer⟩ ∧
          after.interfaces = before.interfaces.after ⟨call, answer⟩ ∧
          after.live = liveAfter before.live ⟨call, answer⟩ ∧ after.sensors = before.sensors
    | .writeBulk handle endpoint buf timeout, answer =>
        after.interfaces = before.interfaces ∧ after.live = before.live ∧
          ∃ sensor, Sensor.environment (pids handle.device) (conduct handle.device)
              (before.sensors handle.device) (.writeBulk endpoint buf timeout) answer sensor ∧
            after.sensors = Function.update before.sensors handle.device sensor
    | .readBulk handle endpoint len timeout, answer =>
        after.interfaces = before.interfaces ∧ after.live = before.live ∧
          ∃ sensor, Sensor.environment (pids handle.device) (conduct handle.device)
              (before.sensors handle.device) (.readBulk endpoint len timeout) answer sensor ∧
            after.sensors = Function.update before.sensors handle.device sensor
    | _, _ => after = before

/-- What an act changes of the handles in use and of the claims. -/
def Effect (before after : World pids) : Act → Prop
  | .opens _ (some handle) =>
      before.live handle = false ∧
        (∀ other, after.live other = true ↔ before.live other = true ∨ other = handle) ∧
        after.interfaces.claims = before.interfaces.claims
  | .claims handle iface true =>
      (∀ other : DeviceHandle, other ≠ handle → other.device = handle.device →
        before.interfaces.claims other iface = false) ∧
      after.live = before.live ∧
      ∀ other i, after.interfaces.claims other i = true ↔
        before.interfaces.claims other i = true ∨ other = handle ∧ i = iface
  | .releases handle _ =>
      after.live = before.live ∧
        ∀ other, other ≠ handle → after.interfaces.claims other = before.interfaces.claims other
  | .closes handle =>
      (∀ other, after.live other = true ↔ before.live other = true ∧ other ≠ handle) ∧
        ∀ other i, after.interfaces.claims other i = true ↔
          before.interfaces.claims other i = true ∧ other ≠ handle
  | _ => after.live = before.live ∧ after.interfaces.claims = before.interfaces.claims

variable {before after : World pids}

/-- **What a step changes.** -/
theorem effect_of_step {request : SysRequest} {answer : SysAnswer request}
    (step : env pids conduct before request answer after) :
    Effect before after (act ⟨request, answer⟩) := by
  cases request with
  | usb call =>
      obtain ⟨grants, interfaces, live, -⟩ := step
      have claims := congrArg Interfaces.claims interfaces
      cases call with
      | deviceDescriptor dev => cases answer <;> exact ⟨live, claims⟩
      | openDevice dev =>
          cases answer with
          | error e => exact ⟨live, claims⟩
          | ok handle =>
              refine ⟨grants, fun other => ?_, claims⟩
              rw [live]
              simp [liveAfter]
      | detachKernelDriver handle iface =>
          exact ⟨live, claims.trans (Interfaces.claims_detached answer)⟩
      | claimInterface handle iface =>
          cases answer with
          | error e => exact ⟨live, claims⟩
          | ok _ =>
              refine ⟨grants.2, live, fun other i => ?_⟩
              rw [claims]
              exact Interfaces.claims_claimed
      | releaseInterface handle iface =>
          refine ⟨live, fun other different => ?_⟩
          rw [claims]
          cases answer with
          | error e => rfl
          | ok _ =>
              funext i
              simp [Interfaces.after, different]
      | close handle =>
          refine ⟨fun other => ?_, fun other i => ?_⟩
          · rw [live]
            simp [liveAfter]
          · rw [claims]
            exact Interfaces.claims_closed
      | _ => exact ⟨live, claims⟩
  | writeBulk => exact ⟨step.2.1, congrArg Interfaces.claims step.1⟩
  | readBulk => exact ⟨step.2.1, congrArg Interfaces.claims step.1⟩
  | fullDescriptor dev =>
      obtain rfl := step
      cases answer <;> exact ⟨rfl, rfl⟩
  | readControl handle requestType request value index len timeout =>
      obtain rfl := step
      by_cases reads : ReadsDescriptor requestType request
      · have meant : act ⟨.readControl handle requestType request value index len timeout, answer⟩ =
            .controls handle := if_pos reads
        rw [meant]
        exact ⟨rfl, rfl⟩
      · have meant : act ⟨.readControl handle requestType request value index len timeout, answer⟩ =
            .commands handle := if_neg reads
        rw [meant]
        exact ⟨rfl, rfl⟩
  | _ =>
      obtain rfl := step
      exact ⟨rfl, rfl⟩

/-- A claim lasts until it is released, or its handle closed. -/
theorem claims_of_step {request : SysRequest} {answer : SysAnswer request}
    {handle : DeviceHandle} {iface : UInt8}
    (step : env pids conduct before request answer after)
    (claimed : before.interfaces.claims handle iface = true)
    (kept : (⟨request, answer⟩ : Event SysAnswer) ≠
        usbWords.event (Usb.released handle iface (.ok ())) ∧
      (⟨request, answer⟩ : Event SysAnswer) ≠ usbWords.event (Usb.closed handle)) :
    after.interfaces.claims handle iface = true := by
  cases request with
  | usb call =>
      obtain ⟨-, interfaces, -, -⟩ := step
      rw [interfaces]
      refine Interfaces.claims_after claimed ⟨?_, ?_⟩
      · exact fun same => kept.1 (congrArg usbWords.event same)
      · exact fun same => kept.2 (congrArg usbWords.event same)
  | writeBulk => rwa [step.1]
  | readBulk => rwa [step.1]
  | _ =>
      obtain rfl := step
      exact claimed

theorem claims_of_path {trace : SysTrace} {handle : DeviceHandle} {iface : UInt8}
    (path : Path (env pids conduct) before trace after)
    (claimed : before.interfaces.claims handle iface = true)
    (kept : ∀ event ∈ trace, event ≠ usbWords.event (Usb.released handle iface (.ok ())) ∧
      event ≠ usbWords.event (Usb.closed handle)) :
    after.interfaces.claims handle iface = true := by
  induction path with
  | nil => exact claimed
  | cons step _ ih =>
      obtain ⟨here, later⟩ := List.forall_mem_cons.mp kept
      exact ih (claims_of_step step claimed here) later

/-! ### The sensors -/

/-- The transfer an event is for a device, without the handle it goes through. -/
def transfer? (dev : UsbDevice) : Event SysAnswer → Option (Event Answer)
  | ⟨.writeBulk handle endpoint buf timeout, answer⟩ =>
      if handle.device = dev then some ⟨.writeBulk endpoint buf timeout, answer⟩ else none
  | ⟨.readBulk handle endpoint len timeout, answer⟩ =>
      if handle.device = dev then some ⟨.readBulk endpoint len timeout, answer⟩ else none
  | _ => none

/-- The bulk transfers of a trace to a device. -/
def transfersTo (dev : UsbDevice) (trace : SysTrace) : Trace := trace.filterMap (transfer? dev)

theorem transfersTo_append (dev : UsbDevice) (first second : SysTrace) :
    transfersTo dev (first ++ second) = transfersTo dev first ++ transfersTo dev second :=
  List.filterMap_append

/-- A transfer moves the sensor of the device of its handle and no other. -/
theorem path_of_transfer {sensors : Sensors pids} {handle : DeviceHandle} {request : Request}
    {answer : Answer request} {event : Event SysAnswer} {sensor : Sensor (pids handle.device)}
    (seen : ∀ dev, transfer? dev event =
      if handle.device = dev then some ⟨request, answer⟩ else none)
    (moved : Sensor.environment (pids handle.device) (conduct handle.device)
      (sensors handle.device) request answer sensor)
    (dev : UsbDevice) :
    Path (Sensor.environment (pids dev) (conduct dev)) (sensors dev) (transfersTo dev [event])
      (Function.update sensors handle.device sensor dev) := by
  by_cases here : handle.device = dev
  · subst here
    simp only [transfersTo, List.filterMap_cons, seen, if_true, List.filterMap_nil,
      Function.update_self]
    exact .cons moved (.nil _)
  · rw [Function.update_of_ne (Ne.symm here)]
    simp only [transfersTo, List.filterMap_cons, seen, if_neg here, List.filterMap_nil]
    exact .nil _

theorem sensors_of_step {request : SysRequest} {answer : SysAnswer request}
    (step : env pids conduct before request answer after) (dev : UsbDevice) :
    Path (Sensor.environment (pids dev) (conduct dev)) (before.sensors dev)
      (transfersTo dev [⟨request, answer⟩]) (after.sensors dev) := by
  cases request with
  | usb call =>
      obtain ⟨-, -, -, sensors⟩ := step
      rw [sensors]
      exact .nil _
  | writeBulk handle endpoint buf timeout =>
      obtain ⟨-, -, sensor, moved, sensors⟩ := step
      rw [sensors]
      exact path_of_transfer (fun _ => rfl) moved dev
  | readBulk handle endpoint len timeout =>
      obtain ⟨-, -, sensor, moved, sensors⟩ := step
      rw [sensors]
      exact path_of_transfer (fun _ => rfl) moved dev
  | _ =>
      obtain rfl := step
      exact .nil _

/-- The sensor of a device sees the transfers to the device and nothing else. -/
theorem path_sensor {trace : SysTrace} (path : Path (env pids conduct) before trace after)
    (dev : UsbDevice) :
    Path (Sensor.environment (pids dev) (conduct dev)) (before.sensors dev)
      (transfersTo dev trace) (after.sensors dev) := by
  induction path with
  | nil world => exact .nil _
  | @cons before middle after request answer rest step tail ih =>
      have split : transfersTo dev (⟨request, answer⟩ :: rest) =
          transfersTo dev [⟨request, answer⟩] ++ transfersTo dev rest :=
        transfersTo_append dev [⟨request, answer⟩] rest
      rw [split]
      exact Path.append_iff.mpr ⟨_, sensors_of_step step dev, ih⟩

/-! ### What the machine lets happen -/

/-- What a call that is granted leads to. -/
def afterCall (now : World pids) (event : Event UsbAnswer) (grants : now.Grants event) :
    World pids where
  interfaces := now.interfaces.after event
  live := liveAfter now.live event
  sensors := now.sensors
  claimed_live handle iface claimed := by
    rcases event with ⟨call, answer⟩
    cases call with
    | openDevice dev =>
        cases answer with
        | error e => exact now.claimed_live handle iface claimed
        | ok opened => simp [liveAfter, now.claimed_live handle iface claimed]
    | claimInterface other i =>
        cases answer with
        | error e => exact now.claimed_live handle iface claimed
        | ok _ =>
            rcases Interfaces.claims_claimed.mp claimed with earlier | ⟨rfl, -⟩
            · exact now.claimed_live handle iface earlier
            · exact grants.1
    | close other =>
        obtain ⟨earlier, different⟩ := Interfaces.claims_closed.mp claimed
        simp [liveAfter, now.claimed_live handle iface earlier, different]
    | releaseInterface other i =>
        cases answer with
        | error e => exact now.claimed_live handle iface claimed
        | ok _ =>
            refine now.claimed_live handle iface ?_
            simp only [Interfaces.after, Bool.and_eq_true] at claimed
            exact claimed.1
    | detachKernelDriver other i =>
        refine now.claimed_live handle iface ?_
        rwa [show (now.interfaces.after ⟨.detachKernelDriver other i, answer⟩).claims =
          now.interfaces.claims from Interfaces.claims_detached answer] at claimed
    | _ => exact now.claimed_live handle iface claimed

def withSensor (now : World pids) (dev : UsbDevice) (sensor : Sensor (pids dev)) : World pids :=
  { now with sensors := Function.update now.sensors dev sensor }

section Paths

variable {now : World pids} {rest : SysTrace} {handle : DeviceHandle}

theorem exists_path_call {event : Event UsbAnswer} (grants : now.Grants event)
    (later : ∃ after, Path (env pids conduct) (now.afterCall event grants) rest after) :
    ∃ after, Path (env pids conduct) now (usbWords.event event :: rest) after := by
  obtain ⟨after, path⟩ := later
  have step : env pids conduct now (.usb event.op) event.answer (now.afterCall event grants) :=
    ⟨grants, rfl, rfl, rfl⟩
  exact ⟨after, .cons step path⟩

theorem exists_path_printed {line : Line}
    (later : ∃ after, Path (env pids conduct) now rest after) :
    ∃ after, Path (env pids conduct) now
      ((sensorWords handle).event (Bus.printed line) :: rest) after := by
  obtain ⟨after, path⟩ := later
  exact ⟨after, .cons rfl path⟩

/-- A frame is sent and its reply received. -/
theorem exists_path_exchange {cmd : Cmd} {out full : List UInt8}
    {taken : {n : Nat // n ≤ out.length}}
    {reply : {bytes : List UInt8 // bytes.length ≤ cmd.inLen}}
    {sensor : Sensor (pids handle.device)}
    (answers : Sensor.Answers (conduct handle.device) (now.sensors handle.device) out full sensor)
    (same : reply.val = full.take cmd.inLen)
    (later : ∃ after, Path (env pids conduct)
      (now.withSensor handle.device { sensor with reply := [] }) rest after) :
    ∃ after, Path (env pids conduct) now
      ((sensorWords handle).event (Bus.sent out taken) ::
        (sensorWords handle).event (Bus.received cmd reply) :: rest) after := by
  obtain ⟨after, path⟩ := later
  have wrote : env pids conduct now (.writeBulk handle Proto.epCmdOut out sendTimeout) (.ok taken)
      (now.withSensor handle.device { sensor with reply := full }) :=
    ⟨rfl, rfl, _, ⟨full, _, answers, rfl⟩, rfl⟩
  have read : env pids conduct (now.withSensor handle.device { sensor with reply := full })
      (.readBulk handle cmd.epIn cmd.inLen recvTimeout) (.ok reply)
      (now.withSensor handle.device { sensor with reply := [] }) := by
    have waiting : (now.withSensor handle.device { sensor with reply := full }).sensors
        handle.device = { sensor with reply := full } := Function.update_self ..
    refine ⟨rfl, rfl, { sensor with reply := [] }, ?_, (Function.update_idem ..).symm⟩
    rw [waiting]
    exact ⟨same, rfl⟩
  exact ⟨after, .cons wrote (.cons read path)⟩

end Paths

end World

end Elan0c00
