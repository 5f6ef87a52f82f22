import Elan0c00.Interaction.Serialization
import Elan0c00.World

/-! # What may change places

Two exchanges with the machine have nothing to do with each other if they are through different
handles and, where both are transfers, for different devices, and if the first does not free an
interface that the second claims. Such exchanges may change places (`World.swaps`): what a call
changes it changes at its own handle, and a transfer moves the sensor of its device only.
-/

namespace Elan0c00

open Interaction Bytes

/-- The handle an act is about. -/
def Act.handle? : Act → Option DeviceHandle
  | .neutral => none
  | .describes _ _ => none
  | .opens _ handle => handle
  | .asks handle => some handle
  | .detaches handle _ => some handle
  | .claims handle _ _ => some handle
  | .controls handle => some handle
  | .commands handle => some handle
  | .sends handle _ => some handle
  | .receives handle => some handle
  | .releases handle _ => some handle
  | .closes handle => some handle

/-- An act that claims an interface. -/
def Act.Grants : Act → Prop
  | .claims _ _ granted => granted = true
  | _ => False

/-- An act that may free an interface. -/
def Act.Frees : Act → Prop
  | .releases _ _ => True
  | .closes _ => True
  | _ => False

/-- The first of two exchanges, by different processes, may as well come second. -/
structure Apart (first second : Event SysAnswer) : Prop where
  handles : ∀ handle, (act first).handle? = some handle → (act second).handle? ≠ some handle
  devices : ∀ dev, transferTo? first = some dev → transferTo? second ≠ some dev
  claims : (act first).Frees → ¬ (act second).Grants

/-! ### Calls -/

namespace Interfaces

variable {now other : Interfaces} {event : Event UsbAnswer} {handle : DeviceHandle}

/-- A call changes the claims through its handle, by what they were. -/
theorem claims_after_congr (same : now.claims handle = other.claims handle) :
    (now.after event).claims handle = (other.after event).claims handle := by
  rcases event with ⟨call, answer⟩
  funext iface
  have here := congrFun same iface
  cases call with
  | claimInterface => cases answer <;> simp [after, here]
  | releaseInterface => cases answer <;> simp [after, here]
  | detachKernelDriver => cases answer <;> exact here
  | close => simp [after, here]
  | _ => exact here

theorem claims_after_other (apart : (usbAct event).handle? ≠ some handle) :
    (now.after event).claims handle = now.claims handle := by
  rcases event with ⟨call, answer⟩
  funext iface
  cases call with
  | claimInterface other i =>
      cases answer with
      | error e => rfl
      | ok _ =>
          have different : handle ≠ other := fun same => apart (congrArg some same.symm)
          simp [after, different]
  | releaseInterface other i =>
      have different : handle ≠ other := fun same => apart (congrArg some same.symm)
      cases answer with
      | error e => rfl
      | ok _ => simp [after, different]
  | detachKernelDriver => cases answer <;> rfl
  | close other =>
      have different : handle ≠ other := fun same => apart (congrArg some same.symm)
      simp [after, different]
  | _ => rfl

/-- What is claimed after a call was claimed before, or the call claimed it. -/
theorem claims_of_after {iface : UInt8} (claimed : (now.after event).claims handle iface = true) :
    now.claims handle iface = true ∨ event = Usb.claimed handle iface (.ok ()) := by
  rcases event with ⟨call, answer⟩
  cases call with
  | claimInterface other i =>
      cases answer with
      | error e => exact .inl claimed
      | ok _ =>
          rcases claims_claimed.mp claimed with earlier | ⟨rfl, rfl⟩
          · exact .inl earlier
          · exact .inr rfl
  | releaseInterface other i =>
      cases answer with
      | error e => exact .inl claimed
      | ok _ => exact .inl (Bool.and_eq_true_iff.mp claimed).1
  | detachKernelDriver => cases answer <;> exact .inl claimed
  | close other => exact .inl (claims_closed.mp claimed).1
  | _ => exact .inl claimed

/-- Only a release or the closing of a handle ends a claim. -/
theorem claims_after_of {iface : UInt8} (keeps : ¬ (usbAct event).Frees)
    (claimed : now.claims handle iface = true) : (now.after event).claims handle iface = true := by
  rcases event with ⟨call, answer⟩
  cases call with
  | claimInterface other i =>
      cases answer with
      | error e => exact claimed
      | ok _ => exact claims_claimed.mpr (.inl claimed)
  | releaseInterface => exact absurd trivial keeps
  | detachKernelDriver => cases answer <;> exact claimed
  | close => exact absurd trivial keeps
  | _ => exact claimed

end Interfaces

namespace World

section Handles

variable {live other : DeviceHandle → Bool} {event : Event UsbAnswer} {handle : DeviceHandle}

/-- A call opens and closes its own handle only. -/
theorem liveAfter_congr (same : live handle = other handle) :
    liveAfter live event handle = liveAfter other event handle := by
  rcases event with ⟨call, answer⟩
  cases call with
  | openDevice => cases answer <;> simp [liveAfter, same]
  | close => simp [liveAfter, same]
  | _ => exact same

theorem liveAfter_other (apart : (usbAct event).handle? ≠ some handle) :
    liveAfter live event handle = live handle := by
  rcases event with ⟨call, answer⟩
  cases call with
  | openDevice dev =>
      cases answer with
      | error e => rfl
      | ok opened =>
          have different : handle ≠ opened.val := fun same => apart (congrArg some same.symm)
          simp [liveAfter, different]
  | close other =>
      have different : handle ≠ other := fun same => apart (congrArg some same.symm)
      simp [liveAfter, different]
  | _ => rfl

end Handles

/-! ### Exchanges -/

variable {pids : UsbDevice → UInt16} {conduct : UsbDevice → Conduct}

/-- The call an exchange is. -/
def call? : Event SysAnswer → Option (Event UsbAnswer)
  | ⟨.usb call, answer⟩ => some ⟨call, answer⟩
  | _ => none

/-- What an exchange does to the sensors. -/
def Moves (conduct : UsbDevice → Conduct) (before after : Sensors pids) : Event SysAnswer → Prop
  | ⟨.writeBulk handle endpoint buf timeout, answer⟩ =>
      ∃ sensor, Sensor.environment (pids handle.device) (conduct handle.device)
          (before handle.device) (.writeBulk endpoint buf timeout) answer sensor ∧
        after = Function.update before handle.device sensor
  | ⟨.readBulk handle endpoint len timeout, answer⟩ =>
      ∃ sensor, Sensor.environment (pids handle.device) (conduct handle.device)
          (before handle.device) (.readBulk endpoint len timeout) answer sensor ∧
        after = Function.update before handle.device sensor
  | _ => after = before

/-- The claims and drivers after an exchange. -/
def interfacesAfter (now : Interfaces) (event : Event SysAnswer) : Interfaces :=
  (call? event).elim now now.after

/-- The handles in use after an exchange. -/
def usedAfter (live : DeviceHandle → Bool) (event : Event SysAnswer) : DeviceHandle → Bool :=
  (call? event).elim live (liveAfter live)

/-- A step by its parts. -/
theorem step_iff {before after : World pids} {event : Event SysAnswer} :
    env pids conduct before event.op event.answer after ↔
      (∀ call, call? event = some call → before.Grants call) ∧
        after.interfaces = interfacesAfter before.interfaces event ∧
        after.live = usedAfter before.live event ∧
        Moves conduct before.sensors after.sensors event := by
  rcases event with ⟨request, answer⟩
  have unmoved : after = before ↔ after.interfaces = before.interfaces ∧
      after.live = before.live ∧ after.sensors = before.sensors := by
    constructor
    · rintro rfl
      exact ⟨rfl, rfl, rfl⟩
    · rintro ⟨interfaces, live, sensors⟩
      cases before
      cases after
      cases interfaces
      cases live
      cases sensors
      rfl
  cases request with
  | usb call =>
      refine and_congr_left fun _ => ⟨?_, fun all => all _ rfl⟩
      rintro grants _ ⟨⟩
      exact grants
  | writeBulk => exact (and_iff_right (by rintro _ ⟨⟩)).symm
  | readBulk => exact (and_iff_right (by rintro _ ⟨⟩)).symm
  | _ => exact unmoved.trans (and_iff_right (by rintro _ ⟨⟩)).symm

section Places

variable {now other : Interfaces} {live used : DeviceHandle → Bool} {first second : Event SysAnswer}
  {event : Event SysAnswer} {handle : DeviceHandle}

theorem claims_congr (same : now.claims handle = other.claims handle) :
    (interfacesAfter now event).claims handle = (interfacesAfter other event).claims handle := by
  rcases event with ⟨request, answer⟩
  cases request with
  | usb call => exact Interfaces.claims_after_congr same
  | _ => exact same

theorem claims_other (apart : (act event).handle? ≠ some handle) :
    (interfacesAfter now event).claims handle = now.claims handle := by
  rcases event with ⟨request, answer⟩
  cases request with
  | usb call => exact Interfaces.claims_after_other apart
  | _ => rfl

theorem live_congr (same : live handle = used handle) :
    usedAfter live event handle = usedAfter used event handle := by
  rcases event with ⟨request, answer⟩
  cases request with
  | usb call => exact liveAfter_congr same
  | _ => exact same

theorem live_other (apart : (act event).handle? ≠ some handle) :
    usedAfter live event handle = live handle := by
  rcases event with ⟨request, answer⟩
  cases request with
  | usb call => exact liveAfter_other apart
  | _ => rfl

/-- A driver stays bound unless the exchange detaches it. -/
theorem bound_iff {dev : UsbDevice} {iface : UInt8} :
    (interfacesAfter now event).bound dev iface = true ↔ now.bound dev iface = true ∧
      ∀ call, call? event = some call → ∀ handle : DeviceHandle, handle.device = dev →
        call ≠ Usb.detached handle iface (.ok ()) := by
  rcases event with ⟨request, answer⟩
  cases request with
  | usb call =>
      refine Interfaces.bound_after.trans (and_congr_right fun _ => ⟨?_, fun all => all _ rfl⟩)
      rintro never _ ⟨⟩
      exact never
  | _ => exact (and_iff_left (by rintro _ ⟨⟩)).symm

theorem claims_of {iface : UInt8} (claimed : (interfacesAfter now event).claims handle iface = true) :
    now.claims handle iface = true ∨ call? event = some (Usb.claimed handle iface (.ok ())) := by
  rcases event with ⟨request, answer⟩
  cases request with
  | usb call => exact (Interfaces.claims_of_after claimed).imp_right (congrArg some)
  | _ => exact .inl claimed

theorem claims_claimed {iface : UInt8}
    (claims : call? event = some (Usb.claimed handle iface (.ok ()))) :
    (interfacesAfter now event).claims handle iface = true := by
  unfold interfacesAfter
  rw [claims]
  exact Interfaces.claims_claimed.mpr (.inr ⟨rfl, rfl⟩)

theorem claims_kept {iface : UInt8} (keeps : ¬ (act event).Frees)
    (claimed : now.claims handle iface = true) :
    (interfacesAfter now event).claims handle iface = true := by
  rcases event with ⟨request, answer⟩
  cases request with
  | usb call => exact Interfaces.claims_after_of keeps claimed
  | _ => exact claimed

theorem act_of_call {call : Event UsbAnswer} (same : call? event = some call) :
    act event = usbAct call := by
  rcases event with ⟨request, answer⟩
  cases request with
  | usb call =>
      cases same
      rfl
  | _ => cases same

/-- Through different handles it makes no difference what comes first. -/
theorem interfaces_comm
    (apart : ∀ handle, (act first).handle? = some handle → (act second).handle? ≠ some handle) :
    interfacesAfter (interfacesAfter now first) second =
      interfacesAfter (interfacesAfter now second) first := by
  have bound : (interfacesAfter (interfacesAfter now first) second).bound =
      (interfacesAfter (interfacesAfter now second) first).bound := by
    funext dev iface
    rw [Bool.eq_iff_iff, bound_iff, bound_iff, bound_iff, bound_iff]
    exact and_right_comm
  have claims : (interfacesAfter (interfacesAfter now first) second).claims =
      (interfacesAfter (interfacesAfter now second) first).claims := by
    funext handle
    by_cases mine : (act first).handle? = some handle
    · rw [claims_other (apart handle mine)]
      exact claims_congr (claims_other (apart handle mine)).symm
    · rw [claims_other mine]
      exact claims_congr (claims_other mine)
  calc interfacesAfter (interfacesAfter now first) second
      = ⟨(interfacesAfter (interfacesAfter now first) second).bound,
          (interfacesAfter (interfacesAfter now first) second).claims⟩ := rfl
    _ = interfacesAfter (interfacesAfter now second) first := by rw [bound, claims]

theorem live_comm
    (apart : ∀ handle, (act first).handle? = some handle → (act second).handle? ≠ some handle) :
    usedAfter (usedAfter live first) second = usedAfter (usedAfter live second) first := by
  funext handle
  by_cases mine : (act first).handle? = some handle
  · rw [live_other (apart handle mine)]
    exact live_congr (live_other (apart handle mine)).symm
  · rw [live_other mine]
    exact live_congr (live_other mine)

end Places

/-- Sensors of different devices move independently. -/
theorem sensors_comm {before middle after : Sensors pids} {one other : UsbDevice}
    {first : Sensor (pids one) → Sensor (pids one) → Prop}
    {second : Sensor (pids other) → Sensor (pids other) → Prop} (apart : one ≠ other)
    (head : ∃ sensor, first (before one) sensor ∧ middle = Function.update before one sensor)
    (tail : ∃ sensor, second (middle other) sensor ∧
      after = Function.update middle other sensor) :
    ∃ between : Sensors pids,
      (∃ sensor, second (before other) sensor ∧
        between = Function.update before other sensor) ∧
      ∃ sensor, first (between one) sensor ∧ after = Function.update between one sensor := by
  obtain ⟨sensor, moved, rfl⟩ := head
  obtain ⟨sensor', moved', rfl⟩ := tail
  rw [Function.update_of_ne (Ne.symm apart)] at moved'
  refine ⟨_, ⟨sensor', moved', rfl⟩, sensor, ?_, Function.update_comm apart ..⟩
  rw [Function.update_of_ne apart]
  exact moved

theorem moves_of_none {before after : Sensors pids} {event : Event SysAnswer}
    (none : transferTo? event = none) : Moves conduct before after event ↔ after = before := by
  rcases event with ⟨request, answer⟩
  cases request with
  | writeBulk => cases none
  | readBulk => cases none
  | _ => exact .rfl

/-- A transfer moves one sensor. -/
theorem moves_of_some {event : Event SysAnswer} {dev : UsbDevice}
    (transfer : transferTo? event = some dev) :
    ∃ moved : Sensor (pids dev) → Sensor (pids dev) → Prop, ∀ before after : Sensors pids,
      Moves conduct before after event ↔
        ∃ sensor, moved (before dev) sensor ∧ after = Function.update before dev sensor := by
  rcases event with ⟨request, answer⟩
  cases request with
  | writeBulk handle endpoint buf timeout =>
      cases transfer
      exact ⟨fun now next => Sensor.environment (pids handle.device) (conduct handle.device) now
        (.writeBulk endpoint buf timeout) answer next, fun _ _ => .rfl⟩
  | readBulk handle endpoint len timeout =>
      cases transfer
      exact ⟨fun now next => Sensor.environment (pids handle.device) (conduct handle.device) now
        (.readBulk endpoint len timeout) answer next, fun _ _ => .rfl⟩
  | _ => cases transfer

theorem moves_comm {before middle after : Sensors pids} {first second : Event SysAnswer}
    (apart : ∀ dev, transferTo? first = some dev → transferTo? second ≠ some dev)
    (head : Moves conduct before middle first) (tail : Moves conduct middle after second) :
    ∃ between, Moves conduct before between second ∧ Moves conduct between after first := by
  cases one : transferTo? first with
  | none =>
      obtain rfl := (moves_of_none one).mp head
      exact ⟨after, tail, (moves_of_none one).mpr rfl⟩
  | some dev =>
      cases other : transferTo? second with
      | none =>
          obtain rfl := (moves_of_none other).mp tail
          exact ⟨before, (moves_of_none other).mpr rfl, head⟩
      | some dev' =>
          have different : dev ≠ dev' := by
            rintro rfl
            exact apart dev one other
          obtain ⟨moved, first_iff⟩ := @moves_of_some pids conduct _ _ one
          obtain ⟨moved', second_iff⟩ := @moves_of_some pids conduct _ _ other
          rw [first_iff] at head
          rw [second_iff] at tail
          obtain ⟨between, early, late⟩ := sensors_comm different head tail
          exact ⟨between, (second_iff _ _).mpr early, (first_iff _ _).mpr late⟩

/-! ### Grants -/

/-- A grant that is given is also given where nothing else is claimed and the handle is as open. -/
theorem grants_of {now other : World pids} {call : Event UsbAnswer}
    (grants : now.Grants call)
    (live : ∀ handle, (usbAct call).handle? = some handle → other.live handle = now.live handle)
    (claims : ∀ handle iface, call = Usb.claimed handle iface (.ok ()) →
      ∀ rival : DeviceHandle, rival ≠ handle → rival.device = handle.device →
        now.interfaces.claims rival iface = false → other.interfaces.claims rival iface = false) :
    other.Grants call := by
  rcases call with ⟨call, answer⟩
  cases call with
  | deviceDescriptor dev =>
      cases answer with
      | error e => trivial
      | ok d => exact grants
  | openDevice dev =>
      cases answer with
      | error e => trivial
      | ok handle => exact (live handle.val rfl).trans grants
  | claimInterface handle iface =>
      cases answer with
      | error e => trivial
      | ok _ =>
          refine ⟨(live handle rfl).trans grants.1, fun rival different same => ?_⟩
          exact claims handle iface rfl rival different same (grants.2 rival different same)
  | _ => trivial

/-- **What may change places.** -/
theorem swaps {first second : Event SysAnswer} (apart : Apart first second) :
    Swaps (env pids conduct) first second := by
  intro before after path
  obtain ⟨middle, head, tail⟩ := Path.cons_iff.mp path
  obtain ⟨_, tail, ended⟩ := Path.cons_iff.mp tail
  obtain rfl := Path.nil_iff.mp ended
  obtain ⟨granted, interfaces, live, moved⟩ := step_iff.mp head
  obtain ⟨granted', interfaces', live', moved'⟩ := step_iff.mp tail
  obtain ⟨sensors, early, late⟩ := moves_comm apart.devices moved moved'
  have others : ∀ handle, (act second).handle? = some handle → (act first).handle? ≠ some handle :=
    fun handle mine theirs => apart.handles handle theirs mine
  let between : World pids :=
    { interfaces := interfacesAfter before.interfaces second
      live := usedAfter before.live second
      sensors := sensors
      claimed_live := by
        intro handle iface claimed
        by_cases mine : (act second).handle? = some handle
        · have sameClaims : after.interfaces.claims handle =
              (interfacesAfter before.interfaces second).claims handle := by
            rw [interfaces', interfaces]
            exact claims_congr (claims_other (others handle mine))
          have sameLive : after.live handle = usedAfter before.live second handle := by
            rw [live', live]
            exact live_congr (live_other (others handle mine))
          rw [← sameLive]
          rw [← sameClaims] at claimed
          exact after.claimed_live handle iface claimed
        · rw [claims_other mine] at claimed
          rw [live_other mine]
          exact before.claimed_live handle iface claimed }
  have grants_second : ∀ call, call? second = some call → before.Grants call := by
    intro call same
    refine grants_of (granted' call same) (fun handle mine => ?_) ?_
    · rw [live, live_other (others handle (by rwa [act_of_call same]))]
    · rintro handle iface rfl rival - - free
      have keeps : ¬ (act first).Frees := fun frees =>
        apart.claims frees (by rw [act_of_call same]; rfl)
      rw [Bool.eq_false_iff] at free ⊢
      intro claimed
      rw [interfaces] at free
      exact free (claims_kept keeps claimed)
  have grants_first : ∀ call, call? first = some call → between.Grants call := by
    intro call same
    refine grants_of (granted call same) (fun handle mine => ?_) ?_
    · exact live_other (apart.handles handle (by rwa [act_of_call same]))
    · rintro handle iface rfl rival different device free
      rw [Bool.eq_false_iff]
      intro claimed
      rcases claims_of claimed with earlier | now
      · rw [free] at earlier
        cases earlier
      · have refused := (granted' _ now).2 handle (Ne.symm different) device.symm
        rw [interfaces, claims_claimed same] at refused
        cases refused
  refine .cons (step_iff.mpr ⟨grants_second, rfl, rfl, early⟩)
    (.cons (step_iff.mpr ⟨grants_first, ?_, ?_, late⟩) (.nil _))
  · rw [interfaces', interfaces, interfaces_comm apart.handles]
  · rw [live', live, live_comm apart.handles]

end World

end Elan0c00
