import Elan0c00.Interfaces

/-! # What an opening leaves behind

A failed opening leaves no claim, and a sensor that is dropped gives up its own by the one
release it makes. A kernel driver is not put back: it stays bound exactly if it was never
detached (`openElanMoc2_interface`), and once it was, the end of the sensor does not bind it again
(`kernelDriver_not_rebound`).
-/

namespace Elan0c00

open Interaction Bytes

/-! ### Detached drivers -/

/-- An opening in the trace has detached the driver of interface 0, reported active. -/
def Detaches (dev : UsbDevice) (trace : UsbTrace) : Prop :=
  ∃ handle : DeviceHandle, handle.device = dev ∧ Usb.opened handle ∈ trace ∧
    Usb.active handle 0 (.ok true) ∈ trace ∧ Usb.detached handle 0 (.ok ()) ∈ trace

/-- Drivers are detached from interface 0 only, and only after they were reported active. -/
def Orderly (trace : UsbTrace) : Prop :=
  ∀ handle iface answer, Usb.detached handle iface answer ∈ trace →
    iface = 0 ∧ Usb.opened handle ∈ trace ∧ Usb.active handle 0 (.ok true) ∈ trace

theorem Orderly.append {first second : UsbTrace} (one : Orderly first) (other : Orderly second) :
    Orderly (first ++ second) := by
  intro handle iface answer member
  simp only [List.mem_append] at member ⊢
  rcases member with early | late
  · obtain ⟨zero, opened, active⟩ := one handle iface answer early
    exact ⟨zero, .inl opened, .inl active⟩
  · obtain ⟨zero, opened, active⟩ := other handle iface answer late
    exact ⟨zero, .inr opened, .inr active⟩

theorem Usb.Quiet.not_mem {queries : UsbTrace} (quiet : Usb.Quiet queries)
    {event : Event UsbAnswer} (changes : Usb.changes event.op = true) : event ∉ queries := by
  intro member
  rw [quiet event member] at changes
  cases changes

theorem Prepares.detached_mem {handle : DeviceHandle} {preparing last : UsbTrace}
    (prepares : Prepares handle preparing)
    (none : ∀ other iface answer, Usb.detached other iface answer ∉ last)
    {other : DeviceHandle} {iface : UInt8} {answer : Except UsbError Unit}
    (member : Usb.detached other iface answer ∈ preparing ++ last) :
    other = handle ∧ iface = 0 ∧ Usb.active handle 0 (.ok true) ∈ preparing ++ last := by
  rcases List.mem_append.mp member with early | late
  · cases prepares with
    | left answer idle => cases List.mem_singleton.mp early
    | detached =>
        rcases List.mem_pair.mp early with impossible | same
        · cases impossible
        · cases same
          exact ⟨rfl, rfl, List.mem_cons_self⟩
  · exact absurd late (none _ _ _)

/-- It is enough to look at the calls that follow the opening of a handle. -/
theorem orderly_of_opened {queries rest : UsbTrace} (quiet : Usb.Quiet queries)
    {handle : DeviceHandle}
    (own : ∀ other iface answer, Usb.detached other iface answer ∈ rest →
      other = handle ∧ iface = 0 ∧ Usb.active handle 0 (.ok true) ∈ rest) :
    Orderly (queries ++ Usb.opened handle :: rest) := by
  intro other iface answer member
  rcases List.mem_append.mp member with early | late
  · exact absurd early (quiet.not_mem rfl)
  · rcases List.mem_cons.mp late with impossible | later
    · cases impossible
    · obtain ⟨rfl, zero, active⟩ := own other iface answer later
      exact ⟨zero, by simp, by simp [active]⟩

theorem OpenRun.orderly {trace : UsbTrace} {result : Except Fault (Except Error Opened)}
    (run : OpenRun trace result) : Orderly trace := by
  cases run with
  | unopened quiet error =>
      intro handle iface answer member
      exact absurd member (quiet.not_mem rfl)
  | undetached quiet handle e =>
      apply orderly_of_opened quiet
      intro other iface answer member
      simp only [List.mem_cons, List.not_mem_nil, or_false] at member
      rcases member with impossible | same | impossible
      · cases impossible
      · cases same
        exact ⟨rfl, rfl, List.mem_cons_self⟩
      · cases impossible
  | unclaimed quiet handle prepares e =>
      apply orderly_of_opened quiet
      intro other iface answer
      apply prepares.detached_mem
      intro other iface answer member
      rcases List.mem_pair.mp member with impossible | impossible
      · cases impossible
      · cases impossible
  | claimed quiet handle prepares pid =>
      apply orderly_of_opened quiet
      intro other iface answer
      apply prepares.detached_mem
      intro other iface answer member
      cases List.mem_singleton.mp member

theorem orderly_drop {handle : DeviceHandle} {iface : UInt8} {answer : Except UsbError Unit} :
    Orderly [Usb.released handle iface answer, Usb.closed handle] := by
  intro other i answer member
  rcases List.mem_pair.mp member with impossible | impossible
  · cases impossible
  · cases impossible

section Detached

variable {usb : Libusb} {start before after : usb.State} {kept live : List Opened}
  {trace : UsbTrace} {base : DeviceHandle → UInt8 → Prop}

theorem History.orderly (first : Held base (usb.view start) kept)
    (history : History usb start kept trace after live) : Orderly trace := by
  induction history with
  | start => exact fun _ _ _ member => nomatch member
  | failed earlier attempt ih => exact ih.append (openRun_of_runs attempt.1).orderly
  | opened earlier attempt ih => exact ih.append (openRun_of_runs attempt.1).orderly
  | dropped earlier own drop ih =>
      obtain ⟨claimed, _⟩ := ((earlier.held first).perm own).usable _ List.mem_cons_self
      obtain ⟨answer, rfl, _⟩ := (runs_drop_iff claimed).mp drop.1
      exact ih.append orderly_drop

/-- A driver stays bound exactly if it was not detached. -/
theorem Orderly.bound_iff (orderly : Orderly trace) (path : Path usb.env before trace after)
    (dev : UsbDevice) (iface : UInt8) :
    (usb.view after).bound dev iface = true ↔
      (usb.view before).bound dev iface = true ∧ ¬ (iface = 0 ∧ Detaches dev trace) := by
  rw [Libusb.view_eq path, Interfaces.bound_afterAll]
  refine and_congr_right fun _ => ⟨?_, ?_⟩
  · rintro never ⟨rfl, handle, rfl, _, _, detached⟩
    exact never handle rfl detached
  · intro kept handle same detached
    obtain ⟨rfl, opened, active⟩ := orderly _ _ _ detached
    exact kept ⟨rfl, handle, same, opened, active, detached⟩

end Detached

/-! ### Releases -/

namespace Usb

/-- The answer to a release through a handle. -/
def release? (handle : DeviceHandle) : Event UsbAnswer → Option (Except UsbError Unit)
  | ⟨.releaseInterface h _, answer⟩ => if h = handle then some answer else none
  | _ => none

/-- The answers to the releases through a handle, in order. -/
def releases (handle : DeviceHandle) (trace : UsbTrace) : List (Except UsbError Unit) :=
  trace.filterMap (release? handle)

theorem releases_append (handle : DeviceHandle) (first second : UsbTrace) :
    releases handle (first ++ second) = releases handle first ++ releases handle second :=
  List.filterMap_append

theorem release?_of_quiet {event : Event UsbAnswer} (quiet : changes event.op = false)
    (handle : DeviceHandle) : release? handle event = none := by
  rcases event with ⟨op, answer⟩
  cases op with
  | releaseInterface => cases quiet
  | _ => rfl

theorem releases_quiet {queries : UsbTrace} (quiet : Quiet queries) (handle : DeviceHandle) :
    releases handle queries = [] := by
  apply List.filterMap_eq_nil_iff.mpr
  exact fun event member => release?_of_quiet (quiet event member) handle

theorem releases_drop {handle : DeviceHandle} {iface : UInt8} {answer : Except UsbError Unit} :
    releases handle [released handle iface answer, closed handle] = [answer] := by
  simp [releases, release?, released, closed]

theorem releases_drop_other {handle other : DeviceHandle} {iface : UInt8}
    {answer : Except UsbError Unit} (different : handle ≠ other) :
    releases other [released handle iface answer, closed handle] = [] := by
  simp [releases, release?, released, closed, different]

end Usb

theorem Prepares.releases_eq_nil {handle : DeviceHandle} {preparing : UsbTrace}
    (prepares : Prepares handle preparing) (other : DeviceHandle) :
    Usb.releases other preparing = [] := by
  cases prepares <;> rfl

/-- An opening releases nothing. -/
theorem OpenRun.releases_eq_nil {trace : UsbTrace} {result : Except Fault (Except Error Opened)}
    (run : OpenRun trace result) (other : DeviceHandle) : Usb.releases other trace = [] := by
  cases run with
  | unopened quiet error => exact Usb.releases_quiet quiet other
  | undetached quiet handle e =>
      rw [Usb.releases_append, Usb.releases_quiet quiet]
      rfl
  | unclaimed quiet handle prepares e =>
      rw [Usb.releases_append, Usb.releases_quiet quiet]
      change Usb.releases other (_ ++ _) = []
      rw [Usb.releases_append, prepares.releases_eq_nil]
      rfl
  | claimed quiet handle prepares pid =>
      rw [Usb.releases_append, Usb.releases_quiet quiet]
      change Usb.releases other (_ ++ _) = []
      rw [Usb.releases_append, prepares.releases_eq_nil]
      rfl

/-! ### A host with a driver -/

/-- The answers of a host that reports a driver as it is, and gives an interface to one handle of
a device at a time and to none while a driver has it. Any call may fail. -/
def HostAnswers (now : Interfaces) : (op : UsbRequest) → UsbAnswer op → Prop
  | .openDevice _, (.ok handle : Except UsbError (Subtype _)) =>
      ∀ iface, now.claims handle iface = false
  | .kernelDriverActive handle iface, (.ok present : Except UsbError Bool) =>
      present = now.bound handle.device iface
  | .detachKernelDriver handle iface, (.ok _ : Except UsbError Unit) =>
      now.bound handle.device iface = true
  | .claimInterface handle iface, (.ok _ : Except UsbError Unit) =>
      now.bound handle.device iface = false ∧
        ∀ other : DeviceHandle, other.device = handle.device → now.claims other iface = false
  | .releaseInterface handle iface, (.ok _ : Except UsbError Unit) =>
      now.claims handle iface = true
  | _, _ => True

/-- A libusb on such a host. -/
def host : Libusb where
  State := Interfaces
  view now := now
  env before op answer after := HostAnswers before op answer ∧ after = before.after ⟨op, answer⟩
  known step := step.2
  fresh step := step.1

def sensorDevice : UsbDevice := ⟨0⟩

def sensorHandle : DeviceHandle := ⟨sensorDevice, 0⟩

/-- A kernel driver has interface 0 of the sensor, and nothing is claimed. -/
def driverBound : Interfaces where
  bound dev iface := dev = sensorDevice ∧ iface = 0
  claims _ _ := false

/-- The calls that find the sensor, open it and detach its driver. -/
def detaching : UsbTrace :=
  [⟨.newContext, (.ok ⟨0⟩ : Except UsbError Context)⟩,
    ⟨.devices ⟨0⟩, (.ok [sensorDevice] : Except UsbError (List UsbDevice))⟩,
    ⟨.deviceDescriptor sensorDevice, (.ok ⟨0x04f3, 0x0c00⟩ : Except UsbError DeviceDescriptor)⟩,
    ⟨.deviceDescriptor sensorDevice, (.ok ⟨0x04f3, 0x0c00⟩ : Except UsbError DeviceDescriptor)⟩,
    Usb.opened sensorHandle, Usb.active sensorHandle 0 (.ok true),
    Usb.detached sensorHandle 0 (.ok ())]

def claimedSensor : Opened :=
  { pid := 0x0c00, interface := 0, claimed := true, handle := sensorHandle }

theorem path_detaching : Path host.env driverBound detaching (driverBound.afterAll detaching) := by
  refine .cons ⟨trivial, rfl⟩ (.cons ⟨trivial, rfl⟩ ?_)
  refine .cons ⟨trivial, rfl⟩ (.cons ⟨trivial, rfl⟩ ?_)
  refine .cons ⟨fun _ => rfl, rfl⟩ (.cons ⟨rfl, rfl⟩ (.cons ⟨rfl, rfl⟩ ?_))
  exact .nil _

/-- Once the driver is detached, the interface cannot be claimed. -/
theorem executes_busy :
    Executes host.env openElanMoc2.run driverBound
      (detaching ++ [Usb.claimed sensorHandle 0 (.error .busy), Usb.closed sensorHandle])
      (.ok (.error (.usb .busy)))
      ((driverBound.afterAll detaching).after (Usb.closed sensorHandle)) := by
  refine ⟨?_, Path.append_iff.mpr ⟨_, path_detaching, ?_⟩⟩
  · repeat constructor
  · exact .cons ⟨trivial, rfl⟩ (.cons ⟨trivial, rfl⟩ (.nil _))

theorem executes_claimed :
    Executes host.env openElanMoc2.run driverBound
      (detaching ++ [Usb.claimed sensorHandle 0 (.ok ())]) (.ok (.ok claimedSensor))
      ((driverBound.afterAll detaching).after (Usb.claimed sensorHandle 0 (.ok ()))) := by
  refine ⟨?_, Path.append_iff.mpr ⟨_, path_detaching, ?_⟩⟩
  · repeat constructor
  · exact .cons ⟨⟨rfl, fun _ _ => rfl⟩, rfl⟩ (.nil _)

theorem executes_dropped :
    Executes host.env claimedSensor.drop.run
      ((driverBound.afterAll detaching).after (Usb.claimed sensorHandle 0 (.ok ())))
      [Usb.released sensorHandle 0 (.ok ()), Usb.closed sensorHandle] (.ok (.ok ()))
      ((((driverBound.afterAll detaching).after (Usb.claimed sensorHandle 0 (.ok ()))).after
        (Usb.released sensorHandle 0 (.ok ()))).after (Usb.closed sensorHandle)) := by
  refine ⟨?_, ?_⟩
  · exact (runs_drop_iff rfl).mpr ⟨.ok (), rfl, rfl⟩
  · exact .cons ⟨rfl, rfl⟩ (.cons ⟨trivial, rfl⟩ (.nil _))

/-! ### What is left -/

section History

variable {usb : Libusb} {start now after : usb.State} {kept live : List Opened}
  {trace : UsbTrace} {base : DeviceHandle → UInt8 → Prop}

/-- No history releases through a handle that was not opened in it. -/
theorem History.releases_eq_nil (first : Held base (usb.view start) kept)
    (history : History usb start kept trace after live) {handle : DeviceHandle} {iface : UInt8}
    (taken : base handle iface) : Usb.releases handle trace = [] := by
  induction history with
  | start => rfl
  | failed earlier attempt ih =>
      rw [Usb.releases_append, ih, (openRun_of_runs attempt.1).releases_eq_nil, List.append_nil]
  | opened earlier attempt ih =>
      rw [Usb.releases_append, ih, (openRun_of_runs attempt.1).releases_eq_nil, List.append_nil]
  | dropped earlier own drop ih =>
      have held := (earlier.held first).perm own
      obtain ⟨claimed, _⟩ := held.usable _ List.mem_cons_self
      obtain ⟨answer, rfl, _⟩ := (runs_drop_iff claimed).mp drop.1
      have different := held.apart _ List.mem_cons_self iface
      rw [Usb.releases_append, ih, Usb.releases_drop_other, List.append_nil]
      rintro rfl
      exact different taken

theorem failed_interface {opening : UsbTrace} {error : Error}
    (attempt : Executes usb.env openElanMoc2.run now opening (.ok (.error error)) after) :
    (usb.view after).claims = (usb.view now).claims ∧
      ∀ dev iface, (usb.view after).bound dev iface = true ↔
        (usb.view now).bound dev iface = true ∧ ¬ (iface = 0 ∧ Detaches dev opening) := by
  obtain ⟨run, path⟩ := attempt
  refine ⟨?_, (openRun_of_runs run).orderly.bound_iff path⟩
  rw [Libusb.view_eq path]
  exact Interfaces.claims_failed (openRun_of_runs run) (Libusb.opensFresh path)

/-- A sensor opened among others keeps its claim until it is dropped, and is then released
once. -/
theorem session_interface {opening between dropping : UsbTrace} {opened held closed : usb.State}
    {me : Opened} {others : List Opened} (holds : Held base (usb.view now) live)
    (attempt : Executes usb.env openElanMoc2.run now opening (.ok (.ok me)) opened)
    (meanwhile : History usb opened live between held others)
    (drop : Executes usb.env me.drop.run held dropping (.ok (.ok ())) closed) :
    (usb.view held).claims me.handle 0 = true ∧
      (∃ answer, dropping = [Usb.released me.handle 0 answer, Usb.closed me.handle] ∧
        Usb.releases me.handle (opening ++ (between ++ dropping)) = [answer]) ∧
      (∀ iface, (usb.view closed).claims me.handle iface = false) ∧
      ∀ dev iface, (usb.view closed).bound dev iface = true ↔
        (usb.view now).bound dev iface = true ∧
          ¬ (iface = 0 ∧ Detaches dev (opening ++ (between ++ dropping))) := by
  have first := holds.of_opened attempt
  obtain ⟨claimed, interface⟩ := first.usable me List.mem_cons_self
  have keeps := meanwhile.held first.lend
  obtain ⟨answer, shape, _⟩ := (runs_drop_iff claimed).mp drop.1
  rw [interface] at shape
  have orderly : Orderly (opening ++ (between ++ dropping)) := by
    apply (openRun_of_runs attempt.1).orderly.append
    apply (meanwhile.orderly first.lend).append
    rw [shape]
    exact orderly_drop
  have path := Path.append_iff.mpr
    ⟨_, attempt.2, Path.append_iff.mpr ⟨_, meanwhile.path, drop.2⟩⟩
  refine ⟨?_, ⟨answer, shape, ?_⟩, fun iface => ?_, orderly.bound_iff path⟩
  · exact (keeps.claims me.handle 0).mpr (.inl (.inr ⟨rfl, rfl⟩))
  · rw [Usb.releases_append, Usb.releases_append, (openRun_of_runs attempt.1).releases_eq_nil,
      @History.releases_eq_nil _ _ _ _ _ _ _ first.lend meanwhile me.handle 0 (.inr ⟨rfl, rfl⟩),
      shape]
    exact Usb.releases_drop
  · rw [Libusb.view_eq drop.2, shape, Bool.eq_false_iff]
    exact fun claimed => (Interfaces.claims_dropped.mp claimed).2 rfl

/-- After any openings and drops: the claims are those found and those of the open sensors. A
failed opening changes no claim. A sensor keeps its claim until it is dropped, whatever the other
sensors do, and is then released once. Drivers stay bound that were not detached. -/
theorem openElanMoc2_interface {earlier : UsbTrace}
    (history : History usb start [] earlier now live) :
    (∀ handle iface, (usb.view now).claims handle iface = true ↔
      (usb.view start).claims handle iface = true ∨
        iface = 0 ∧ handle ∈ live.map Opened.handle) ∧
    (∀ opening error after,
      Executes usb.env openElanMoc2.run now opening (.ok (.error error)) after →
        (usb.view after).claims = (usb.view now).claims ∧
        ∀ dev iface, (usb.view after).bound dev iface = true ↔
          (usb.view now).bound dev iface = true ∧ ¬ (iface = 0 ∧ Detaches dev opening)) ∧
    ∀ opening me opened between others held dropping closed,
      Executes usb.env openElanMoc2.run now opening (.ok (.ok me)) opened →
      History usb opened live between held others →
      Executes usb.env me.drop.run held dropping (.ok (.ok ())) closed →
        (usb.view held).claims me.handle 0 = true ∧
        (∃ answer, dropping = [Usb.released me.handle 0 answer, Usb.closed me.handle] ∧
          Usb.releases me.handle (opening ++ (between ++ dropping)) = [answer]) ∧
        (∀ iface, (usb.view closed).claims me.handle iface = false) ∧
        ∀ dev iface, (usb.view closed).bound dev iface = true ↔
          (usb.view now).bound dev iface = true ∧
            ¬ (iface = 0 ∧ Detaches dev (opening ++ (between ++ dropping))) := by
  have holds := history.held (Held.start (usb.view start))
  refine ⟨holds.claims, ?_, ?_⟩
  · intro opening error after attempt
    exact failed_interface attempt
  · intro opening me opened between others held dropping closed attempt meanwhile drop
    exact session_interface holds attempt meanwhile drop

end History

/-- A sensor opened first and dropped at once. -/
theorem openElanMoc2_interface_dropped :
    (host.view ((driverBound.afterAll detaching).after
      (Usb.claimed sensorHandle 0 (.ok ())))).claims sensorHandle 0 = true ∧
    ∃ answer, Usb.releases sensorHandle
      ((detaching ++ [Usb.claimed sensorHandle 0 (.ok ())]) ++
        ([] ++ [Usb.released sensorHandle 0 (.ok ()), Usb.closed sensorHandle])) = [answer] := by
  have interface := openElanMoc2_interface (@History.start host driverBound [])
  obtain ⟨held, ⟨answer, _, once⟩, _⟩ :=
    interface.2.2 _ _ _ _ _ _ _ _ executes_claimed .start executes_dropped
  exact ⟨held, answer, once⟩

/-- On a host with a driver bound to the sensor, neither a failed opening nor an opening followed
by a drop that releases the interface leaves the driver bound. -/
theorem kernelDriver_not_rebound :
    driverBound.bound sensorDevice 0 = true ∧
    (∃ opening after,
      Executes host.env openElanMoc2.run driverBound opening (.ok (.error (.usb .busy))) after ∧
        (host.view after).bound sensorDevice 0 = false) ∧
    ∃ opening me opened dropping closed,
      Executes host.env openElanMoc2.run driverBound opening (.ok (.ok me)) opened ∧
      Executes host.env me.drop.run opened dropping (.ok (.ok ())) closed ∧
      Usb.released me.handle 0 (.ok ()) ∈ dropping ∧
      (host.view closed).bound sensorDevice 0 = false := by
  refine ⟨rfl, ⟨_, _, executes_busy, rfl⟩, ?_⟩
  exact ⟨_, _, _, _, _, executes_claimed, executes_dropped, List.mem_cons_self, rfl⟩

end Elan0c00
