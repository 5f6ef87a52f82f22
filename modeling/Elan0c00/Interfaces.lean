import Elan0c00.Opening

/-! # Who holds an interface

Of libusb only this is used: what its calls change of the claims and of the kernel drivers
bound to interfaces, and that a handle just opened claims nothing (`Libusb`). Openings and drops
follow each other in any order (`History`). At any time the interfaces claimed are those that
were found claimed and interface 0 of each sensor still open (`History.held`).
-/

namespace Elan0c00

open Interaction Bytes

/-- Which interfaces have a kernel driver, and which are claimed through which handle. -/
structure Interfaces where
  bound : UsbDevice → UInt8 → Bool
  claims : DeviceHandle → UInt8 → Bool

namespace Interfaces

/-- What a call changes. A call that failed changes nothing; closing a handle ends its claims. -/
def after (now : Interfaces) : Event UsbAnswer → Interfaces
  | ⟨.detachKernelDriver handle iface, (.ok _ : Except UsbError Unit)⟩ =>
      { now with bound := fun dev i => now.bound dev i && !(dev = handle.device ∧ i = iface) }
  | ⟨.claimInterface handle iface, (.ok _ : Except UsbError Unit)⟩ =>
      { now with claims := fun h i => now.claims h i || (h = handle ∧ i = iface) }
  | ⟨.releaseInterface handle iface, (.ok _ : Except UsbError Unit)⟩ =>
      { now with claims := fun h i => now.claims h i && !(h = handle ∧ i = iface) }
  | ⟨.close handle, _⟩ => { now with claims := fun h i => now.claims h i && !(h = handle) }
  | _ => now

/-- What several calls change. -/
def afterAll (now : Interfaces) (trace : UsbTrace) : Interfaces := trace.foldl after now

variable {now : Interfaces} {handle other : DeviceHandle} {iface i : UInt8}

theorem afterAll_append (first second : UsbTrace) :
    now.afterAll (first ++ second) = (now.afterAll first).afterAll second :=
  List.foldl_append

theorem after_eq_self {event : Event UsbAnswer} (quiet : Usb.changes event.op = false) :
    now.after event = now := by
  rcases event with ⟨op, answer⟩
  cases op <;> first | rfl | cases quiet

theorem afterAll_quiet {queries : UsbTrace} (quiet : Usb.Quiet queries) :
    now.afterAll queries = now := by
  induction queries with
  | nil => rfl
  | cons event rest ih =>
      obtain ⟨first, later⟩ := List.forall_mem_cons.mp quiet
      change (now.after event).afterAll rest = now
      rw [after_eq_self first, ih later]

theorem claims_detached (answer : Except UsbError Unit) :
    (now.after (Usb.detached handle iface answer)).claims = now.claims := by
  cases answer <;> rfl

theorem claims_claimed :
    (now.after (Usb.claimed handle iface (.ok ()))).claims other i = true ↔
      now.claims other i = true ∨ other = handle ∧ i = iface := by
  simp [after, Usb.claimed]

theorem claims_closed :
    (now.after (Usb.closed handle)).claims other i = true ↔
      now.claims other i = true ∧ other ≠ handle := by
  simp [after, Usb.closed]

/-- A claim is kept by every call but its release and the closing of its handle. -/
theorem claims_after {event : Event UsbAnswer} (claimed : now.claims handle iface = true)
    (kept : event ≠ Usb.released handle iface (.ok ()) ∧ event ≠ Usb.closed handle) :
    (now.after event).claims handle iface = true := by
  rcases event with ⟨call, answer⟩
  cases call with
  | detachKernelDriver other i =>
      have same : (now.after ⟨.detachKernelDriver other i, answer⟩).claims = now.claims :=
        claims_detached answer
      rwa [same]
  | claimInterface other i =>
      cases answer with
      | error e => exact claimed
      | ok _ => exact claims_claimed.mpr (.inl claimed)
  | releaseInterface other i =>
      cases answer with
      | error e => exact claimed
      | ok _ =>
          have different : ¬ (handle = other ∧ iface = i) := by
            rintro ⟨rfl, rfl⟩
            exact kept.1 rfl
          simp only [after, claimed, different, decide_false, Bool.not_false, Bool.and_true]
  | close other =>
      refine claims_closed.mpr ⟨claimed, ?_⟩
      rintro rfl
      exact kept.2 rfl
  | _ => exact claimed

/-- A driver stays bound unless the call detaches it. -/
theorem bound_after {event : Event UsbAnswer} {dev : UsbDevice} :
    (now.after event).bound dev i = true ↔
      now.bound dev i = true ∧
        ∀ handle : DeviceHandle, handle.device = dev → event ≠ Usb.detached handle i (.ok ()) := by
  rcases event with ⟨op, answer⟩
  by_cases detach : ∃ handle iface, op = .detachKernelDriver handle iface
  · obtain ⟨handle, iface, rfl⟩ := detach
    cases answer with
    | error e =>
        refine (and_iff_left fun other _ same => ?_).symm
        cases same
    | ok _ =>
        change (now.bound dev i && !decide (dev = handle.device ∧ i = iface)) = true ↔ _
        rw [Bool.and_eq_true, Bool.not_eq_true', decide_eq_false_iff_not]
        refine and_congr_right fun _ => ⟨?_, ?_⟩
        · rintro elsewhere other rfl same
          cases same
          exact elsewhere ⟨rfl, rfl⟩
        · rintro never ⟨rfl, rfl⟩
          exact never handle rfl rfl
  · have same : (now.after ⟨op, answer⟩).bound = now.bound := by
      cases op with
      | detachKernelDriver handle iface => exact absurd ⟨handle, iface, rfl⟩ detach
      | claimInterface => cases answer <;> rfl
      | releaseInterface => cases answer <;> rfl
      | _ => rfl
    rw [same]
    refine (and_iff_left fun other _ same => ?_).symm
    cases same
    exact detach ⟨other, i, rfl⟩

theorem bound_afterAll {trace : UsbTrace} {dev : UsbDevice} :
    (now.afterAll trace).bound dev i = true ↔
      now.bound dev i = true ∧
        ∀ handle : DeviceHandle, handle.device = dev → Usb.detached handle i (.ok ()) ∉ trace := by
  induction trace generalizing now with
  | nil => simp [afterAll]
  | cons event rest ih =>
      change ((now.after event).afterAll rest).bound dev i = true ↔ _
      rw [ih, bound_after, and_assoc]
      refine and_congr_right fun _ => ?_
      simp only [List.mem_cons, not_or, imp_and, forall_and, ne_comm, ne_eq]

/-! ### What an opening and a drop change -/

theorem afterAll_opened {trace : UsbTrace} :
    now.afterAll (Usb.opened handle :: trace) = now.afterAll trace := rfl

theorem claims_prepares {preparing : UsbTrace} (prepares : Prepares handle preparing) :
    (now.afterAll preparing).claims = now.claims := by
  cases prepares with
  | left answer idle => rfl
  | detached => exact claims_detached (.ok ())

/-- Closing a handle without claims changes no claim. -/
theorem claims_closed_fresh (fresh : ∀ i, now.claims handle i = false) :
    (now.after (Usb.closed handle)).claims = now.claims := by
  funext other i
  rw [Bool.eq_iff_iff, claims_closed]
  apply and_iff_left_of_imp
  rintro claimed rfl
  rw [fresh i] at claimed
  cases claimed

/-- The handles that a run opens before it changes anything claim nothing. -/
def OpensFresh (now : Interfaces) (trace : UsbTrace) : Prop :=
  ∀ queries handle rest, trace = queries ++ Usb.opened handle :: rest → Usb.Quiet queries →
    ∀ i, now.claims handle i = false

/-- A failed opening changes no claim. -/
theorem claims_failed {trace : UsbTrace} {error : Error}
    (run : OpenRun trace (.ok (.error error))) (fresh : now.OpensFresh trace) :
    (now.afterAll trace).claims = now.claims := by
  cases run with
  | unopened quiet error => rw [afterAll_quiet quiet]
  | undetached quiet handle e =>
      rw [afterAll_append, afterAll_quiet quiet]
      apply claims_closed_fresh
      exact fresh _ _ _ rfl quiet
  | unclaimed quiet handle prepares e =>
      have same := @claims_prepares now handle _ prepares
      rw [afterAll_append, afterAll_quiet quiet, afterAll_opened, afterAll_append]
      refine Eq.trans (claims_closed_fresh fun i => ?_) same
      refine (congrFun (congrFun same handle) i).trans ?_
      exact fresh _ _ _ rfl quiet i

/-- An opening that returns a sensor adds the claim of interface 0 through its handle. -/
theorem claims_succeeded {trace : UsbTrace} {me : Opened} (run : OpenRun trace (.ok (.ok me))) :
    (now.afterAll trace).claims other i = true ↔
      now.claims other i = true ∨ other = me.handle ∧ i = 0 := by
  cases run with
  | claimed quiet handle prepares pid =>
      rw [afterAll_append, afterAll_quiet quiet, afterAll_opened, afterAll_append]
      apply claims_claimed.trans
      rw [claims_prepares prepares]

/-- A drop takes the claims of its handle, whatever the release was answered. -/
theorem claims_dropped {answer : Except UsbError Unit} :
    (now.afterAll [Usb.released handle iface answer, Usb.closed handle]).claims other i = true ↔
      now.claims other i = true ∧ other ≠ handle := by
  refine claims_closed.trans ?_
  refine and_congr_left fun different => ?_
  cases answer with
  | error e => rfl
  | ok _ => simp [after, Usb.released, different]

end Interfaces

/-! ### Histories -/

/-- A libusb, known by what its calls do: with automatic detaching off, which is its default, no
call binds a driver. A handle just opened claims nothing. -/
structure Libusb where
  State : Type
  view : State → Interfaces
  env : Environment UsbAnswer State
  known : ∀ {before op answer after}, env before op answer after →
    view after = (view before).after ⟨op, answer⟩
  fresh : ∀ {before handle after},
    env before (Usb.opened handle).op (Usb.opened handle).answer after →
      ∀ iface, (view before).claims handle iface = false

namespace Libusb

variable {usb : Libusb} {before after : usb.State} {trace : UsbTrace}

theorem view_eq (path : Path usb.env before trace after) :
    usb.view after = (usb.view before).afterAll trace :=
  path.view_eq fun step => usb.known step

theorem opensFresh (path : Path usb.env before trace after) :
    (usb.view before).OpensFresh trace := by
  rintro queries handle rest rfl quiet
  obtain ⟨middle, ask, path⟩ := Path.append_iff.mp path
  obtain ⟨next, opening, _⟩ := Path.cons_iff.mp path
  have unchanged := (view_eq ask).trans (Interfaces.afterAll_quiet quiet)
  rw [← unchanged]
  exact usb.fresh opening

end Libusb

/-- The openings and drops that follow a state in which some sensors are open, with all calls
made, the state they lead to and the sensors then open. -/
inductive History (usb : Libusb) (start : usb.State) (kept : List Opened) :
    UsbTrace → usb.State → List Opened → Prop where
  | start : History usb start kept [] start kept
  | failed {trace opening : UsbTrace} {before after : usb.State} {live : List Opened}
      {error : Error} (earlier : History usb start kept trace before live)
      (attempt : Executes usb.env openElanMoc2.run before opening (.ok (.error error)) after) :
      History usb start kept (trace ++ opening) after live
  | opened {trace opening : UsbTrace} {before after : usb.State} {live : List Opened}
      {me : Opened} (earlier : History usb start kept trace before live)
      (attempt : Executes usb.env openElanMoc2.run before opening (.ok (.ok me)) after) :
      History usb start kept (trace ++ opening) after (me :: live)
  | dropped {trace dropping : UsbTrace} {before after : usb.State} {live rest : List Opened}
      {me : Opened} (earlier : History usb start kept trace before live)
      (own : live.Perm (me :: rest))
      (drop : Executes usb.env me.drop.run before dropping (.ok (.ok ())) after) :
      History usb start kept (trace ++ dropping) after rest

/-- The claims are those in `base` and interface 0 of each open sensor. -/
structure Held (base : DeviceHandle → UInt8 → Prop) (now : Interfaces) (live : List Opened) :
    Prop where
  claims : ∀ handle iface, now.claims handle iface = true ↔
    base handle iface ∨ iface = 0 ∧ handle ∈ live.map Opened.handle
  apart : ∀ me ∈ live, ∀ iface, ¬ base me.handle iface
  distinct : (live.map Opened.handle).Nodup
  usable : ∀ me ∈ live, me.claimed = true ∧ me.interface = 0

namespace Held

variable {base : DeviceHandle → UInt8 → Prop} {now next : Interfaces} {live rest : List Opened}
  {me : Opened}

theorem start (now : Interfaces) :
    Held (fun handle iface => now.claims handle iface = true) now [] where
  claims handle iface := by simp
  apart := List.forall_mem_nil _
  distinct := List.nodup_nil
  usable := List.forall_mem_nil _

/-- One open sensor is set apart from the others. -/
theorem lend (held : Held base now (me :: rest)) :
    Held (fun handle iface => base handle iface ∨ iface = 0 ∧ handle = me.handle) now rest where
  claims handle iface := by
    rw [held.claims, List.map_cons, List.mem_cons]
    tauto
  apart other member iface := by
    have alone := (List.nodup_cons.mp held.distinct).1
    rintro (taken | ⟨_, same⟩)
    · exact held.apart other (List.mem_cons_of_mem _ member) iface taken
    · apply alone
      rw [← same]
      exact List.mem_map_of_mem member
  distinct := (List.nodup_cons.mp held.distinct).2
  usable := (List.forall_mem_cons.mp held.usable).2

theorem perm (held : Held base now live) (order : live.Perm rest) : Held base now rest where
  claims handle iface := by
    rw [held.claims, (order.map Opened.handle).mem_iff]
  apart me member := held.apart me (order.mem_iff.mpr member)
  distinct := (order.map Opened.handle).nodup_iff.mp held.distinct
  usable me member := held.usable me (order.mem_iff.mpr member)

theorem opened (held : Held base now live) (claimed : me.claimed = true)
    (interface : me.interface = 0) (fresh : ∀ iface, now.claims me.handle iface = false)
    (added : ∀ handle iface, next.claims handle iface = true ↔
      now.claims handle iface = true ∨ handle = me.handle ∧ iface = 0) :
    Held base next (me :: live) where
  claims handle iface := by
    rw [added, held.claims, List.map_cons, List.mem_cons]
    tauto
  apart := by
    refine List.forall_mem_cons.mpr ⟨fun iface taken => ?_, held.apart⟩
    have claimed := (held.claims me.handle iface).mpr (.inl taken)
    rw [fresh iface] at claimed
    cases claimed
  distinct := by
    rw [List.map_cons, List.nodup_cons]
    refine ⟨fun member => ?_, held.distinct⟩
    have claimed := (held.claims me.handle 0).mpr (.inr ⟨rfl, member⟩)
    rw [fresh 0] at claimed
    cases claimed
  usable := List.forall_mem_cons.mpr ⟨⟨claimed, interface⟩, held.usable⟩

theorem dropped (held : Held base now (me :: rest))
    (removed : ∀ handle iface, next.claims handle iface = true ↔
      now.claims handle iface = true ∧ handle ≠ me.handle) :
    Held base next rest where
  claims handle iface := by
    have apart := held.apart me List.mem_cons_self iface
    have alone := (List.nodup_cons.mp held.distinct).1
    rw [removed, held.claims, List.map_cons, List.mem_cons]
    constructor
    · rintro ⟨taken | ⟨zero, same | member⟩, different⟩
      · exact .inl taken
      · exact absurd same different
      · exact .inr ⟨zero, member⟩
    · rintro (taken | ⟨zero, member⟩)
      · refine ⟨.inl taken, ?_⟩
        rintro rfl
        exact apart taken
      · refine ⟨.inr ⟨zero, .inr member⟩, ?_⟩
        rintro rfl
        exact alone member
  apart := (List.forall_mem_cons.mp held.apart).2
  distinct := (List.nodup_cons.mp held.distinct).2
  usable := (List.forall_mem_cons.mp held.usable).2

end Held

section History

variable {usb : Libusb} {start before after : usb.State} {kept live : List Opened}
  {trace opening dropping : UsbTrace} {me : Opened}
  {base : DeviceHandle → UInt8 → Prop}

theorem Held.of_failed {error : Error} (held : Held base (usb.view before) live)
    (attempt : Executes usb.env openElanMoc2.run before opening (.ok (.error error)) after) :
    Held base (usb.view after) live := by
  obtain ⟨run, path⟩ := attempt
  have same := Interfaces.claims_failed (openRun_of_runs run) (Libusb.opensFresh path)
  rw [← Libusb.view_eq path] at same
  exact { held with claims := by simpa only [same] using held.claims }

theorem Held.of_opened (held : Held base (usb.view before) live)
    (attempt : Executes usb.env openElanMoc2.run before opening (.ok (.ok me)) after) :
    Held base (usb.view after) (me :: live) := by
  obtain ⟨run, path⟩ := attempt
  have opened := openRun_of_runs run
  have added := @Interfaces.claims_succeeded (usb.view before)
  rw [Libusb.view_eq path]
  have fresh := Libusb.opensFresh path
  cases opened with
  | claimed quiet handle prepares pid =>
      exact held.opened rfl rfl (fresh _ _ _ rfl quiet)
        fun handle iface => added (.claimed quiet _ prepares pid)

theorem Held.of_dropped (held : Held base (usb.view before) (me :: live))
    (drop : Executes usb.env me.drop.run before dropping (.ok (.ok ())) after) :
    Held base (usb.view after) live := by
  obtain ⟨run, path⟩ := drop
  obtain ⟨claimed, interface⟩ := held.usable me List.mem_cons_self
  obtain ⟨answer, rfl, _⟩ := (runs_drop_iff claimed).mp run
  rw [Libusb.view_eq path]
  exact held.dropped fun handle iface => Interfaces.claims_dropped

/-- Through a history the claims stay those of `base` and of the open sensors. -/
theorem History.held (first : Held base (usb.view start) kept)
    (history : History usb start kept trace after live) : Held base (usb.view after) live := by
  induction history with
  | start => exact first
  | failed earlier attempt ih => exact ih.of_failed attempt
  | opened earlier attempt ih => exact ih.of_opened attempt
  | dropped earlier own drop ih => exact (ih.perm own).of_dropped drop

theorem History.path (history : History usb start kept trace after live) :
    Path usb.env start trace after := by
  induction history with
  | start => exact .nil start
  | failed earlier attempt ih => exact Path.append_iff.mpr ⟨_, ih, attempt.2⟩
  | opened earlier attempt ih => exact Path.append_iff.mpr ⟨_, ih, attempt.2⟩
  | dropped earlier own drop ih => exact Path.append_iff.mpr ⟨_, ih, drop.2⟩

end History

end Elan0c00
