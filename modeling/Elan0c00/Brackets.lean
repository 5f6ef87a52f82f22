import Elan0c00.Lifecycle

/-! # Lives without phases

What the life of a process says of the order of its events (`bracketed_of_watch`): a device is
opened only after its descriptor was read and found supported, transfers go through a handle
between the granted claim of interface 0 and its being given back, and a handle that was opened is
closed.
-/

namespace Elan0c00

open Interaction Bytes

/-- The descriptor of the device has been read and found supported. -/
def Vetted (supports : DeviceDescriptor → Bool) (dev : UsbDevice) (trace : SysTrace) : Prop :=
  ∃ d, supports d = true ∧ ∃ event ∈ trace, Describes dev d event

/-- Through the handle interface 0 has been claimed, and not been given back since. -/
def HeldAfter (handle : DeviceHandle) (trace : SysTrace) : Prop :=
  ∃ before between since : SysTrace,
    trace = before ++ usbWords.event (Usb.opened handle) ::
        (between ++ usbWords.event (Usb.claimed handle 0 (.ok ())) :: since) ∧
      ∀ event ∈ since, event ≠ usbWords.event (Usb.closed handle) ∧
        ∀ answer, event ≠ usbWords.event (Usb.released handle 0 answer)

/-- The order of events in the life of a process that has ended. -/
structure Bracketed (supports : DeviceDescriptor → Bool) (trace : SysTrace) : Prop where
  held : ∀ {first event rest handle}, trace = first ++ event :: rest →
    through? event = some handle → HeldAfter handle first
  vetted : ∀ {first handle rest}, trace = first ++ usbWords.event (Usb.opened handle) :: rest →
    Vetted supports handle.device first
  closed : ∀ {first handle rest}, trace = first ++ usbWords.event (Usb.opened handle) :: rest →
    usbWords.event (Usb.closed handle) ∈ rest

section Watch

variable {policy : Policy} {phase after : Phase} {handle : DeviceHandle} {dev : UsbDevice}
  {vetted : List UsbDevice} {event : Event SysAnswer} {trace first rest : SysTrace}

theorem watch_snoc_iff :
    (lifecycle policy).watch phase (trace ++ [event]) = some after ↔
      ∃ middle, (lifecycle policy).watch phase trace = some middle ∧
        middle.Step policy (act event) after := by
  rw [Monitor.watch_append_iff]
  refine exists_congr fun middle => and_congr_right fun _ => Monitor.watch_cons_iff.trans ?_
  constructor
  · rintro ⟨_, step, same⟩
    cases same
    exact lifecycle_iff.mp step
  · intro step
    exact ⟨after, lifecycle_iff.mpr step, rfl⟩

theorem Vetted.snoc (known : Vetted policy.supports dev trace) (event : Event SysAnswer) :
    Vetted policy.supports dev (trace ++ [event]) := by
  obtain ⟨d, supported, read, member, describes⟩ := known
  exact ⟨d, supported, read, List.mem_append_left _ member, describes⟩

/-- What is vetted has been read. -/
theorem vetted_of_watch
    (accepted : (lifecycle policy).watch Phase.start trace = some (.before vetted)) :
    ∀ dev ∈ vetted, Vetted policy.supports dev trace := by
  induction trace using List.reverseRecOn generalizing vetted with
  | nil =>
      cases accepted
      exact List.forall_mem_nil _
  | append_singleton trace event ih =>
      obtain ⟨middle, earlier, step⟩ := watch_snoc_iff.mp accepted
      generalize meant : act event = done at step
      cases step with
      | neutral => exact fun dev member => (ih earlier dev member).snoc event
      | unopened => exact fun dev member => (ih earlier dev member).snoc event
      | describes vetted dev d =>
          intro other member
          by_cases old : other ∈ vetted
          · exact (ih earlier other old).snoc event
          · by_cases supported : policy.supports d = true
            · rw [if_pos supported] at member
              obtain rfl := (List.mem_cons.mp member).resolve_right old
              exact ⟨d, supported, event, List.mem_append_right _ List.mem_cons_self, of_act meant⟩
            · rw [if_neg supported] at member
              exact absurd member old

/-- An open handle was opened after its device was vetted. -/
theorem opened_of_watch
    (accepted : (lifecycle policy).watch Phase.start trace = some (.opened handle)) :
    ∃ before since, trace = before ++ usbWords.event (Usb.opened handle) :: since ∧
      Vetted policy.supports handle.device before := by
  induction trace using List.reverseRecOn with
  | nil => cases accepted
  | append_singleton trace event ih =>
      obtain ⟨middle, earlier, step⟩ := watch_snoc_iff.mp accepted
      have later : middle = .opened handle → ∃ before since,
          trace ++ [event] = before ++ usbWords.event (Usb.opened handle) :: since ∧
            Vetted policy.supports handle.device before := by
        rintro rfl
        obtain ⟨before, since, rfl, known⟩ := ih earlier
        exact ⟨before, since ++ [event], by rw [List.append_assoc, List.cons_append], known⟩
      generalize meant : act event = done at step
      cases step with
      | opens known =>
          obtain ⟨rfl, rfl⟩ := of_act meant
          exact ⟨trace, [], rfl, vetted_of_watch earlier _ known⟩
      | neutral => exact later rfl
      | asks => exact later rfl
      | detaches => exact later rfl
      | refused => exact later rfl

/-- What is held was claimed through the handle, and has not been given back. -/
theorem heldAfter_of_watch
    (accepted : (lifecycle policy).watch Phase.start trace = some (.holding handle)) :
    HeldAfter handle trace := by
  induction trace using List.reverseRecOn with
  | nil => cases accepted
  | append_singleton trace event ih =>
      obtain ⟨middle, earlier, step⟩ := watch_snoc_iff.mp accepted
      generalize meant : act event = done at step
      have later : middle = .holding handle → done ≠ .closes handle → done ≠ .releases handle 0 →
          HeldAfter handle (trace ++ [event]) := by
        rintro rfl open' kept
        obtain ⟨before, between, since, rfl, none⟩ := ih earlier
        refine ⟨before, between, since ++ [event], by simp, ?_⟩
        intro other member
        rcases List.mem_append.mp member with early | last
        · exact none other early
        · obtain rfl := List.mem_singleton.mp last
          refine ⟨?_, fun answer => ?_⟩
          · rintro rfl
            exact open' meant.symm
          · rintro rfl
            exact kept meant.symm
      cases step with
      | claims =>
          obtain rfl := of_act meant
          obtain ⟨before, between, rfl, -⟩ := opened_of_watch earlier
          exact ⟨before, between, [], by simp, List.forall_mem_nil _⟩
      | neutral => exact later rfl (by rintro ⟨⟩) (by rintro ⟨⟩)
      | controls => exact later rfl (by rintro ⟨⟩) (by rintro ⟨⟩)
      | sends => exact later rfl (by rintro ⟨⟩) (by rintro ⟨⟩)
      | receives => exact later rfl (by rintro ⟨⟩) (by rintro ⟨⟩)

/-- What is open is closed before the end. -/
theorem closed_of_watch (accepted : (lifecycle policy).watch phase rest = some after)
    (own : phase.handle? = some handle) (ended : after.Ended) :
    usbWords.event (Usb.closed handle) ∈ rest := by
  induction rest generalizing phase with
  | nil =>
      cases accepted
      rw [ended] at own
      cases own
  | cons event rest ih =>
      obtain ⟨middle, step, tail⟩ := Monitor.watch_cons_iff.mp accepted
      rw [lifecycle_iff] at step
      have later : middle.handle? = some handle →
          usbWords.event (Usb.closed handle) ∈ event :: rest :=
        fun same => List.mem_cons_of_mem _ (ih tail same)
      generalize meant : act event = done at step
      cases step with
      | closes mine =>
          obtain rfl := Option.some.inj (mine.symm.trans own)
          obtain rfl := of_act meant
          exact List.mem_cons_self
      | describes => cases own
      | unopened => cases own
      | opens => cases own
      | _ => exact later own

/-- **Brackets.** -/
theorem bracketed_of_watch (accepted : (lifecycle policy).watch Phase.start trace = some after)
    (ended : after.Ended) : Bracketed policy.supports trace where
  held := by
    rintro first event rest handle rfl through
    obtain ⟨middle, head, tail⟩ := Monitor.watch_append_iff.mp accepted
    obtain ⟨_, step, -⟩ := Monitor.watch_cons_iff.mp tail
    rw [holding_of_through step through] at head
    exact heldAfter_of_watch head
  vetted := by
    rintro first handle rest rfl
    obtain ⟨middle, head, tail⟩ := Monitor.watch_append_iff.mp accepted
    obtain ⟨_, step, -⟩ := Monitor.watch_cons_iff.mp tail
    cases lifecycle_iff.mp step with
    | opens known => exact vetted_of_watch head _ known
  closed := by
    rintro first handle rest rfl
    obtain ⟨middle, -, tail⟩ := Monitor.watch_append_iff.mp accepted
    obtain ⟨_, step, later⟩ := Monitor.watch_cons_iff.mp tail
    cases lifecycle_iff.mp step with
    | opens => exact closed_of_watch later rfl ended

end Watch

end Elan0c00
