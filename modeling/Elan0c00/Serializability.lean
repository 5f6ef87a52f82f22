import Elan0c00.Brackets
import Elan0c00.Commutation
import Elan0c00.Isolation

/-! # One process after another

However `elanctl` and the probe are interleaved, and whenever some of them are killed, the machine
ends as it does when the same processes run one after another, each doing and seeing exactly what
it did and saw, and none after one that it ended before (`Running.serializable`). The order is that
in which they last opened or claimed: `Arrangement` keeps the processes arranged while they run,
where what a process still has is out of reach of those that come after it.
-/

namespace Elan0c00

open Interaction Bytes

/-! ### What a process has done so far -/

/-- A step that takes neither a handle nor an interface. -/
structure Phase.Light (phase : Phase) (act : Act) (after : Phase) : Prop where
  own : ∀ handle, act.handle? = some handle → phase.handle? = some handle
  opened : ∀ handle, after.handle? = some handle → phase.handle? = some handle
  holding : ∀ handle, after = .holding handle → phase = .holding handle
  before : ∀ vetted, after = .before vetted → ∃ earlier, phase = .before earlier
  idle : after.stage = .idle → ¬ act.Frees
  claims : ¬ act.Grants

namespace Phase

variable {policy : Policy} {phase after : Phase} {act : Act}

/-- A step takes nothing, or it opens a handle, or it claims through the one it has. -/
theorem Step.light_or (step : Step policy phase act after) :
    phase.Light act after ∨
      (∃ vetted dev handle, phase = .before vetted ∧ act = .opens dev (some handle) ∧
        after = .opened handle) ∨
      ∃ handle, phase = .opened handle ∧ act = .claims handle 0 true ∧ after = .holding handle := by
  cases step with
  | opens known handle => exact .inr (.inl ⟨_, _, handle, rfl, rfl, rfl⟩)
  | claims handle => exact .inr (.inr ⟨handle, rfl, rfl, rfl⟩)
  | closes own =>
      refine .inl ⟨?_, ?_, ?_, ?_, ?_, ?_⟩
      · rintro _ ⟨⟩
        exact own
      · rintro _ ⟨⟩
      · rintro _ ⟨⟩
      · rintro _ ⟨⟩
      · rintro ⟨⟩
      · rintro ⟨⟩
  | neutral =>
      exact .inl ⟨by rintro _ ⟨⟩, fun _ => id, fun _ => id, fun vetted same => ⟨vetted, same⟩,
        fun _ => id, id⟩
  | _ => exact .inl (by constructor <;> simp [Act.handle?, handle?, stage, Act.Frees, Act.Grants])

end Phase

/-- What the events of a process have been about, by how far it has come. -/
structure Tidy (phase : Phase) (events : SysTrace) : Prop where
  before : ∀ vetted, phase = .before vetted → ∀ event ∈ events, (act event).handle? = none
  own : ∀ handle, phase.handle? = some handle →
    ∀ event ∈ events, ∀ other, (act event).handle? = some other → other = handle
  idle : phase.stage = .idle →
    ∀ event ∈ events, transferTo? event = none ∧ ¬ (act event).Frees

namespace Tidy

variable {policy : Policy} {phase after : Phase} {events : SysTrace} {event : Event SysAnswer}

theorem start : Tidy Phase.start [] :=
  ⟨fun _ _ => List.forall_mem_nil _, fun _ _ => List.forall_mem_nil _,
    fun _ => List.forall_mem_nil _⟩

/-- Who holds no device transfers nothing. -/
theorem transferTo?_eq_none (step : phase.Step policy (act event) after)
    (idle : phase.stage = .idle) : transferTo? event = none := by
  cases transfer : transferTo? event with
  | none => rfl
  | some dev =>
      obtain ⟨handle, through, -⟩ := through_of_transferTo transfer
      rw [holding_of_through (lifecycle_iff.mpr step) through] at idle
      cases idle

theorem snoc (tidy : Tidy phase events) (step : phase.Step policy (act event) after) :
    Tidy after (events ++ [event]) := by
  have earlier : after.stage = .idle → phase.stage = .idle := fun idle => by
    by_contra begun
    exact step.follows.begun begun idle
  have all : ∀ {property : Event SysAnswer → Prop}, (∀ other ∈ events, property other) →
      property event → ∀ other ∈ events ++ [event], property other :=
    fun old new => List.forall_mem_append.mpr ⟨old, List.forall_mem_singleton.mpr new⟩
  rcases step.light_or with light | ⟨vetted, dev, handle, rfl, acts, rfl⟩ |
    ⟨handle, rfl, acts, rfl⟩
  · refine ⟨fun vetted before => ?_, fun handle opened => ?_, fun idle => ?_⟩
    · obtain ⟨known, rfl⟩ := light.before vetted before
      refine all (tidy.before known rfl) ?_
      cases about : (act event).handle? with
      | none => rfl
      | some handle => cases light.own handle about
    · refine all (tidy.own handle (light.opened handle opened)) fun other about => ?_
      exact Option.some.inj ((light.own other about).symm.trans (light.opened handle opened))
    · exact all (tidy.idle (earlier idle))
        ⟨transferTo?_eq_none step (earlier idle), light.idle idle⟩
  · refine ⟨?_, fun other opened => ?_, fun _ => ?_⟩
    · rintro _ ⟨⟩
    · cases opened
      refine all (fun event member other about => ?_) fun other about => ?_
      · rw [tidy.before vetted rfl event member] at about
        cases about
      · rw [acts] at about
        exact (Option.some.inj about).symm
    · refine all (tidy.idle rfl) ⟨transferTo?_eq_none step rfl, ?_⟩
      rw [acts]
      exact id
  · refine ⟨?_, fun other opened => ?_, ?_⟩
    · rintro _ ⟨⟩
    · cases opened
      refine all (tidy.own handle rfl) fun other about => ?_
      rw [acts] at about
      exact (Option.some.inj about).symm
    · rintro ⟨⟩

end Tidy

/-! ### The order of the processes -/

section Arrangement

variable {ι : Type} [DecidableEq ι] {pids : UsbDevice → UInt16} {conduct : UsbDevice → Conduct}
  {found now next : World pids} {trace : List (ι × Event SysAnswer)} {states : ι → Phase}
  {order first last : List ι} {i j : ι} {event : Event SysAnswer} {after : Phase} {policy : Policy}

/-- What one process has is nothing to what another has done. -/
structure Clear (phase : Phase) (events : SysTrace) : Prop where
  handle : ∀ handle, phase.handle? = some handle →
    ∀ event ∈ events, (act event).handle? ≠ some handle
  device : ∀ handle, phase = .holding handle →
    ∀ event ∈ events, transferTo? event ≠ some handle.device

/-- The processes in an order in which they lead to the same end, and in which none has done
anything with what an earlier one still has. -/
structure Arrangement (conduct : UsbDevice → Conduct) (found now : World pids)
    (trace : List (ι × Event SysAnswer)) (states : ι → Phase) (order : List ι) : Prop where
  arranged : Arranged (World.env pids conduct) found trace order now
  custody : Custody found now states
  tidy : ∀ i, Tidy (states i) (own i trace)
  alone : ∀ i j handle handle', states i = .holding handle → states j = .holding handle' →
    handle.device = handle'.device → i = j
  clear : order.Pairwise fun i j => Clear (states i) (own j trace)

namespace Arrangement

theorem start (found : World pids) :
    Arrangement conduct found found ([] : List (ι × Event SysAnswer)) (fun _ => Phase.start) [] where
  arranged := .start _ found
  custody := .start found
  tidy _ := .start
  alone _ _ _ _ holding := by cases holding
  clear := .nil

/-- A process that has done nothing comes last. -/
theorem joins (arrangement : Arrangement conduct found now trace states order) (absent : i ∉ order) :
    Arrangement conduct found now trace states (order ++ [i]) := by
  refine { arrangement with arranged := arrangement.arranged.joins absent, clear := ?_ }
  refine List.pairwise_append.mpr ⟨arrangement.clear, List.pairwise_singleton _ i, ?_⟩
  rintro j - _ member
  obtain rfl := List.mem_singleton.mp member
  rw [arrangement.arranged.absent _ absent]
  exact ⟨fun _ _ => List.forall_mem_nil _, fun _ _ => List.forall_mem_nil _⟩

/-- A step leaves each device to one process. -/
theorem alone_step (arrangement : Arrangement conduct found now trace states order)
    (step : (states i).Step policy (act event) after)
    (moved : World.env pids conduct now event.op event.answer next) :
    ∀ k j handle handle', Function.update states i after k = .holding handle →
      Function.update states i after j = .holding handle' → handle.device = handle'.device →
        k = j := by
  have apart : ∀ {j handle handle'}, j ≠ i → after = .holding handle →
      states j = .holding handle' → handle.device ≠ handle'.device := by
    intro j handle handle' other holds theirs same
    by_cases held : (states i).stage = .holding handle.device
    · obtain ⟨mine, holding, device⟩ := Phase.holding_of_stage held
      exact other (arrangement.alone j i handle' mine theirs holding (same.symm.trans device.symm))
    · refine arrangement.custody.granted step (World.effect_of_step moved) ?_ held j ?_
      · rw [holds]
        rfl
      · rw [theirs, same]
        rfl
  intro k j handle handle' holds holds' same
  by_cases here : k = i
  · by_cases there : j = i
    · rw [here, there]
    · rw [here, Function.update_self] at holds
      rw [Function.update_of_ne there] at holds'
      exact absurd same (apart there holds holds')
  · rw [Function.update_of_ne here] at holds
    by_cases there : j = i
    · rw [there, Function.update_self] at holds'
      exact absurd same.symm (apart here holds' holds)
    · rw [Function.update_of_ne there] at holds'
      exact arrangement.alone k j handle handle' holds holds' same

theorem tidy_step (arrangement : Arrangement conduct found now trace states order)
    (step : (states i).Step policy (act event) after) (j : ι) :
    Tidy (Function.update states i after j) (own j (trace ++ [(i, event)])) := by
  by_cases same : j = i
  · rw [same, Function.update_self, own_snoc_self]
    exact (arrangement.tidy i).snoc step
  · rw [Function.update_of_ne same, own_snoc_other (Ne.symm same)]
    exact arrangement.tidy j

/-- A step that takes nothing leaves the order as it is. -/
theorem light_step (arrangement : Arrangement conduct found now trace states (first ++ i :: last))
    (step : (states i).Step policy (act event) after)
    (moved : World.env pids conduct now event.op event.answer next)
    (light : (states i).Light (act event) after) :
    Arrangement conduct found next (trace ++ [(i, event)]) (Function.update states i after)
      (first ++ i :: last) where
  arranged := by
    refine arrangement.arranged.stays moved fun j member other inside => World.swaps ?_
    obtain ⟨-, tail, -⟩ := List.pairwise_append.mp arrangement.clear
    have clear := (List.pairwise_cons.mp tail).1 j member
    refine ⟨fun handle theirs mine => ?_, fun dev theirs mine => ?_, fun _ => light.claims⟩
    · exact clear.handle handle (light.own handle mine) other inside theirs
    · obtain ⟨handle, through, rfl⟩ := through_of_transferTo mine
      exact clear.device handle (holding_of_through (lifecycle_iff.mpr step) through) other inside
        theirs
  custody := arrangement.custody.step step (World.effect_of_step moved)
  tidy := arrangement.tidy_step step
  alone := arrangement.alone_step step moved
  clear := by
    refine (arrangement.clear.and arrangement.arranged.distinct).imp fun {k j} both => ?_
    obtain ⟨clear, different⟩ := both
    by_cases here : k = i
    · rw [here] at different clear
      rw [here, Function.update_self, own_snoc_other different]
      exact ⟨fun handle opened => clear.handle handle (light.opened handle opened),
        fun handle holds => clear.device handle (light.holding handle holds)⟩
    · rw [Function.update_of_ne here]
      by_cases there : j = i
      · rw [there] at clear
        rw [there, own_snoc_self]
        refine ⟨fun handle theirs => List.forall_mem_append.mpr ⟨clear.handle handle theirs, ?_⟩,
          fun handle holds => List.forall_mem_append.mpr ⟨clear.device handle holds, ?_⟩⟩
        · refine List.forall_mem_singleton.mpr fun mine => here ?_
          exact arrangement.custody.apart k i handle theirs (light.own handle mine)
        · refine List.forall_mem_singleton.mpr fun transfer => here ?_
          obtain ⟨mine, through, device⟩ := through_of_transferTo transfer
          have holding := holding_of_through (lifecycle_iff.mpr step) through
          exact arrangement.alone k i handle mine holds holding device.symm
      · rw [own_snoc_other (Ne.symm there)]
        exact clear

/-- A process that takes a handle or an interface comes last from then on. -/
theorem taking_step (arrangement : Arrangement conduct found now trace states (first ++ i :: last))
    (step : (states i).Step policy (act event) after)
    (moved : World.env pids conduct now event.op event.answer next)
    (idle : (states i).stage = .idle)
    (mine : ∀ one ∈ own i trace, ∀ handle, (act one).handle? = some handle →
      (states i).handle? = some handle)
    (fresh : ∀ j ≠ i, ∀ handle, (states j).handle? = some handle →
      (act event).handle? ≠ some handle) :
    Arrangement conduct found next (trace ++ [(i, event)]) (Function.update states i after)
      (first ++ last ++ [i]) := by
  have distinct := List.nodup_middle.mp arrangement.arranged.distinct
  have others : ∀ j ∈ first ++ last, j ≠ i := by
    rintro j member rfl
    exact (List.nodup_cons.mp distinct).1 member
  refine ⟨?_, arrangement.custody.step step (World.effect_of_step moved),
    arrangement.tidy_step step, arrangement.alone_step step moved, ?_⟩
  · refine arrangement.arranged.moves moved fun one inside j member other done => World.swaps ?_
    obtain ⟨-, tail, -⟩ := List.pairwise_append.mp arrangement.clear
    have clear := (List.pairwise_cons.mp tail).1 j member
    obtain ⟨silent, kept⟩ := (arrangement.tidy i).idle idle one inside
    refine ⟨fun handle about => clear.handle handle (mine one inside handle about) other done,
      fun dev transfer => ?_, fun frees => absurd frees kept⟩
    rw [silent] at transfer
    cases transfer
  · refine List.pairwise_append.mpr ⟨?_, List.pairwise_singleton _ i, fun j member k last => ?_⟩
    · have rest : (first ++ last).Pairwise fun i j => Clear (states i) (own j trace) :=
        arrangement.clear.sublist (List.Sublist.append_left (List.sublist_cons_self i last) first)
      refine rest.imp_of_mem fun {k j} member member' clear => ?_
      rw [Function.update_of_ne (others k member), own_snoc_other (Ne.symm (others j member'))]
      exact clear
    · obtain rfl := List.mem_singleton.mp last
      have different := others j member
      rw [Function.update_of_ne different, own_snoc_self]
      refine ⟨fun handle theirs => List.forall_mem_append.mpr ⟨fun one inside about => ?_,
          List.forall_mem_singleton.mpr (fresh j different handle theirs)⟩,
        fun handle holds => List.forall_mem_append.mpr ⟨fun one inside transfer => ?_,
          List.forall_mem_singleton.mpr fun transfer => ?_⟩⟩
      · exact different (arrangement.custody.apart j _ handle theirs (mine one inside handle about))
      · rw [((arrangement.tidy _).idle idle one inside).1] at transfer
        cases transfer
      · rw [Tidy.transferTo?_eq_none step idle] at transfer
        cases transfer

/-- **The processes stay arranged**, whatever is done next: who does it stays where it is, or comes
last. -/
theorem exists_step (arrangement : Arrangement conduct found now trace states (first ++ i :: last))
    (step : (states i).Step policy (act event) after)
    (moved : World.env pids conduct now event.op event.answer next) :
    ∃ order', (order' = first ++ i :: last ∨ order' = first ++ last ++ [i]) ∧
      Arrangement conduct found next (trace ++ [(i, event)]) (Function.update states i after)
        order' := by
  rcases step.light_or with light | ⟨vetted, dev, handle, before, acts, rfl⟩ |
    ⟨handle, opened, acts, rfl⟩
  · exact ⟨_, .inl rfl, arrangement.light_step step moved light⟩
  · refine ⟨_, .inr rfl, arrangement.taking_step step moved (by rw [before]; rfl) ?_ ?_⟩
    · intro one inside handle about
      rw [(arrangement.tidy i).before vetted before one inside] at about
      cases about
    · intro j different other theirs mine
      have effect : World.Effect now next (act event) := World.effect_of_step moved
      rw [acts] at effect mine
      obtain rfl := Option.some.inj mine
      have used := arrangement.custody.live j handle theirs
      rw [effect.1] at used
      cases used
  · refine ⟨_, .inr rfl, arrangement.taking_step step moved (by rw [opened]; rfl) ?_ ?_⟩
    · intro one inside other about
      have own : (states i).handle? = some handle := by rw [opened]; rfl
      rw [(arrangement.tidy i).own handle own one inside other about]
      exact own
    · intro j different other theirs mine
      rw [acts] at mine
      obtain rfl := Option.some.inj mine
      exact different (arrangement.custody.apart j i handle theirs (by rw [opened]; rfl))

/-- The order stays one in time. -/
theorem exists_timely (arrangement : Arrangement conduct found now trace states order)
    (timely : Timely trace order) (step : (states i).Step policy (act event) after)
    (moved : World.env pids conduct now event.op event.answer next) :
    ∃ order', Timely (trace ++ [(i, event)]) order' ∧
      Arrangement conduct found next (trace ++ [(i, event)]) (Function.update states i after)
        order' := by
  by_cases member : i ∈ order
  · obtain ⟨first, last, rfl⟩ := List.append_of_mem member
    obtain ⟨order', placed, arranged⟩ := arrangement.exists_step step moved
    refine ⟨order', ?_, arranged⟩
    rcases placed with rfl | rfl
    · exact timely.stays
    · exact timely.moves (List.Sublist.append_left (List.sublist_cons_self i last) first)
  · obtain ⟨order', placed, arranged⟩ := (arrangement.joins member).exists_step step moved
    refine ⟨order', ?_, arranged⟩
    rw [List.append_nil, or_self] at placed
    rw [placed]
    exact timely.moves (List.Sublist.refl order)

end Arrangement

/-- Processes that live on the machine are arranged, in an order in time. -/
theorem Lived.exists_arrangement {policies : ι → Policy}
    (lived : Lived policies conduct found trace states now) :
    ∃ order, Timely trace order ∧ Arrangement conduct found now trace states order := by
  induction lived with
  | start => exact ⟨[], .start, .start found⟩
  | step _ taken moved ih =>
      obtain ⟨order, timely, arrangement⟩ := ih
      exact arrangement.exists_timely timely taken moved

end Arrangement

namespace Running

variable {ι : Type} [DecidableEq ι] {pids : UsbDevice → UInt16} {conduct : UsbDevice → Conduct}
  {processes : ι → Process} {before after : World pids} {trace : List (ι × Event SysAnswer)}

/-- **Strict serializability.** However processes are interleaved and wherever some are killed, there
is an order in which they may run one after another instead: each does what it did and is answered
what it was answered, the machine ends in the same state, and who had ended before another began
does not come after it. -/
theorem serializable (running : Running processes conduct before trace after) :
    ∃ order : List ι, order.Nodup ∧ Timely trace order ∧
      (∀ i, own i (serial order trace) = own i trace) ∧
      Running processes conduct before (serial order trace) after := by
  obtain ⟨states, lived⟩ := Lived.exists_lived
    (fun i => Process.accepted_of_lives (running.lives i)) running.path
  obtain ⟨order, timely, arrangement⟩ := lived.exists_arrangement
  have same := fun i => own_serial arrangement.arranged.distinct (arrangement.arranged.absent i)
  refine ⟨order, arrangement.arranged.distinct, timely, same, fun i => ?_, ?_⟩
  · rw [same]
    exact running.lives i
  · rw [map_serial]
    exact arrangement.arranged.path

/-- The two listings. -/
theorem serializable_listings : ∃ after, Running (fun _ => .elanctl ["elanctl", "info"])
    (fun _ => Sensor.ideal true) TwoListings.found TwoListings.trace after ∧
      ∃ order : List Bool, order.Nodup ∧ Timely TwoListings.trace order ∧
        (∀ i, own i (serial order TwoListings.trace) = own i TwoListings.trace) ∧
        Running (fun _ => .elanctl ["elanctl", "info"]) (fun _ => Sensor.ideal true)
          TwoListings.found (serial order TwoListings.trace) after := by
  obtain ⟨after, running⟩ := TwoListings.exists_running
  exact ⟨after, running, running.serializable⟩

end Running

end Elan0c00
