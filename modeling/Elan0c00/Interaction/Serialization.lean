import Elan0c00.Interaction.Environment
import Elan0c00.Interaction.Interleaving

/-! # Putting an interleaving in order

Where it makes no difference to an environment which of two exchanges comes first (`Swaps`), blocks
of exchanges may change places (`Path.exchange`). An interleaving is `Arranged` in an order of its
processes if it leads the environment where the processes lead it when each one does all it does
before the next one begins. That is kept by an exchange that may come before all those of later
processes (`Arranged.stays`), and by any exchange of a process that may as well come last
(`Arranged.moves`). An order is `Timely` if no process comes after one that it ended before, and
stays so when the process that goes on is left where it is (`Timely.stays`) or comes last
(`Timely.moves`).
-/

namespace Interaction

variable {Op σ ι E : Type} {Ans : Op → Type} {env : Environment Ans σ} {before after now next : σ}

/-- After the first of two exchanges the second is possible only if they are also possible the
other way round, to the same end. -/
def Swaps (env : Environment Ans σ) (first second : Event Ans) : Prop :=
  ∀ ⦃before after : σ⦄, Path env before [first, second] after → Path env before [second, first] after

/-- An exchange comes before a block it swaps with. -/
theorem Path.pass {event : Event Ans} {block : List (Event Ans)}
    (path : Path env before (block ++ [event]) after)
    (swaps : ∀ other ∈ block, Swaps env other event) :
    Path env before (event :: block) after := by
  induction block generalizing before with
  | nil => exact path
  | cons other block ih =>
      obtain ⟨here, later⟩ := List.forall_mem_cons.mp swaps
      obtain ⟨middle, head, tail⟩ := (@Path.append_iff _ _ _ env before after [other] _).mp path
      obtain ⟨last, second, rest⟩ :=
        (@Path.append_iff _ _ _ env middle after [event] _).mp (ih tail later)
      have swapped : Path env before [event, other] last :=
        here (Path.append_iff.mpr ⟨middle, head, second⟩)
      exact (@Path.append_iff _ _ _ env before after [event, other] _).mpr ⟨last, swapped, rest⟩

/-- Blocks that swap change places. -/
theorem Path.exchange {first second : List (Event Ans)}
    (path : Path env before (first ++ second) after)
    (swaps : ∀ one ∈ first, ∀ other ∈ second, Swaps env one other) :
    Path env before (second ++ first) after := by
  induction second generalizing before with
  | nil =>
      rw [List.append_nil] at path
      exact path
  | cons event second ih =>
      rw [List.append_cons] at path
      obtain ⟨middle, head, tail⟩ := Path.append_iff.mp path
      have moved := head.pass fun one member => swaps one member event List.mem_cons_self
      have joined : Path env before (event :: first ++ second) after :=
        Path.append_iff.mpr ⟨middle, moved, tail⟩
      obtain ⟨last, one, rest⟩ := (@Path.append_iff _ _ _ env before after [event] _).mp joined
      have later := ih rest fun one member other inside =>
        swaps one member other (List.mem_cons_of_mem event inside)
      exact (@Path.append_iff _ _ _ env before after [event] _).mpr ⟨last, one, later⟩

variable [DecidableEq ι]

/-- The processes one after another. -/
def serial (order : List ι) (trace : List (ι × E)) : List (ι × E) :=
  order.flatMap fun i => (own i trace).map (Prod.mk i)

section Serial

variable {order : List ι} {trace : List (ι × E)} {i : ι}

theorem map_serial (order : List ι) (trace : List (ι × E)) :
    (serial order trace).map Prod.snd = order.flatMap fun i => own i trace := by
  unfold serial
  rw [List.map_flatMap]
  refine List.flatMap_congr fun i _ => ?_
  rw [List.map_map]
  exact List.map_id _

/-- Each process does what it did. -/
theorem own_serial (distinct : order.Nodup) (absent : i ∉ order → own i trace = []) :
    own i (serial order trace) = own i trace := by
  have block : ∀ order : List ι, i ∉ order → own i (serial order trace) = [] := by
    intro order outside
    induction order with
    | nil => rfl
    | cons j order ih =>
        have other : j ≠ i := fun same => outside (same ▸ List.mem_cons_self)
        rw [serial, List.flatMap_cons, own_append, own_map_mk_other other]
        exact ih fun inside => outside (List.mem_cons_of_mem j inside)
  by_cases member : i ∈ order
  · obtain ⟨first, last, rfl⟩ := List.append_of_mem member
    have alone := (List.nodup_cons.mp (List.nodup_middle.mp distinct)).1
    have before := block first fun inside => alone (List.mem_append_left last inside)
    have after := block last fun inside => alone (List.mem_append_right first inside)
    unfold serial at before after ⊢
    rw [List.flatMap_append, List.flatMap_cons, own_append, own_append, own_map_mk_self, before,
      after, List.append_nil, List.nil_append]
  · rw [absent member]
    exact block order member

end Serial

/-! ### The order in time -/

section Time

variable {trace : List (ι × E)} {order rest : List ι} {i j k : ι} {event : E}

/-- One process ends before another begins. -/
def Precedes (trace : List (ι × E)) (i j : ι) : Prop :=
  ∃ earlier later, trace = earlier ++ later ∧ own j earlier = [] ∧ own i later = []

/-- Of processes that have begun, none comes after one that it ended before. -/
structure Timely (trace : List (ι × E)) (order : List ι) : Prop where
  begun : ∀ i ∈ order, own i trace ≠ []
  inOrder : order.Pairwise fun i j => ¬ Precedes trace j i

/-- Who had ended before a process that has begun had ended before the last exchange too. -/
theorem Precedes.of_snoc (precedes : Precedes (trace ++ [(i, event)]) j k)
    (begun : own k trace ≠ []) : j ≠ i ∧ Precedes trace j k := by
  obtain ⟨earlier, later, same, before, after⟩ := precedes
  rcases later.eq_nil_or_concat with rfl | ⟨later, last, rfl⟩
  · rw [List.append_nil] at same
    rw [← same, own_append] at before
    exact absurd (List.append_eq_nil_iff.mp before).1 begun
  · rw [List.concat_eq_append, ← List.append_assoc] at same
    obtain ⟨rfl, single⟩ := List.append_inj' same rfl
    obtain rfl := List.head_eq_of_cons_eq single
    rw [List.concat_eq_append] at after
    refine ⟨?_, earlier, later, rfl, before, ?_⟩
    · rintro rfl
      rw [own_snoc_self] at after
      exact List.append_ne_nil_of_right_ne_nil _ (List.cons_ne_nil _ _) after
    · rw [own_append] at after
      exact (List.append_eq_nil_iff.mp after).1

namespace Timely

theorem start : Timely ([] : List (ι × E)) [] :=
  ⟨fun _ member => absurd member List.not_mem_nil, .nil⟩

theorem begun_snoc (timely : Timely trace order) (member : j ∈ order) :
    own j (trace ++ [(i, event)]) ≠ [] := by
  rw [own_append]
  exact List.append_ne_nil_of_left_ne_nil (timely.begun j member) _

/-- The order may stay as it is. -/
theorem stays (timely : Timely trace order) : Timely (trace ++ [(i, event)]) order where
  begun _ member := timely.begun_snoc member
  inOrder := timely.inOrder.imp_of_mem fun {j _} member _ notBefore precedes =>
    notBefore (precedes.of_snoc (timely.begun j member)).2

/-- Who goes on may come last. -/
theorem moves (timely : Timely trace order) (sub : rest.Sublist order) :
    Timely (trace ++ [(i, event)]) (rest ++ [i]) where
  begun := by
    refine List.forall_mem_append.mpr ⟨fun j member => timely.begun_snoc (sub.mem member), ?_⟩
    refine List.forall_mem_singleton.mpr ?_
    rw [own_snoc_self]
    exact List.append_ne_nil_of_right_ne_nil _ (List.cons_ne_nil _ _)
  inOrder := by
    refine List.pairwise_append.mpr ⟨timely.stays.inOrder.sublist sub, List.pairwise_singleton _ i,
      fun j member k last precedes => ?_⟩
    obtain rfl := List.mem_singleton.mp last
    exact (precedes.of_snoc (timely.begun j (sub.mem member))).1 rfl

end Timely

end Time

/-- The interleaving leads where the processes lead in that order. -/
structure Arranged (env : Environment Ans σ) (before : σ) (trace : List (ι × Event Ans))
    (order : List ι) (now : σ) : Prop where
  distinct : order.Nodup
  absent : ∀ i, i ∉ order → own i trace = []
  path : Path env before (order.flatMap fun i => own i trace) now

namespace Arranged

variable {trace : List (ι × Event Ans)} {order first last : List ι} {i : ι} {event : Event Ans}

theorem start (env : Environment Ans σ) (before : σ) :
    Arranged env before ([] : List (ι × Event Ans)) [] before :=
  ⟨List.nodup_nil, fun _ _ => rfl, .nil before⟩

/-- A process that has done nothing may be added anywhere. -/
theorem joins (arranged : Arranged env before trace order now) (absent : i ∉ order) :
    Arranged env before trace (order ++ [i]) now := by
  refine ⟨?_, fun j outside => ?_, ?_⟩
  · rw [List.nodup_append_comm]
    exact List.nodup_cons.mpr ⟨absent, arranged.distinct⟩
  · exact arranged.absent j fun member => outside (List.mem_append_left _ member)
  · rw [List.flatMap_append, List.flatMap_singleton, arranged.absent i absent, List.append_nil]
    exact arranged.path

/-- What the other processes did stays as it is. -/
theorem flatMap_own_snoc {others : List ι} (outside : i ∉ others) :
    (others.flatMap fun j => own j (trace ++ [(i, event)])) =
      others.flatMap fun j => own j trace := by
  refine List.flatMap_congr fun j member => own_snoc_other ?_
  rintro rfl
  exact outside member

theorem absent_snoc (arranged : Arranged env before trace order now) {others : List ι}
    (same : ∀ j, j ∈ others ↔ j ∈ order) (member : i ∈ order) (j : ι) (outside : j ∉ others) :
    own j (trace ++ [(i, event)]) = [] := by
  have missing : j ∉ order := fun inside => outside ((same j).mpr inside)
  rw [own_snoc_other]
  · exact arranged.absent j missing
  · rintro rfl
    exact missing member

/-- The exchange comes before all that later processes did. -/
theorem stays (arranged : Arranged env before trace (first ++ i :: last) now)
    (step : env now event.op event.answer next)
    (swaps : ∀ j ∈ last, ∀ other ∈ own j trace, Swaps env other event) :
    Arranged env before (trace ++ [(i, event)]) (first ++ i :: last) next := by
  have alone := (List.nodup_cons.mp (List.nodup_middle.mp arranged.distinct)).1
  have member : i ∈ first ++ i :: last := List.mem_append_right first List.mem_cons_self
  refine ⟨arranged.distinct, arranged.absent_snoc (fun _ => .rfl) member, ?_⟩
  have path := arranged.path
  rw [List.flatMap_append, List.flatMap_cons] at path ⊢
  rw [flatMap_own_snoc fun inside => alone (List.mem_append_left last inside),
    flatMap_own_snoc fun inside => alone (List.mem_append_right first inside), own_snoc_self,
    List.append_assoc, List.singleton_append]
  obtain ⟨begun, head, tail⟩ := Path.append_iff.mp path
  obtain ⟨middle, mine, later⟩ := Path.append_iff.mp tail
  have moved : Path env middle (event :: last.flatMap fun j => own j trace) next := by
    refine Path.pass (Path.append_iff.mpr ⟨now, later, .cons step (.nil next)⟩) fun other inside => ?_
    obtain ⟨j, theirs, done⟩ := List.mem_flatMap.mp inside
    exact swaps j theirs other done
  exact Path.append_iff.mpr ⟨begun, head, Path.append_iff.mpr ⟨middle, mine, moved⟩⟩

/-- All that the process did comes after what later processes did. -/
theorem moves (arranged : Arranged env before trace (first ++ i :: last) now)
    (step : env now event.op event.answer next)
    (swaps : ∀ mine ∈ own i trace, ∀ j ∈ last, ∀ other ∈ own j trace, Swaps env mine other) :
    Arranged env before (trace ++ [(i, event)]) (first ++ last ++ [i]) next := by
  have distinct := List.nodup_middle.mp arranged.distinct
  have alone := (List.nodup_cons.mp distinct).1
  have member : i ∈ first ++ i :: last := List.mem_append_right first List.mem_cons_self
  refine ⟨List.nodup_middle.mpr (by rwa [List.append_nil]), arranged.absent_snoc ?_ member, ?_⟩
  · intro j
    simp only [List.mem_append, List.mem_cons, List.not_mem_nil, false_or, or_comm,
      or_left_comm]
  have path := arranged.path
  rw [List.flatMap_append, List.flatMap_cons] at path
  rw [List.flatMap_append, List.flatMap_append, List.flatMap_singleton,
    flatMap_own_snoc fun inside => alone (List.mem_append_left last inside),
    flatMap_own_snoc fun inside => alone (List.mem_append_right first inside), own_snoc_self]
  obtain ⟨begun, head, tail⟩ := Path.append_iff.mp path
  have moved := tail.exchange fun mine inside other done => by
    obtain ⟨j, theirs, did⟩ := List.mem_flatMap.mp done
    exact swaps mine inside j theirs other did
  obtain ⟨middle, others, later⟩ := Path.append_iff.mp moved
  refine Path.append_iff.mpr ⟨middle, Path.append_iff.mpr ⟨begun, head, others⟩, ?_⟩
  exact Path.append_iff.mpr ⟨now, later, .cons step (.nil next)⟩

end Arranged

end Interaction
