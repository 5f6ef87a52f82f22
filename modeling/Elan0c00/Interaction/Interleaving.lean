import Elan0c00.Interaction.Monitor
import Mathlib.Data.List.Nodup
import Mathlib.Logic.Function.Basic

/-! # Interleaved processes

The events of several processes in the order in which they happened, each with the process it is
of. The monitor of a process lets it hold one resource, once, and use it only while it holds it
(`Discipline`). If a resource is only given to a process while none holds it (`Pool`), then its
uses are those of one process after another, each uninterrupted (`Pool.exists_serial`): whoever is
behind the resource cannot tell the interleaving from the processes run one by one.
-/

namespace Interaction

variable {ι E σ R : Type} [DecidableEq ι]

/-- The events of one process. -/
def own (i : ι) (trace : List (ι × E)) : List E :=
  (trace.filter fun event => event.1 = i).map Prod.snd

section Own

variable {i j : ι} {trace first second : List (ι × E)} {event : E}

theorem own_append : own i (first ++ second) = own i first ++ own i second := by
  simp only [own, List.filter_append, List.map_append]

theorem mem_own_iff : event ∈ own i trace ↔ (i, event) ∈ trace := by
  simp [own]

theorem own_cons_self : own i ((i, event) :: trace) = event :: own i trace := by
  simp [own]

theorem own_cons_other (other : i ≠ j) : own j ((i, event) :: trace) = own j trace := by
  simp [own, other]

theorem own_map_mk_self (events : List E) : own i (events.map (Prod.mk i)) = events := by
  simp [own, List.filter_map, Function.comp_def]

theorem own_map_mk_other (other : i ≠ j) (events : List E) :
    own j (events.map (Prod.mk i)) = [] := by
  simp [own, List.filter_map, Function.comp_def, other]

theorem own_snoc_self : own i (trace ++ [(i, event)]) = own i trace ++ [event] := by
  rw [own_append]
  simp [own]

theorem own_snoc_other (other : i ≠ j) : own j (trace ++ [(i, event)]) = own j trace := by
  rw [own_append]
  simp [own, other]

end Own

/-- Where a process stands with the one resource it may hold. -/
inductive Stage (R : Type) where
  | idle
  | holding (resource : R)
  | done

/-- A resource is held once at most. -/
inductive Stage.Follows : Stage R → Stage R → Prop where
  | stays (stage : Stage R) : Follows stage stage
  | takes (resource : R) : Follows .idle (.holding resource)
  | gives (resource : R) : Follows (.holding resource) .done
  | passes : Follows .idle .done

namespace Stage.Follows

variable {before after : Stage R} {resource : R}

theorem eq_or_idle (follows : before.Follows (.holding resource)) :
    before = .holding resource ∨ before = .idle := by
  cases follows with
  | stays => exact .inl rfl
  | takes => exact .inr rfl

/-- Nothing leads back to the beginning. -/
theorem begun (follows : before.Follows after) (begun : before ≠ .idle) : after ≠ .idle := by
  cases follows with
  | stays => exact begun
  | takes => rintro ⟨⟩
  | gives => rintro ⟨⟩
  | passes => rintro ⟨⟩

end Stage.Follows

/-- Monitors, one for each process, under which a process holds one resource at most, once, and
uses it only meanwhile. -/
structure Discipline (monitor : ι → Monitor E σ) (R : Type) where
  stage : σ → Stage R
  used : E → Option R
  follows : ∀ {i before event after}, monitor i before event = some after →
    (stage before).Follows (stage after)
  held : ∀ {i before event after resource}, monitor i before event = some after →
    used event = some resource → stage before = .holding resource

namespace Discipline

variable {monitor : ι → Monitor E σ} (discipline : Discipline monitor R)

/-- Processes in any order, each accepted by its monitor, where a resource is only given to one
while nobody holds it. -/
inductive Pool (start : σ) : List (ι × E) → (ι → σ) → Prop where
  | nil : Pool start [] fun _ => start
  | snoc {trace : List (ι × E)} {states : ι → σ} {i : ι} {event : E} {after : σ}
      (earlier : Pool start trace states) (step : monitor i (states i) event = some after)
      (granted : ∀ resource, discipline.stage after = .holding resource →
        discipline.stage (states i) ≠ .holding resource →
          ∀ j, discipline.stage (states j) ≠ .holding resource) :
      Pool start (trace ++ [(i, event)]) (Function.update states i after)

theorem Pool.watch_own {discipline : Discipline monitor R} {start : σ} {trace : List (ι × E)}
    {states : ι → σ} (pool : discipline.Pool start trace states) (i : ι) :
    (monitor i).watch start (own i trace) = some (states i) := by
  induction pool with
  | nil => rfl
  | @snoc trace states j event after earlier step granted ih =>
      by_cases same : j = i
      · subst same
        rw [own_snoc_self, Function.update_self]
        exact Monitor.watch_append_iff.mpr ⟨_, ih, Monitor.watch_cons_iff.mpr ⟨_, step, rfl⟩⟩
      · rw [own_snoc_other same, Function.update_of_ne (Ne.symm same)]
        exact ih

variable [DecidableEq R]

/-- The events that use a resource. -/
def uses (resource : R) (events : List E) : List E :=
  events.filter fun event => discipline.used event = some resource

/-- The uses of a resource are those of the processes of `order`, one after another. -/
structure Serial (resource : R) (trace : List (ι × E)) (states : ι → σ) (order : List ι) :
    Prop where
  distinct : order.Nodup
  serial : discipline.uses resource (trace.map Prod.snd) =
    order.flatMap fun i => discipline.uses resource (own i trace)
  last : ∀ i, discipline.stage (states i) = .holding resource → ∃ earlier, order = earlier ++ [i]
  begun : ∀ i ∈ order, discipline.stage (states i) ≠ .idle
  absent : ∀ i, i ∉ order → discipline.uses resource (own i trace) = []

variable {discipline} {start after : σ} {resource : R} {trace : List (ι × E)} {states : ι → σ}
  {order earlier : List ι} {i j : ι} {event : E}

omit [DecidableEq ι] in
theorem uses_append (resource : R) (first second : List E) :
    discipline.uses resource (first ++ second) =
      discipline.uses resource first ++ discipline.uses resource second :=
  List.filter_append ..

omit [DecidableEq ι] in
theorem uses_unused (unused : discipline.used event ≠ some resource) :
    discipline.uses resource [event] = [] := by
  simp only [uses, List.filter_cons, unused, decide_false, Bool.false_eq_true, if_false,
    List.filter_nil]

/-- An event that does not use the resource changes nobody's uses of it. -/
theorem uses_own_snoc (unused : discipline.used event ≠ some resource) :
    discipline.uses resource (own j (trace ++ [(i, event)])) =
      discipline.uses resource (own j trace) := by
  by_cases same : i = j
  · subst same
    rw [own_snoc_self, uses_append, uses_unused unused, List.append_nil]
  · rw [own_snoc_other same]

namespace Serial

/-- The last of the processes goes on using the resource. -/
theorem used (serial : discipline.Serial resource trace states order)
    (step : monitor i (states i) event = some after)
    (use : discipline.used event = some resource) :
    discipline.Serial resource (trace ++ [(i, event)]) (Function.update states i after)
      order := by
  have holding := discipline.held step use
  obtain ⟨earlier, rfl⟩ := serial.last i holding
  have alone : i ∉ earlier := fun member =>
    (List.nodup_append.mp serial.distinct).2.2 i member i List.mem_cons_self rfl
  have begun : discipline.stage after ≠ .idle :=
    (discipline.follows step).begun (by rw [holding]; rintro ⟨⟩)
  have others : ∀ j ∈ earlier, own j (trace ++ [(i, event)]) = own j trace := by
    intro j member
    apply own_snoc_other
    rintro rfl
    exact alone member
  refine ⟨serial.distinct, ?_, fun j held => ?_, fun j member => ?_, fun j absent => ?_⟩
  · have total := serial.serial
    rw [List.flatMap_append, List.flatMap_singleton] at total ⊢
    rw [List.map_append, uses_append, total, own_snoc_self, uses_append, List.append_assoc]
    congr 1
    exact List.flatMap_congr fun j member => by rw [others j member]
  · by_cases same : j = i
    · subst same
      exact ⟨earlier, rfl⟩
    · rw [Function.update_of_ne same] at held
      exact serial.last j held
  · by_cases same : j = i
    · subst same
      rwa [Function.update_self]
    · rw [Function.update_of_ne same]
      exact serial.begun j member
  · have different : i ≠ j := by
      rintro rfl
      exact absent (List.mem_append_right _ List.mem_cons_self)
    rw [own_snoc_other different]
    exact serial.absent j absent

/-- Nothing but uses changes what was used. -/
theorem of_unused (serial : discipline.Serial resource trace states order)
    (unused : discipline.used event ≠ some resource) :
    discipline.uses resource ((trace ++ [(i, event)]).map Prod.snd) =
      order.flatMap fun j => discipline.uses resource (own j (trace ++ [(i, event)])) := by
  rw [List.map_append, uses_append]
  simp only [List.map_cons, List.map_nil, uses_unused unused, List.append_nil, uses_own_snoc unused]
  exact serial.serial

/-- A process that takes the resource comes after those that had it. -/
theorem taken (serial : discipline.Serial resource trace states order)
    (step : monitor i (states i) event = some after)
    (unused : discipline.used event ≠ some resource)
    (takes : discipline.stage after = .holding resource)
    (idle : discipline.stage (states i) = .idle)
    (free : ∀ j, discipline.stage (states j) ≠ .holding resource) :
    discipline.Serial resource (trace ++ [(i, event)]) (Function.update states i after)
      (order ++ [i]) := by
  have absent : i ∉ order := fun member => serial.begun i member idle
  refine ⟨?_, ?_, fun j held => ?_, fun j member => ?_, fun j absent => ?_⟩
  · exact List.nodup_append.mpr ⟨serial.distinct, List.nodup_singleton i, fun j member k last => by
      rw [List.mem_singleton.mp last]
      rintro rfl
      exact absent member⟩
  · rw [serial.of_unused unused, List.flatMap_append, List.flatMap_singleton,
      uses_own_snoc unused, serial.absent i absent, List.append_nil]
  · by_cases same : j = i
    · subst same
      exact ⟨order, rfl⟩
    · rw [Function.update_of_ne same] at held
      exact absurd held (free j)
  · by_cases same : j = i
    · subst same
      rw [Function.update_self, takes]
      rintro ⟨⟩
    · rw [Function.update_of_ne same]
      refine serial.begun j ?_
      rcases List.mem_append.mp member with early | late
      · exact early
      · exact absurd (List.mem_singleton.mp late) same
  · rw [uses_own_snoc unused]
    exact serial.absent j fun member => absent (List.mem_append_left _ member)

/-- Any other event leaves the order as it is. -/
theorem passed (serial : discipline.Serial resource trace states order)
    (step : monitor i (states i) event = some after)
    (unused : discipline.used event ≠ some resource)
    (kept : discipline.stage after = .holding resource →
      discipline.stage (states i) = .holding resource) :
    discipline.Serial resource (trace ++ [(i, event)]) (Function.update states i after)
      order := by
  refine ⟨serial.distinct, serial.of_unused unused, fun j held => ?_, fun j member => ?_,
    fun j absent => ?_⟩
  · by_cases same : j = i
    · subst same
      rw [Function.update_self] at held
      exact serial.last j (kept held)
    · rw [Function.update_of_ne same] at held
      exact serial.last j held
  · by_cases same : j = i
    · subst same
      rw [Function.update_self]
      exact (discipline.follows step).begun (serial.begun j member)
    · rw [Function.update_of_ne same]
      exact serial.begun j member
  · rw [uses_own_snoc unused]
    exact serial.absent j absent

end Serial

/-- **Serial use.** The processes use a resource one after another, in some order, each without
interruption. -/
theorem Pool.exists_serial (pool : discipline.Pool start trace states)
    (idle : discipline.stage start = .idle) (resource : R) :
    ∃ order, discipline.Serial resource trace states order := by
  induction pool with
  | nil =>
      refine ⟨[], List.nodup_nil, rfl, fun i held => ?_, List.forall_mem_nil _, fun _ _ => rfl⟩
      rw [idle] at held
      cases held
  | @snoc trace states i event after earlier step granted ih =>
      obtain ⟨order, serial⟩ := ih
      by_cases use : discipline.used event = some resource
      · exact ⟨order, serial.used step use⟩
      · by_cases takes : discipline.stage after = .holding resource ∧
            discipline.stage (states i) ≠ .holding resource
        · have before := (takes.1 ▸ discipline.follows step).eq_or_idle
          have free := granted resource takes.1 takes.2
          exact ⟨order ++ [i],
            serial.taken step use takes.1 (before.resolve_left takes.2) free⟩
        · refine ⟨order, serial.passed step use fun holds => ?_⟩
          by_contra other
          exact takes ⟨holds, other⟩

end Discipline

end Interaction
