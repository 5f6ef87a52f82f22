import Elan0c00.Interaction.Translation

/-! # Watching a program

A `Monitor` goes from state to state with the events it sees and refuses those that are out of
place. `Program.Meets` says that a program returns whatever it is answered, that the monitor
refuses none of its events, and what holds of the value and of the monitor at the end. The rules
follow the ways programs are built, so that a program is checked part by part.
-/

namespace Interaction

/-- What watches events: the state an event leads to, `none` where it is refused. -/
abbrev Monitor (E σ : Type) := σ → E → Option σ

namespace Monitor

variable {E σ : Type} {monitor : Monitor E σ} {before after : σ} {first second trace : List E}

/-- The state a sequence of events leads to if none of them is refused. -/
def watch (monitor : Monitor E σ) : σ → List E → Option σ
  | before, [] => some before
  | before, event :: rest => (monitor before event).bind fun middle => monitor.watch middle rest

theorem watch_cons_iff {event : E} :
    monitor.watch before (event :: trace) = some after ↔
      ∃ middle, monitor before event = some middle ∧ monitor.watch middle trace = some after :=
  Option.bind_eq_some_iff

theorem watch_append_iff :
    monitor.watch before (first ++ second) = some after ↔
      ∃ middle, monitor.watch before first = some middle ∧
        monitor.watch middle second = some after := by
  induction first generalizing before with
  | nil => simp only [List.nil_append, watch, Option.some.injEq, exists_eq_left']
  | cons event first ih =>
      rw [List.cons_append, watch_cons_iff]
      constructor
      · rintro ⟨next, step, tail⟩
        obtain ⟨middle, head, last⟩ := ih.mp tail
        exact ⟨middle, watch_cons_iff.mpr ⟨next, step, head⟩, last⟩
      · rintro ⟨middle, head, last⟩
        obtain ⟨next, step, tail⟩ := watch_cons_iff.mp head
        exact ⟨next, step, ih.mpr ⟨middle, tail, last⟩⟩

/-- Events seen through a function. -/
theorem watch_map {E' : Type} (monitor : Monitor E σ) (before : σ) (see : E' → E)
    (trace : List E') :
    monitor.watch before (trace.map see) =
      watch (fun state event => monitor state (see event)) before trace := by
  induction trace generalizing before with
  | nil => rfl
  | cons event rest ih =>
      simp only [List.map_cons, watch]
      congr 1
      funext middle
      exact ih middle

/-- Nothing is refused before what comes later is seen. -/
theorem watch_prefix (accepted : monitor.watch before (first ++ second) = some after) :
    ∃ middle, monitor.watch before first = some middle := by
  obtain ⟨middle, head, -⟩ := watch_append_iff.mp accepted
  exact ⟨middle, head⟩

/-- Each event of an accepted sequence was accepted when it came. -/
theorem exists_step_of_mem {event : E} (accepted : monitor.watch before trace = some after)
    (member : event ∈ trace) : ∃ state next, monitor state event = some next := by
  obtain ⟨first, second, rfl⟩ := List.append_of_mem member
  obtain ⟨state, -, tail⟩ := watch_append_iff.mp accepted
  obtain ⟨next, step, -⟩ := watch_cons_iff.mp tail
  exact ⟨state, next, step⟩

/-- Events that lead nowhere else lead back. -/
theorem watch_stays (stays : ∀ event ∈ trace, monitor before event = some before) :
    monitor.watch before trace = some before := by
  induction trace with
  | nil => rfl
  | cons event rest ih =>
      obtain ⟨here, later⟩ := List.forall_mem_cons.mp stays
      exact watch_cons_iff.mpr ⟨before, here, ih later⟩

end Monitor

variable {Op : Type} {Ans : Op → Type} {σ Fault ε α β : Type}
  {monitor : Monitor (Event Ans) σ} {before : σ}

namespace Program

/-- Whatever it is answered, the program returns a value, the monitor accepts what it did, and
the value and the state of the monitor are as said. -/
def Meets (monitor : Monitor (Event Ans) σ) (before : σ) (program : Program Ans Fault α)
    (post : α → σ → Prop) : Prop :=
  ∀ trace result, program.Runs trace result →
    ∃ value after, result = .ok value ∧ monitor.watch before trace = some after ∧
      post value after

section Meets

variable {program : Program Ans Fault α} {post weaker : α → σ → Prop}

theorem Meets.mono (meets : Meets monitor before program post)
    (weaken : ∀ value after, post value after → weaker value after) :
    Meets monitor before program weaker := by
  intro trace result run
  obtain ⟨value, after, rfl, accepted, holds⟩ := meets trace result run
  exact ⟨value, after, rfl, accepted, weaken value after holds⟩

theorem meets_pure {value : α} (holds : post value before) :
    Meets monitor before (pure value : Program Ans Fault α) post := by
  intro trace result run
  obtain ⟨rfl, rfl⟩ := runs_pure_iff.mp run
  exact ⟨value, before, rfl, rfl, holds⟩

theorem Meets.bind {rest : α → Program Ans Fault β} {last : β → σ → Prop}
    (meets : Meets monitor before program post)
    (later : ∀ value middle, post value middle → Meets monitor middle (rest value) last) :
    Meets monitor before (program >>= rest) last := by
  intro trace result run
  rcases runs_bind_iff.mp run with
    ⟨fault, head, rfl⟩ | ⟨value, first, second, rfl, head, tail⟩
  · obtain ⟨_, _, impossible, _⟩ := meets _ _ head
    cases impossible
  · obtain ⟨_, middle, same, accepted, holds⟩ := meets _ _ head
    cases same
    obtain ⟨value', after, rfl, tailAccepted, finally'⟩ := later value middle holds _ _ tail
    exact ⟨value', after, rfl, Monitor.watch_append_iff.mpr ⟨middle, accepted, tailAccepted⟩,
      finally'⟩

theorem meets_request {op : Op} {post : Ans op → σ → Prop}
    (step : ∀ answer, ∃ after, monitor before ⟨op, answer⟩ = some after ∧ post answer after) :
    Meets monitor before (request op : Program Ans Fault (Ans op)) post := by
  intro trace result run
  obtain ⟨answer, tail, rfl, ended⟩ := runs_ask_iff.mp run
  obtain ⟨rfl, rfl⟩ := runs_ret_iff.mp ended
  obtain ⟨after, accepted, holds⟩ := step answer
  exact ⟨answer, after, rfl, Monitor.watch_cons_iff.mpr ⟨after, accepted, rfl⟩, holds⟩

/-- A program in other words does what it does in its own. -/
theorem Meets.translate {Op' : Type} {Ans' : Op' → Type} {words : Translation Ans' Ans}
    {program : Program Ans' Fault α}
    (meets : Meets (fun state event => monitor state (words.event event)) before program post) :
    Meets monitor before (program.translate words) post := by
  intro trace result run
  obtain ⟨trace, rfl, inner⟩ := runs_translate_iff.mp run
  obtain ⟨value, after, rfl, accepted, holds⟩ := meets trace result inner
  exact ⟨value, after, rfl, (Monitor.watch_map ..).trans accepted, holds⟩

end Meets

end Program

/-! ### Programs with recoverable errors -/

namespace Fallible

/-- Run a program and, whatever becomes of it, a cleanup before its outcome is passed on. -/
def ensuring (cleanup : Fallible Ans Fault ε Unit) (program : Fallible Ans Fault ε α) :
    Fallible Ans Fault ε α := do
  let known ← outcome program
  cleanup
  settle known

/-- What holds at the end, by whether it is an error or a value. -/
def Ends (failed : ε → σ → Prop) (returned : α → σ → Prop) : Except ε α → σ → Prop
  | .error error => failed error
  | .ok value => returned value

/-- `Program.Meets` for a program that returns a value or an error. -/
def Meets (monitor : Monitor (Event Ans) σ) (before : σ) (program : Fallible Ans Fault ε α)
    (failed : ε → σ → Prop) (returned : α → σ → Prop) : Prop :=
  Program.Meets monitor before program.run (Ends failed returned)

section Meets

variable {program : Fallible Ans Fault ε α} {failed : ε → σ → Prop} {returned : α → σ → Prop}

theorem Meets.mono {failed' : ε → σ → Prop} {returned' : α → σ → Prop}
    (meets : Meets monitor before program failed returned)
    (errors : ∀ error after, failed error after → failed' error after)
    (values : ∀ value after, returned value after → returned' value after) :
    Meets monitor before program failed' returned' := by
  refine Program.Meets.mono meets fun known after holds => ?_
  cases known with
  | error error => exact errors error after holds
  | ok value => exact values value after holds

theorem meets_settle {known : Except ε α} (holds : Ends failed returned known before) :
    Meets monitor before (settle known : Fallible Ans Fault ε α) failed returned :=
  Program.meets_pure holds

theorem meets_pure {value : α} (holds : returned value before) :
    Meets monitor before (pure value : Fallible Ans Fault ε α) failed returned :=
  Program.meets_pure holds

theorem meets_throw {error : ε} (holds : failed error before) :
    Meets monitor before (throw error : Fallible Ans Fault ε α) failed returned :=
  Program.meets_pure holds

theorem meets_request {op : Op} {read : Ans op → Except ε α}
    (step : ∀ answer, ∃ after, monitor before ⟨op, answer⟩ = some after ∧
      Ends failed returned (read answer) after) :
    Meets monitor before (request op read : Fallible Ans Fault ε α) failed returned := by
  intro trace result run
  obtain ⟨answer, rfl, rfl⟩ := runs_request_iff.mp run
  obtain ⟨after, accepted, holds⟩ := step answer
  exact ⟨read answer, after, rfl, Monitor.watch_cons_iff.mpr ⟨after, accepted, rfl⟩, holds⟩

theorem Meets.bind {rest : α → Fallible Ans Fault ε β} {last : β → σ → Prop}
    (meets : Meets monitor before program failed returned)
    (later : ∀ value middle, returned value middle →
      Meets monitor middle (rest value) failed last) :
    Meets monitor before (program >>= rest) failed last := by
  intro trace result run
  rcases runs_bind_iff.mp run with
    ⟨fault, head, rfl⟩ | ⟨error, head, rfl⟩ | ⟨value, first, second, rfl, head, tail⟩
  · obtain ⟨_, _, impossible, _⟩ := meets _ _ head
    cases impossible
  · obtain ⟨_, middle, same, accepted, holds⟩ := meets _ _ head
    cases same
    exact ⟨_, middle, rfl, accepted, holds⟩
  · obtain ⟨_, middle, same, accepted, holds⟩ := meets _ _ head
    cases same
    obtain ⟨known, after, rfl, tailAccepted, ended⟩ := later value middle holds _ _ tail
    exact ⟨known, after, rfl, Monitor.watch_append_iff.mpr ⟨middle, accepted, tailAccepted⟩,
      ended⟩

theorem Meets.outcome {ε' : Type} {failed' : ε' → σ → Prop}
    (meets : Meets monitor before program failed returned) :
    Meets monitor before (outcome program : Fallible Ans Fault ε' (Except ε α)) failed'
      (Ends failed returned) := by
  intro trace result run
  rcases runs_outcome_iff.mp run with ⟨fault, head, rfl⟩ | ⟨known, head, rfl⟩
  · obtain ⟨_, _, impossible, _⟩ := meets _ _ head
    cases impossible
  · obtain ⟨_, after, same, accepted, holds⟩ := meets _ _ head
    cases same
    exact ⟨.ok known, after, rfl, accepted, holds⟩

/-- The cleanup starts from where the program ended, with an error or a value. -/
theorem Meets.ensuring {cleanup : Fallible Ans Fault ε Unit} {failed' : ε → σ → Prop}
    {last : α → σ → Prop} (meets : Meets monitor before program failed returned)
    (errors : ∀ error middle, failed error middle →
      Meets monitor middle cleanup failed' fun _ after => failed' error after)
    (values : ∀ value middle, returned value middle →
      Meets monitor middle cleanup failed' fun _ after => last value after) :
    Meets monitor before (ensuring cleanup program) failed' last := by
  refine (meets.outcome).bind fun known middle holds => ?_
  cases known with
  | error error =>
      refine (errors error middle holds).bind fun _ after ended => ?_
      exact meets_settle ended
  | ok value =>
      refine (values value middle holds).bind fun _ after ended => ?_
      exact meets_settle ended

/-- Only an error is followed by the cleanup. -/
theorem Meets.onFailure {cleanup : Fallible Ans Fault ε Unit} {failed' : ε → σ → Prop}
    (meets : Meets monitor before program failed returned)
    (errors : ∀ error middle, failed error middle →
      Meets monitor middle cleanup failed' fun _ after => failed' error after) :
    Meets monitor before (onFailure cleanup program) failed' returned := by
  refine (meets.outcome).bind fun known middle holds => ?_
  cases known with
  | error error =>
      refine (errors error middle holds).bind fun _ after ended => ?_
      exact meets_throw ended
  | ok value => exact meets_pure holds

/-- A loop keeps what each of its rounds keeps; the first round that fails ends it. -/
theorem meets_forM {γ : Type} {items : List γ} {body : γ → Fallible Ans Fault ε Unit}
    {kept : σ → Prop}
    (round : ∀ item ∈ items, ∀ middle, kept middle →
      Meets monitor middle (body item) failed fun _ after => kept after)
    (holds : kept before) :
    Meets monitor before (items.forM body) failed fun _ after => kept after := by
  induction items generalizing before with
  | nil => exact meets_pure holds
  | cons item rest ih =>
      obtain ⟨here, later⟩ := List.forall_mem_cons.mp round
      exact (here before holds).bind fun _ middle holds => ih later holds

end Meets

/-- Whatever becomes of the program, what held of the monitor holds of it at the end. -/
def Preserves (monitor : Monitor (Event Ans) σ) (kept : σ → Prop)
    (program : Fallible Ans Fault ε α) : Prop :=
  ∀ before, kept before → Meets monitor before program (fun _ => kept) fun _ => kept

section Preserves

variable {kept : σ → Prop} {program : Fallible Ans Fault ε α}

theorem Preserves.bind {rest : α → Fallible Ans Fault ε β} (first : Preserves monitor kept program)
    (later : ∀ value, Preserves monitor kept (rest value)) :
    Preserves monitor kept (program >>= rest) :=
  fun before holds => (first before holds).bind fun value middle => later value middle

theorem preserves_settle (known : Except ε α) :
    Preserves monitor kept (settle known : Fallible Ans Fault ε α) := by
  intro before holds
  apply meets_settle
  cases known <;> exact holds

theorem preserves_pure (value : α) :
    Preserves monitor kept (pure value : Fallible Ans Fault ε α) :=
  fun _ holds => meets_pure holds

theorem preserves_request {op : Op} {read : Ans op → Except ε α}
    (step : ∀ before, kept before → ∀ answer, ∃ after, monitor before ⟨op, answer⟩ = some after ∧
      kept after) : Preserves monitor kept (request op read : Fallible Ans Fault ε α) := by
  intro before holds
  refine meets_request fun answer => ?_
  obtain ⟨after, accepted, holds⟩ := step before holds answer
  refine ⟨after, accepted, ?_⟩
  cases read answer <;> exact holds

/-- A computation that is known not to fault. -/
theorem preserves_check {computed : Except Fault α} (safe : ∃ value, computed = .ok value) :
    Preserves monitor kept (check computed : Fallible Ans Fault ε α) := by
  obtain ⟨value, rfl⟩ := safe
  exact preserves_pure value

theorem preserves_forM {γ : Type} {items : List γ} {body : γ → Fallible Ans Fault ε Unit}
    (round : ∀ item ∈ items, Preserves monitor kept (body item)) :
    Preserves monitor kept (items.forM body) :=
  fun _ holds => meets_forM (fun item member middle => round item member middle) holds

end Preserves

end Fallible

end Interaction
