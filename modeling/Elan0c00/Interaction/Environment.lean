import Elan0c00.Interaction.Program

/-! # Environments with a state

An environment answers each question from a state of its own and moves on to another
state; a relation, so that it may answer in several ways. `Executes` restricts the runs of
a program to the exchanges such an environment can take part in. An environment that can
always answer lets every program finish (`Interaction.exists_executes`).
-/

namespace Interaction

variable {Op : Type} {Ans : Op → Type} {σ Fault ε α β : Type}

/-- The answers an environment can give in a state, each with the state it leads to. -/
abbrev Environment (Ans : Op → Type) (σ : Type) := σ → (op : Op) → Ans op → σ → Prop

/-- A sequence of exchanges the environment can take part in. -/
inductive Path (env : Environment Ans σ) : σ → List (Event Ans) → σ → Prop where
  | nil (state : σ) : Path env state [] state
  | cons {before middle after : σ} {op : Op} {answer : Ans op} {rest : List (Event Ans)}
      (step : env before op answer middle) (tail : Path env middle rest after) :
      Path env before (⟨op, answer⟩ :: rest) after

namespace Path

variable {env : Environment Ans σ} {before after : σ}

theorem nil_iff : Path env before [] after ↔ after = before := by
  constructor
  · intro path
    cases path
    rfl
  · rintro rfl
    exact .nil after

theorem cons_iff {op : Op} {answer : Ans op} {rest : List (Event Ans)} :
    Path env before (⟨op, answer⟩ :: rest) after ↔
      ∃ middle, env before op answer middle ∧ Path env middle rest after := by
  constructor
  · intro path
    cases path with
    | cons step tail => exact ⟨_, step, tail⟩
  · rintro ⟨middle, step, tail⟩
    exact .cons step tail

theorem append_iff {first second : List (Event Ans)} :
    Path env before (first ++ second) after ↔
      ∃ middle, Path env before first middle ∧ Path env middle second after := by
  induction first generalizing before with
  | nil =>
      simp only [List.nil_append, nil_iff]
      constructor
      · exact fun path => ⟨before, rfl, path⟩
      · rintro ⟨middle, rfl, path⟩
        exact path
  | cons event first ih =>
      rcases event with ⟨op, answer⟩
      rw [List.cons_append, cons_iff]
      constructor
      · rintro ⟨next, step, tail⟩
        obtain ⟨middle, head, last⟩ := ih.mp tail
        exact ⟨middle, .cons step head, last⟩
      · rintro ⟨middle, head, last⟩
        obtain ⟨next, step, tail⟩ := cons_iff.mp head
        exact ⟨next, step, ih.mpr ⟨middle, tail, last⟩⟩

/-- What every single exchange preserves, a sequence of them preserves. -/
theorem invariant {predicate : σ → Prop}
    (preserved : ∀ state op answer next, env state op answer next → predicate state →
      predicate next)
    {trace : List (Event Ans)} (path : Path env before trace after) (holds : predicate before) :
    predicate after := by
  induction path with
  | nil state => exact holds
  | cons step tail ih => exact ih (preserved _ _ _ _ step holds)

/-- Where an exchange changes what is seen of a state in a known way, so do several. -/
theorem view_eq {view : σ → β} {effect : β → Event Ans → β}
    (known : ∀ {state op answer next}, env state op answer next →
      view next = effect (view state) ⟨op, answer⟩)
    {trace : List (Event Ans)} (path : Path env before trace after) :
    view after = trace.foldl effect (view before) := by
  induction path with
  | nil state => rfl
  | cons step tail ih => rw [List.foldl_cons, ih, known step]

end Path

/-- The runs of a program against an environment: the state it starts from, the exchanges,
the result and the state it leaves behind. -/
def Executes (env : Environment Ans σ) (program : Program Ans Fault α) (before : σ)
    (trace : List (Event Ans)) (result : Except Fault α) (after : σ) : Prop :=
  program.Runs trace result ∧ Path env before trace after

section Executes

variable {env : Environment Ans σ} {before after : σ} {trace : List (Event Ans)}

/-- A program finishes against any environment that always has an answer. -/
theorem exists_executes (total : ∀ state op, ∃ answer next, env state op answer next)
    (program : Program Ans Fault α) (before : σ) :
    ∃ trace result after, Executes env program before trace result after := by
  induction program generalizing before with
  | ret value => exact ⟨[], .ok value, before, .ret value, .nil before⟩
  | halt fault => exact ⟨[], .error fault, before, .halt fault, .nil before⟩
  | ask op next ih =>
      obtain ⟨answer, middle, step⟩ := total before op
      obtain ⟨trace, result, after, run, path⟩ := ih answer middle
      exact ⟨⟨op, answer⟩ :: trace, result, after, .ask answer run, .cons step path⟩

end Executes

end Interaction
