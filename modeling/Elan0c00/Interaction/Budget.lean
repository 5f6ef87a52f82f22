import Elan0c00.Interaction.Translation
import Mathlib.Algebra.Order.Monoid.Canonical.Defs
import Mathlib.Algebra.BigOperators.Group.List.Basic
import Mathlib.Order.Bounds.Defs

/-! # What a program may cost

Every question has a price, in an ordered monoid where nothing is cheaper than free.
`Program.Within` bounds what a program spends whatever it is answered, `Program.Spends` says that
some answers make it spend exactly so much; where both hold of one amount, it is the most the
program can cost (`Program.Within.isGreatest`). Both have a rule for each way programs are built.
-/

namespace Interaction

variable {Op Op' : Type} {Ans : Op → Type} {Ans' : Op' → Type} {Fault ε α β M : Type}
  [AddCommMonoid M] {price : Op → M} {first second trace : List (Event Ans)}

/-- The price of all that was asked. -/
def spent (price : Op → M) (trace : List (Event Ans)) : M :=
  (trace.map fun event => price event.op).sum

theorem spent_append : spent price (first ++ second) = spent price first + spent price second := by
  unfold spent
  rw [List.map_append, List.sum_append]

/-- In other words, at the prices of the other words. -/
theorem spent_translate {words : Translation Ans Ans'} (price : Op' → M) :
    spent price (trace.map words.event) = spent (fun op => price (words.op op)) trace := by
  unfold spent
  rw [List.map_map]
  rfl

theorem spent_free (free : ∀ op, price op = 0) : spent price trace = 0 := by
  apply List.sum_eq_zero
  intro amount member
  obtain ⟨event, inside, rfl⟩ := List.mem_map.mp member
  exact free event.op

namespace Program

/-- Some answers bring the program to the result for exactly the amount. -/
def Spends (price : Op → M) (program : Program Ans Fault α) (result : Except Fault α)
    (amount : M) : Prop :=
  ∃ trace, program.Runs trace result ∧ spent price trace = amount

section Spends

variable {program : Program Ans Fault α} {rest : α → Program Ans Fault β} {value : α}
  {result : Except Fault β} {amount more : M}

theorem spends_pure : Spends price (pure value : Program Ans Fault α) (.ok value) 0 :=
  ⟨[], .ret value, rfl⟩

theorem Spends.bind (head : Spends price program (.ok value) amount)
    (tail : Spends price (rest value) result more) :
    Spends price (program >>= rest) result (amount + more) := by
  obtain ⟨first, run, rfl⟩ := head
  obtain ⟨second, later, rfl⟩ := tail
  exact ⟨first ++ second, runs_bind_iff.mpr (.inr ⟨value, first, second, rfl, run, later⟩),
    spent_append⟩

theorem Spends.translate {words : Translation Ans Ans'} {price : Op' → M}
    {result : Except Fault α}
    (spends : Spends (fun op => price (words.op op)) program result amount) :
    Spends price (program.translate words) result amount := by
  obtain ⟨trace, run, rfl⟩ := spends
  exact ⟨trace.map words.event, runs_translate_iff.mpr ⟨trace, rfl, run⟩, spent_translate price⟩

theorem spends_request {op : Op} (answer : Ans op) :
    Spends price (request op : Program Ans Fault (Ans op)) (.ok answer) (price op) :=
  ⟨[⟨op, answer⟩], .ask answer (.ret answer), List.sum_singleton⟩

/-- Where nothing has a price every run is free. -/
theorem spends_free (free : ∀ op, price op = 0) {result : Except Fault α}
    (run : program.Runs trace result) : Spends price program result 0 :=
  ⟨trace, run, spent_free free⟩

end Spends

variable [PartialOrder M]

/-- Whatever it is answered, the program spends no more than the bound. -/
def Within (price : Op → M) (program : Program Ans Fault α) (bound : M) : Prop :=
  ∀ trace result, program.Runs trace result → spent price trace ≤ bound

/-- A bound that is reached is the most a program can cost. -/
theorem Within.isGreatest {program : Program Ans Fault α} {result : Except Fault α} {bound : M}
    (within : Within price program bound) (spends : Spends price program result bound) :
    IsGreatest {amount | ∃ result, Spends price program result amount} bound := by
  refine ⟨⟨result, spends⟩, ?_⟩
  rintro _ ⟨_, trace, run, rfl⟩
  exact within trace _ run

section Within

variable {program : Program Ans Fault α} {rest : α → Program Ans Fault β} {bound more : M}

theorem Within.mono (within : Within price program bound) (le : bound ≤ more) :
    Within price program more := fun trace result run => (within trace result run).trans le

theorem within_free (free : ∀ op, price op = 0) : Within price program 0 :=
  fun _ _ _ => (spent_free free).le

theorem within_request {op : Op} :
    Within price (request op : Program Ans Fault (Ans op)) (price op) := by
  intro trace result run
  obtain ⟨answer, tail, rfl, ended⟩ := runs_ask_iff.mp run
  obtain ⟨rfl, rfl⟩ := runs_ret_iff.mp ended
  exact List.sum_singleton.le

theorem Within.translate {words : Translation Ans Ans'} {price : Op' → M}
    (within : Within (fun op => price (words.op op)) program bound) :
    Within price (program.translate words) bound := by
  intro trace result run
  obtain ⟨own, rfl, inner⟩ := runs_translate_iff.mp run
  rw [spent_translate]
  exact within own result inner

theorem within_pure {value : α} : Within price (pure value : Program Ans Fault α) 0 := by
  intro trace result run
  obtain ⟨rfl, rfl⟩ := runs_pure_iff.mp run
  exact le_rfl

variable [CanonicallyOrderedAdd M] [IsOrderedAddMonoid M]

theorem Within.bind (within : Within price program bound)
    (later : ∀ value, Within price (rest value) more) :
    Within price (program >>= rest) (bound + more) := by
  intro trace result run
  rcases runs_bind_iff.mp run with
    ⟨fault, head, rfl⟩ | ⟨value, first, second, rfl, head, tail⟩
  · exact (within _ _ head).trans le_self_add
  · rw [spent_append]
    exact add_le_add (within _ _ head) (later value _ _ tail)

end Within

end Program

/-! ### Programs with recoverable errors -/

namespace Fallible

/-- `Program.Spends` for a program that returns a value or an error. -/
def Spends (price : Op → M) (program : Fallible Ans Fault ε α) (known : Except ε α)
    (amount : M) : Prop :=
  Program.Spends price program.run (.ok known) amount

section Spends

variable {program : Fallible Ans Fault ε α} {rest : α → Fallible Ans Fault ε β} {value : α}
  {known : Except ε α} {last : Except ε β} {amount more : M}

theorem spends_pure : Spends price (pure value : Fallible Ans Fault ε α) (.ok value) 0 :=
  Program.spends_pure

theorem Spends.bind (head : Spends price program (.ok value) amount)
    (tail : Spends price (rest value) last more) :
    Spends price (program >>= rest) last (amount + more) := by
  obtain ⟨first, run, rfl⟩ := head
  obtain ⟨second, later, rfl⟩ := tail
  refine ⟨first ++ second, ?_, spent_append⟩
  exact runs_bind_iff.mpr (.inr (.inr ⟨value, first, second, rfl, run, later⟩))

/-- What comes after an error costs nothing. -/
theorem Spends.bind_error {error : ε} (fails : Spends price program (.error error) amount) :
    Spends price (program >>= rest) (.error error) amount := by
  obtain ⟨trace, run, rfl⟩ := fails
  exact ⟨trace, runs_bind_iff.mpr (.inr (.inl ⟨error, run, rfl⟩)), rfl⟩

theorem spends_request {op : Op} {read : Ans op → Except ε α} (answer : Ans op) :
    Spends price (request op read : Fallible Ans Fault ε α) (read answer) (price op) :=
  ⟨[⟨op, answer⟩], runs_request_iff.mpr ⟨answer, rfl, rfl⟩, List.sum_singleton⟩

theorem Spends.outcome {ε' : Type} (spends : Spends price program known amount) :
    Spends price (outcome program : Fallible Ans Fault ε' (Except ε α)) (.ok known) amount := by
  obtain ⟨trace, run, rfl⟩ := spends
  exact ⟨trace, runs_outcome_iff.mpr (.inr ⟨known, run, rfl⟩), rfl⟩

/-- A loop spends in each round what the round spends. -/
theorem spends_forM {γ : Type} {items : List γ} {body : γ → Fallible Ans Fault ε Unit}
    (round : ∀ item ∈ items, Spends price (body item) (.ok ()) amount) :
    Spends price (items.forM body) (.ok ()) (items.length • amount) := by
  induction items with
  | nil =>
      rw [List.length_nil, zero_nsmul]
      exact spends_pure
  | cons item items ih =>
      obtain ⟨here, later⟩ := List.forall_mem_cons.mp round
      rw [List.length_cons, succ_nsmul']
      exact here.bind (ih later)

end Spends

variable [PartialOrder M]

/-- `Program.Within` for a program that returns a value or an error. -/
def Within (price : Op → M) (program : Fallible Ans Fault ε α) (bound : M) : Prop :=
  Program.Within price program.run bound

section Within

variable {program : Fallible Ans Fault ε α} {rest : α → Fallible Ans Fault ε β} {bound more : M}

theorem Within.mono (within : Within price program bound) (le : bound ≤ more) :
    Within price program more :=
  Program.Within.mono within le

theorem within_request {op : Op} {read : Ans op → Except ε α} :
    Within price (request op read : Fallible Ans Fault ε α) (price op) := by
  intro trace result run
  obtain ⟨answer, rfl, rfl⟩ := runs_request_iff.mp run
  exact List.sum_singleton.le

theorem Within.outcome {ε' : Type} (within : Within price program bound) :
    Within price (outcome program : Fallible Ans Fault ε' (Except ε α)) bound := by
  intro trace result run
  rcases runs_outcome_iff.mp run with ⟨fault, head, rfl⟩ | ⟨known, head, rfl⟩
  · exact within _ _ head
  · exact within _ _ head

theorem within_pure {value : α} : Within price (pure value : Fallible Ans Fault ε α) 0 :=
  Program.within_pure

/-- A computation that asks nothing is free, also if it faults. -/
theorem within_check {computed : Except Fault α} :
    Within price (check computed : Fallible Ans Fault ε α) 0 := by
  intro trace result run
  cases computed with
  | ok value =>
      obtain ⟨rfl, rfl⟩ := Program.runs_ret_iff.mp run
      exact le_rfl
  | error fault =>
      obtain ⟨rfl, rfl⟩ := Program.runs_halt_iff.mp run
      exact le_rfl

variable [CanonicallyOrderedAdd M] [IsOrderedAddMonoid M]

theorem Within.bind (within : Within price program bound)
    (later : ∀ value, Within price (rest value) more) :
    Within price (program >>= rest) (bound + more) := by
  intro trace result run
  rcases runs_bind_iff.mp run with
    ⟨fault, head, rfl⟩ | ⟨error, head, rfl⟩ | ⟨value, first, second, rfl, head, tail⟩
  · exact (within _ _ head).trans le_self_add
  · exact (within _ _ head).trans le_self_add
  · rw [spent_append]
    exact add_le_add (within _ _ head) (later value _ _ tail)

/-- A loop costs at most what its rounds may cost. -/
theorem within_forM {γ : Type} {items : List γ} {body : γ → Fallible Ans Fault ε Unit}
    (round : ∀ item ∈ items, Within price (body item) bound) :
    Within price (items.forM body) (items.length • bound) := by
  induction items with
  | nil =>
      rw [List.length_nil, zero_nsmul]
      exact within_pure
  | cons item items ih =>
      obtain ⟨here, later⟩ := List.forall_mem_cons.mp round
      rw [List.length_cons, succ_nsmul']
      exact here.bind fun _ => ih later

end Within

end Fallible

end Interaction
