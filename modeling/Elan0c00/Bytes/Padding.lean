import Mathlib.Data.List.DropRight
import Mathlib.Tactic.Common

/-! # Padding a list to a length and trimming the padding off

A field of fixed size holds a shorter value followed by copies of a blank. Trimming the
blanks recovers a value that does not itself end in one (`Bytes.trimEnd_append_replicate`,
`Bytes.trimEnd_eq_self`), and every list is its trimmed part followed by blanks in exactly
one way (`Bytes.eq_trimEnd_of_append_replicate`).
-/

namespace Bytes

variable {α : Type}

/-- The list does not end in a blank. -/
def NoTrailing (blank : α) (values : List α) : Prop := values.getLast? ≠ some blank

variable [DecidableEq α] {blank : α}

instance (values : List α) : Decidable (NoTrailing blank values) :=
  inferInstanceAs (Decidable (values.getLast? ≠ some blank))

variable (blank) in
/-- Remove the last element as long as it is a blank. -/
def trimEnd (values : List α) : List α := values.rdropWhile fun value => value = blank

theorem noTrailing_trimEnd (values : List α) : NoTrailing blank (trimEnd blank values) := by
  intro ending
  have nonempty : trimEnd blank values ≠ [] := by
    intro empty
    rw [empty] at ending
    exact nomatch ending
  have last := List.rdropWhile_last_not (fun value => decide (value = blank)) values nonempty
  rw [List.getLast?_eq_some_getLast nonempty, Option.some.injEq] at ending
  exact last (decide_eq_true ending)

theorem trimEnd_eq_self {values : List α} (trimmed : NoTrailing blank values) :
    trimEnd blank values = values := by
  apply List.rdropWhile_eq_self_iff.mpr
  intro nonempty ending
  apply trimmed
  rw [List.getLast?_eq_some_getLast nonempty, of_decide_eq_true ending]

/-- Blanks at the end are all trimmed. -/
theorem trimEnd_append_replicate (values : List α) (count : Nat) :
    trimEnd blank (values ++ List.replicate count blank) = trimEnd blank values := by
  induction count with
  | zero => rw [List.replicate_zero, List.append_nil]
  | succ count ih =>
      have last : values ++ List.replicate (count + 1) blank =
          (values ++ List.replicate count blank) ++ [blank] := by
        rw [List.replicate_succ', List.append_assoc]
      have removed := List.rdropWhile_concat_pos (fun value => decide (value = blank))
        (values ++ List.replicate count blank) blank (decide_eq_true rfl)
      rw [last]
      exact removed.trans ih

/-- Every list is its trimmed part followed by blanks. -/
theorem exists_append_replicate (values : List α) :
    ∃ count, values = trimEnd blank values ++ List.replicate count blank := by
  refine ⟨(values.rtakeWhile fun value => value = blank).length, ?_⟩
  have blanks : values.rtakeWhile (fun value => value = blank) =
      List.replicate (values.rtakeWhile fun value => value = blank).length blank := by
    apply List.eq_replicate_of_mem
    intro value member
    have kept := List.rtakeWhile_eq_self_iff.mp
      (List.rtakeWhile_idempotent (fun value => decide (value = blank)) values)
    exact of_decide_eq_true (kept value member)
  have split := List.rdropWhile_append_rtakeWhile (p := fun value => decide (value = blank))
    (l := values)
  rw [← blanks]
  exact split.symm

/-- A list that is filled up is its trimmed part filled up. -/
theorem rightpad_trimEnd {values : List α} {size : Nat} (fits : values.length ≤ size) :
    (trimEnd blank values).rightpad size blank = values.rightpad size blank := by
  obtain ⟨count, split⟩ : ∃ count, values = trimEnd blank values ++ List.replicate count blank :=
    exists_append_replicate values
  have length : values.length = (trimEnd blank values).length + count := by
    have total := congrArg List.length split
    rw [List.length_append, List.length_replicate] at total
    exact total
  have spare : size - (trimEnd blank values).length = count + (size - values.length) := by
    omega
  have whole : values.rightpad size blank =
      trimEnd blank values ++ List.replicate count blank ++
        List.replicate (size - values.length) blank := by
    rw [← split]
    rfl
  rw [whole, List.append_assoc, ← List.replicate_add, ← spare]
  rfl

/-- Filled up to one size, two lists are the same exactly when they agree up to blanks at their
ends. -/
theorem rightpad_eq_rightpad_iff {first second : List α} {size : Nat}
    (fits : first.length ≤ size) (fits' : second.length ≤ size) :
    first.rightpad size blank = second.rightpad size blank ↔
      trimEnd blank first = trimEnd blank second := by
  constructor
  · intro same
    have trimmed : ∀ values : List α,
        trimEnd blank (values.rightpad size blank) = trimEnd blank values :=
      fun values => trimEnd_append_replicate values _
    rw [← trimmed first, same, trimmed second]
  · intro same
    rw [← rightpad_trimEnd fits, same, rightpad_trimEnd fits']

/-- The trimmed part is the only way to write a list as a value without trailing blanks
followed by blanks. -/
theorem eq_trimEnd_of_append_replicate {values kept : List α} {count : Nat}
    (trimmed : NoTrailing blank kept) (split : values = kept ++ List.replicate count blank) :
    kept = trimEnd blank values := by
  rw [split, trimEnd_append_replicate, trimEnd_eq_self trimmed]

omit [DecidableEq α] in
/-- A prefix that does not end in a blank does not reach into the blanks at the end. -/
theorem prefix_append_replicate_iff {values body : List α} (trimmed : NoTrailing blank values)
    (count : Nat) : values <+: body ++ List.replicate count blank ↔ values <+: body := by
  constructor
  · rintro ⟨rest, split⟩
    rcases List.append_eq_append_iff.mp split with ⟨more, longer, -⟩ | ⟨more, longer, blanks⟩
    · exact ⟨more, longer.symm⟩
    · cases more with
      | nil =>
          refine ⟨[], ?_⟩
          rw [List.append_nil, longer, List.append_nil]
      | cons first more =>
          have all : ∀ value ∈ first :: more, value = blank := by
            intro value member
            apply List.eq_of_mem_replicate
            rw [blanks]
            exact List.mem_append_left _ member
          have last := all _ (List.getLast_mem (List.cons_ne_nil first more))
          refine (trimmed ?_).elim
          rw [longer, List.getLast?_append_of_ne_nil _ (List.cons_ne_nil first more),
            List.getLast?_eq_some_getLast (List.cons_ne_nil first more), last]
  · exact fun inside => inside.trans (List.prefix_append _ _)

/-- What stands before the first blank does not end in one. -/
theorem noTrailing_takeWhile (values : List α) :
    NoTrailing blank (values.takeWhile fun value => value ≠ blank) := by
  intro ending
  have kept := List.mem_takeWhile_imp (List.mem_of_getLast? ending)
  exact of_decide_eq_true kept rfl

/-- Cutting a list at its first blank takes off no more than the blanks at its end just when
there are only blanks from there on. -/
theorem trimEnd_takeWhile_iff {values : List α} :
    trimEnd blank values = trimEnd blank (values.takeWhile fun value => value ≠ blank) ↔
      ∀ value ∈ values.dropWhile fun value => value ≠ blank, value = blank := by
  have split : (values.takeWhile fun value => value ≠ blank) ++
      (values.dropWhile fun value => value ≠ blank) = values := List.takeWhile_append_dropWhile
  constructor
  · intro same value member
    obtain ⟨count, padded⟩ : ∃ count, values = trimEnd blank values ++
        List.replicate count blank := exists_append_replicate values
    rw [same, trimEnd_eq_self (noTrailing_takeWhile values)] at padded
    have blanks := List.append_cancel_left (split.trans padded)
    rw [blanks] at member
    exact List.eq_of_mem_replicate member
  · intro blanks
    have padded := split
    rw [List.eq_replicate_of_mem blanks] at padded
    rw [← padded, trimEnd_append_replicate, padded]

omit [DecidableEq α] in
theorem length_rightpad_of_le {values : List α} {size : Nat} (fits : values.length ≤ size) :
    (values.rightpad size blank).length = size := by
  unfold List.rightpad
  rw [List.length_append, List.length_replicate]
  omega

end Bytes
