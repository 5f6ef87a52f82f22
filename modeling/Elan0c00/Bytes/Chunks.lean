import Mathlib.Data.List.Basic
import Mathlib.Logic.Relation
import Mathlib.Tactic.Common

/-! # Buffers made of chunks

A format whose records tell their own size is a `Splitter`: it says how much of a buffer its
first chunk takes, if there is one. Walking over the chunks of a buffer visits the offsets that
`Splitter.Reaches` describes, and no others (`Splitter.mem_chunksFrom_iff`). A concatenation of
records is taken apart into these very records (`Splitter.chunksFrom_flatten`). Where one format
refines another, their walks agree up to an offset at which only the coarser one goes on
(`Splitter.Refines.reaches_or`).
-/

namespace Bytes

variable {α : Type}

/-- How much of a buffer its first chunk takes, if the buffer begins with one. -/
structure Splitter (α : Type) where
  size : List α → Option Nat
  positive : ∀ {buffer : List α} {n : Nat}, size buffer = some n → 0 < n
  inside : ∀ {buffer : List α} {n : Nat}, size buffer = some n → n ≤ buffer.length

namespace Splitter

variable (splitter : Splitter α)

/-- A chunk takes the buffer from one offset to the other. -/
def Step (buffer : List α) (offset next : Nat) : Prop :=
  ∃ n, splitter.size (buffer.drop offset) = some n ∧ next = offset + n

/-- Chunks, or none, take the buffer from one offset to the other. -/
def Reaches (buffer : List α) : Nat → Nat → Prop :=
  Relation.ReflTransGen (splitter.Step buffer)

/-- The chunks of a buffer from an offset on, each with the offset it begins at. -/
def chunksFrom (buffer : List α) (offset : Nat) : List (Nat × List α) :=
  match _sized : splitter.size (buffer.drop offset) with
  | none => []
  | some n => (offset, (buffer.drop offset).take n) :: chunksFrom buffer (offset + n)
termination_by buffer.length - offset
decreasing_by
  have positive := splitter.positive _sized
  have inside := splitter.inside _sized
  rw [List.length_drop] at inside
  omega

variable {splitter} {buffer : List α} {offset next n : Nat}

theorem chunksFrom_of_none (stuck : splitter.size (buffer.drop offset) = none) :
    splitter.chunksFrom buffer offset = [] := by
  rw [chunksFrom]
  split
  next => rfl
  next sized => exact nomatch stuck.symm.trans sized

theorem chunksFrom_of_some (sized : splitter.size (buffer.drop offset) = some n) :
    splitter.chunksFrom buffer offset =
      (offset, (buffer.drop offset).take n) :: splitter.chunksFrom buffer (offset + n) := by
  rw [chunksFrom]
  split
  next stuck => exact nomatch stuck.symm.trans sized
  next m sized' =>
    cases sized.symm.trans sized'
    rfl

/-- The walk visits every offset that chunks reach and at which one begins, and takes that one. -/
theorem mem_chunksFrom_iff {chunk : List α} :
    (next, chunk) ∈ splitter.chunksFrom buffer offset ↔
      splitter.Reaches buffer offset next ∧
        ∃ n, splitter.size (buffer.drop next) = some n ∧ chunk = (buffer.drop next).take n := by
  induction offset using chunksFrom.induct splitter buffer with
  | case1 offset stuck =>
      rw [chunksFrom_of_none stuck]
      apply iff_of_false List.not_mem_nil
      rintro ⟨reached, n, sized, _⟩
      rcases Relation.ReflTransGen.cases_head reached with rfl | ⟨_, ⟨m, sized', _⟩, _⟩
      · exact nomatch stuck.symm.trans sized
      · exact nomatch stuck.symm.trans sized'
  | case2 offset n sized ih =>
      rw [chunksFrom_of_some sized, List.mem_cons, ih, Prod.mk.injEq]
      constructor
      · rintro (⟨rfl, rfl⟩ | ⟨reached, here⟩)
        · exact ⟨.refl, n, sized, rfl⟩
        · exact ⟨.head ⟨n, sized, rfl⟩ reached, here⟩
      · rintro ⟨reached, here⟩
        rcases Relation.ReflTransGen.cases_head reached with rfl | ⟨_, ⟨m, sized', rfl⟩, rest⟩
        · obtain ⟨m, sized', taken⟩ := here
          cases sized.symm.trans sized'
          exact .inl ⟨rfl, taken⟩
        · cases sized.symm.trans sized'
          exact .inr ⟨rest, here⟩

/-- Records that a splitter takes whole are what it makes of their concatenation, up to a tail
that begins with no chunk. -/
theorem chunksFrom_flatten {records : List (List α)} {tail : List α}
    (whole : ∀ record ∈ records, ∀ rest, splitter.size (record ++ rest) = some record.length)
    (unfinished : splitter.size tail = none) (front : List α) :
    (splitter.chunksFrom (front ++ (records.flatten ++ tail)) front.length).map Prod.snd =
      records := by
  induction records generalizing front with
  | nil =>
      rw [chunksFrom_of_none (by rwa [List.drop_left])]
      rfl
  | cons record records ih =>
      have sized := whole record (.head _) (records.flatten ++ tail)
      have rest := ih (fun other member => whole other (.tail _ member)) (front ++ record)
      rw [List.append_assoc, List.length_append] at rest
      rw [List.flatten_cons, List.append_assoc,
        chunksFrom_of_some (by rwa [List.drop_left]), List.map_cons, rest, List.drop_left,
        List.take_left]

theorem Reaches.le (reached : splitter.Reaches buffer offset next) : offset ≤ next := by
  induction reached with
  | refl => exact Nat.le_refl offset
  | tail _ step ih =>
      obtain ⟨n, _, rfl⟩ := step
      exact Nat.le_trans ih (Nat.le_add_right _ n)

/-- Where no chunk begins the walk ends. -/
theorem Reaches.eq_of_none (reached : splitter.Reaches buffer offset next)
    (stuck : splitter.size (buffer.drop offset) = none) : next = offset := by
  rcases Relation.ReflTransGen.cases_head reached with same | ⟨_, ⟨n, sized, _⟩, _⟩
  · exact same.symm
  · exact nomatch stuck.symm.trans sized

/-- Of two offsets on one walk the one is reached from the other. -/
theorem Reaches.total {other : Nat} (reached : splitter.Reaches buffer offset next)
    (reached' : splitter.Reaches buffer offset other) :
    splitter.Reaches buffer next other ∨ splitter.Reaches buffer other next := by
  have deterministic : Relator.RightUnique (splitter.Step buffer) := by
    rintro first second third ⟨n, sized, rfl⟩ ⟨m, sized', rfl⟩
    cases sized.symm.trans sized'
    rfl
  exact Relation.ReflTransGen.total_of_right_unique deterministic reached reached'

/-- Every chunk of the one format is a chunk of the other. -/
def Refines (fine coarse : Splitter α) : Prop :=
  ∀ buffer n, fine.size buffer = some n → coarse.size buffer = some n

variable {fine coarse : Splitter α}

theorem Refines.reaches (refines : fine.Refines coarse)
    (reached : fine.Reaches buffer offset next) : coarse.Reaches buffer offset next := by
  refine Relation.ReflTransGen.mono ?_ _ _ reached
  rintro first second ⟨n, sized, rfl⟩
  exact ⟨n, refines _ n sized, rfl⟩

/-- The walk of the coarser format is one of the finer, or leaves it at an offset where only
the coarser finds a chunk. -/
theorem Refines.reaches_or (refines : fine.Refines coarse)
    (reached : coarse.Reaches buffer offset next) :
    fine.Reaches buffer offset next ∨
      ∃ split n, fine.Reaches buffer offset split ∧ fine.size (buffer.drop split) = none ∧
        coarse.size (buffer.drop split) = some n ∧ coarse.Reaches buffer (split + n) next := by
  induction reached using Relation.ReflTransGen.head_induction_on with
  | refl => exact .inl .refl
  | head step rest ih =>
      obtain ⟨n, sized, rfl⟩ := step
      cases fined : fine.size (buffer.drop _) with
      | none => exact .inr ⟨_, n, .refl, fined, sized, rest⟩
      | some m =>
          cases sized.symm.trans (refines _ m fined)
          rcases ih with reached | ⟨split, k, reached, stuck, going, last⟩
          · exact .inl (.head ⟨n, fined, rfl⟩ reached)
          · exact .inr ⟨split, k, .head ⟨n, fined, rfl⟩ reached, stuck, going, last⟩

end Splitter

end Bytes
