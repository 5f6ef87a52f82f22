import Mathlib.Data.List.Basic
import Mathlib.Tactic.Common

/-! # Checked access to buffers

A buffer is a list. Every read or write names the positions it touches and faults when one
of them is not there, so that a computation without a fault is one that stayed inside its
buffers. A computation is safe by lemmas of the form `access … = .ok …`, one for each kind
of access.
-/

namespace Bytes

/-- The ways an access to a buffer goes wrong. -/
inductive Fault where
  | index (position length : Nat)
  | range (start stop length : Nat)
  | copyLength (destination source : Nat)
  | nullPointer
  | assertion
  deriving DecidableEq, Repr

variable {α : Type}

/-- Read one position. -/
def index (buffer : List α) (position : Nat) : Except Fault α :=
  match buffer[position]? with
  | some value => .ok value
  | none => .error (.index position buffer.length)

/-- Overwrite one position. -/
def write (buffer : List α) (position : Nat) (value : α) : Except Fault (List α) :=
  if position < buffer.length then .ok (buffer.set position value)
  else .error (.index position buffer.length)

/-- The positions from `start` up to `stop`. -/
def slice (buffer : List α) (start stop : Nat) : Except Fault (List α) :=
  if start ≤ stop ∧ stop ≤ buffer.length then .ok ((buffer.take stop).drop start)
  else .error (.range start stop buffer.length)

/-- The positions from `start` to the end. -/
def sliceFrom (buffer : List α) (start : Nat) : Except Fault (List α) :=
  if start ≤ buffer.length then .ok (buffer.drop start)
  else .error (.range start buffer.length buffer.length)

/-- Overwrite the positions from `start` up to `stop` by a source of that very length. -/
def copyFromSlice (buffer : List α) (start stop : Nat) (source : List α) :
    Except Fault (List α) :=
  if start ≤ stop ∧ stop ≤ buffer.length then
    if stop - start = source.length then
      .ok (buffer.take start ++ source ++ buffer.drop stop)
    else .error (.copyLength (stop - start) source.length)
  else .error (.range start stop buffer.length)

/-- Overwrite `count` positions of a destination by as many positions of a source, both
ranges checked. -/
def copyRange (destination : List α) (target : Nat) (source : List α) (origin count : Nat) :
    Except Fault (List α) := do
  let chunk ← slice source origin (origin + count)
  copyFromSlice destination target (target + count) chunk

/-- `copyRange` through a pointer to the source, which may be NULL. -/
def memcpy (destination : List α) (target : Nat) (source : Option (List α))
    (origin count : Nat) : Except Fault (List α) :=
  match source with
  | some bytes => copyRange destination target bytes origin count
  | none => .error .nullPointer

/-- Stop unless a condition holds. -/
def require (condition : Prop) [Decidable condition] : Except Fault Unit :=
  if condition then .ok () else .error .assertion

/-- A sequence ends without a fault only if both its parts do. -/
theorem bind_eq_ok {β : Type} {first : Except Fault α} {rest : α → Except Fault β} {result : β}
    (ends : first >>= rest = .ok result) :
    ∃ value, first = .ok value ∧ rest value = .ok result := by
  cases first with
  | error fault => cases ends
  | ok value => exact ⟨value, rfl, ends⟩

theorem index_eq_ok {buffer : List α} {position : Nat} {value : α}
    (here : buffer[position]? = some value) : index buffer position = .ok value := by
  unfold index
  rw [here]

@[simp] theorem index_cons_zero (value : α) (rest : List α) :
    index (value :: rest) 0 = .ok value := rfl

theorem write_eq_ok {buffer : List α} {position : Nat} (inside : position < buffer.length)
    (value : α) : write buffer position value = .ok (buffer.set position value) :=
  if_pos inside

theorem write_eq_error {buffer : List α} {position : Nat} (outside : buffer.length ≤ position)
    (value : α) : write buffer position value = .error (.index position buffer.length) :=
  if_neg (Nat.not_lt_of_le outside)

theorem require_eq_ok {condition : Prop} [Decidable condition] (holds : condition) :
    require condition = .ok () :=
  if_pos holds

theorem write_append (front : List α) (old value : α) (back : List α) :
    write (front ++ old :: back) front.length value = .ok (front ++ value :: back) := by
  have inside : front.length < (front ++ old :: back).length := by
    rw [List.length_append, List.length_cons]
    omega
  unfold write
  rw [if_pos inside, List.set_append_right _ _ (Nat.le_refl _), Nat.sub_self, List.set_cons_zero]

theorem slice_eq_ok {buffer : List α} {start stop : Nat} (ordered : start ≤ stop)
    (inside : stop ≤ buffer.length) :
    slice buffer start stop = .ok ((buffer.take stop).drop start) :=
  if_pos ⟨ordered, inside⟩

theorem sliceFrom_eq_ok {buffer : List α} {start : Nat} (inside : start ≤ buffer.length) :
    sliceFrom buffer start = .ok (buffer.drop start) :=
  if_pos inside

/-- Copying over a middle part of the source's length keeps what stands on either side. -/
theorem copyFromSlice_append (front middle back source : List α)
    (same : middle.length = source.length) :
    copyFromSlice (front ++ (middle ++ back)) front.length (front.length + source.length) source =
      .ok (front ++ (source ++ back)) := by
  have inside : front.length + source.length ≤ (front ++ (middle ++ back)).length := by
    rw [List.length_append, List.length_append]
    omega
  unfold copyFromSlice
  rw [if_pos ⟨Nat.le_add_right _ _, inside⟩, if_pos (Nat.add_sub_cancel_left _ _),
    List.take_left, ← same, ← List.append_assoc front middle back, ← List.length_append,
    List.drop_left, List.append_assoc]

/-- A copy inside both buffers never faults, and replaces just the target range. -/
theorem copyRange_eq_ok {destination source : List α} {target origin count : Nat}
    (readable : origin + count ≤ source.length) (writable : target + count ≤ destination.length) :
    copyRange destination target source origin count =
      .ok (destination.take target ++ (source.drop origin).take count ++
        destination.drop (target + count)) := by
  have chunk : (source.take (origin + count)).drop origin = (source.drop origin).take count := by
    rw [List.drop_take, Nat.add_sub_cancel_left]
  have full : ((source.drop origin).take count).length = count := by
    rw [List.length_take, List.length_drop]
    omega
  unfold copyRange
  rw [slice_eq_ok (Nat.le_add_right _ _) readable, chunk]
  change copyFromSlice destination target (target + count) _ = _
  unfold copyFromSlice
  rw [if_pos ⟨Nat.le_add_right _ _, writable⟩, full, if_pos (Nat.add_sub_cancel_left _ _)]

/-- A copy reading past the end of its source faults, whatever the destination. -/
theorem copyRange_eq_error {destination source : List α} {target origin count : Nat}
    (unreadable : source.length < origin + count) :
    copyRange destination target source origin count =
      .error (.range origin (origin + count) source.length) := by
  unfold copyRange slice
  rw [if_neg fun bounds => Nat.not_le_of_lt unreadable bounds.2]
  rfl

/-- A copy inside both buffers through a pointer that is there. -/
theorem memcpy_eq_ok {destination source : List α} {target origin count : Nat}
    (readable : origin + count ≤ source.length) (writable : target + count ≤ destination.length) :
    memcpy destination target (some source) origin count =
      .ok (destination.take target ++ (source.drop origin).take count ++
        destination.drop (target + count)) :=
  copyRange_eq_ok readable writable

/-- A copy into a fresh buffer leaves what was spared of it. -/
theorem memcpy_replicate {source : List α} {origin count : Nat}
    (readable : origin + count ≤ source.length) (spare : Nat) (blank : α) :
    memcpy (List.replicate (count + spare) blank) 0 (some source) origin count =
      .ok ((source.drop origin).take count ++ List.replicate spare blank) := by
  have writable : 0 + count ≤ (List.replicate (count + spare) blank).length := by
    rw [List.length_replicate]
    omega
  rw [memcpy_eq_ok readable writable, List.take_zero, List.nil_append, List.drop_replicate,
    Nat.zero_add, Nat.add_sub_cancel_left]

/-- A copy of more than there is faults, and NULL points at nothing. -/
theorem memcpy_fails {destination : List α} {source : Option (List α)} {target origin count : Nat}
    (unreadable : (source.getD []).length < origin + count) :
    ∃ fault, memcpy destination target source origin count = .error fault := by
  cases source with
  | none => exact ⟨_, rfl⟩
  | some bytes => exact ⟨_, copyRange_eq_error unreadable⟩

end Bytes
