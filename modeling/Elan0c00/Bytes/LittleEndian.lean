import Mathlib.Data.Nat.Digits.Defs
import Mathlib.Tactic.Common

/-! # Little-endian words

Bytes are the digits of a number, the first one lowest. Shifting up to four of them into a word
of 32 bits loses nothing (`Bytes.toNat_fromLe`), and the lowest bytes of a word are the digits
of its number (`Bytes.leBytes_eq`).
-/

namespace Bytes

/-- Shift bytes into a word, the last one first. -/
def fromLe (data : List UInt8) : UInt32 := data.foldr (fun x a => (a <<< 8) ||| x.toUInt32) 0

/-- The lowest bytes of a word, the lowest one first. -/
def leBytes : Nat → UInt32 → List UInt8
  | 0, _ => []
  | n + 1, val => val.toUInt8 :: leBytes n (val >>> 8)

theorem length_leBytes (n : Nat) (val : UInt32) : (leBytes n val).length = n := by
  induction n generalizing val with
  | zero => rfl
  | succ n ih => exact congrArg Nat.succ (ih (val >>> 8))

variable {data : List UInt8}

theorem ofDigits_lt (data : List UInt8) :
    Nat.ofDigits 256 (data.map UInt8.toNat) < 256 ^ data.length := by
  rw [← List.length_map UInt8.toNat]
  apply Nat.ofDigits_lt_base_pow_length (by decide)
  intro digit member
  obtain ⟨byte, _, rfl⟩ := List.mem_map.mp member
  exact byte.toNat_lt

/-- A word is the number that its bytes are the digits of. -/
theorem toNat_fromLe (short : data.length ≤ 4) :
    (fromLe data).toNat = Nat.ofDigits 256 (data.map UInt8.toNat) := by
  induction data with
  | nil => rfl
  | cons byte data ih =>
      have rest := ih (Nat.le_of_succ_le short)
      have room : Nat.ofDigits 256 (data.map UInt8.toNat) < 256 ^ 3 :=
        Nat.lt_of_lt_of_le (ofDigits_lt data)
          (Nat.pow_le_pow_right (by decide) (Nat.le_of_succ_le_succ short))
      have shifted : (fromLe data <<< 8).toNat = (fromLe data).toNat <<< 8 := by
        rw [UInt32.toNat_shiftLeft, Nat.shiftLeft_eq, Nat.shiftLeft_eq, rest]
        change _ * 2 ^ 8 % 2 ^ 32 = _
        omega
      change (fromLe data <<< 8 ||| byte.toUInt32).toNat = _
      rw [UInt32.toNat_or, shifted, UInt8.toNat_toUInt32,
        ← Nat.shiftLeft_add_eq_or_of_lt byte.toNat_lt, Nat.shiftLeft_eq, rest, List.map_cons,
        Nat.ofDigits_cons]
      change _ * 256 + _ = byte.toNat + _
      omega

/-- The lowest bytes of a word are the digits of its number. -/
theorem leBytes_eq {val : UInt32} (value : val.toNat = Nat.ofDigits 256 (data.map UInt8.toNat)) :
    leBytes data.length val = data := by
  induction data generalizing val with
  | nil => rfl
  | cons byte data ih =>
      have bound := byte.toNat_lt
      rw [List.map_cons, Nat.ofDigits_cons] at value
      have first : val.toUInt8 = byte := by
        apply UInt8.toNat_inj.mp
        rw [UInt32.toNat_toUInt8, value]
        change (byte.toNat + 256 * _) % 256 = _
        omega
      have others : (val >>> 8).toNat = Nat.ofDigits 256 (data.map UInt8.toNat) := by
        rw [UInt32.toNat_shiftRight, Nat.shiftRight_eq_div_pow, value]
        change (byte.toNat + 256 * _) / 256 = _
        omega
      rw [List.length_cons, leBytes, first, ih others]

end Bytes
