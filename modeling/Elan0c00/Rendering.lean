import Elan0c00.Display
import Elan0c00.Formats.Kinds
import Elan0c00.System

/-! # The values of a line

How the values in a line are written: bytes in hexadecimal, which can be read back (`hex_inj`),
the description of a status, and quoted texts, in which no character is written like the beginning
of another (`escapeDebug_apart`). What is said by code that is not here is left open (`Wording`).
-/

namespace Elan0c00

open Formats

/-! ### Values -/

/-- What `rusb` says of a failure, and which characters the standard library shows by their code
in a quoted text. -/
structure Wording where
  usb : UsbError → String
  free : ∀ e e', (usb e).toList <+: (usb e').toList → e = e'
  coded : Char → Bool

/-- Short human-readable description of a status. -/
def Status.describe : Status → String
  | .ok _ => "ok"
  | .moveDown => "move finger down"
  | .moveRight => "move finger right"
  | .moveUp => "move finger up"
  | .moveLeft => "move finger left"
  | .maxEnrolledReached => "sensor storage full"
  | .sensorDirty => "sensor surface dirty"
  | .notEnrolled => "no matching enrolled finger"
  | .notEnoughSurface => "not enough finger surface on sensor"
  | .rejected => "command rejected by sensor"
  | .unknown _ => "unknown status"

def descriptions : List String :=
  ["ok", "move finger down", "move finger right", "move finger up", "move finger left",
    "sensor storage full", "sensor surface dirty", "no matching enrolled finger",
    "not enough finger surface on sensor", "command rejected by sensor", "unknown status"]

theorem Status.describe_mem (st : Status) : st.describe ∈ descriptions := by
  cases st <;> simp [describe, descriptions]

/-- The names of the commands. -/
def commandNames : List String :=
  [Proto.getFwVer, Proto.getEnrolledCount, Proto.fingerInfo, Proto.checkEnrollCollision, Proto.abort,
    Proto.identify, Proto.enroll, Proto.commit, Proto.delete, Proto.wipeSensor].map Cmd.name

/-- Bytes in hexadecimal, with spaces between them. -/
def hex (bytes : List UInt8) : List Char := [' '].intercalate (bytes.map hexByte)

/-- The character can stand in bytes in hexadecimal. -/
def isHex (c : Char) : Bool := "0123456789abcdef ".toList.contains c

theorem isHex_hexDigit : ∀ n < 16, isHex (hexDigit n) = true := by decide

theorem isHex_hexByte {b : UInt8} {c : Char} (digit : c ∈ hexByte b) : isHex c = true := by
  have bounded := b.toNat_lt
  rcases List.mem_cons.mp digit with rfl | rest
  · exact isHex_hexDigit _ (by omega)
  · rw [List.mem_singleton.mp rest]
    exact isHex_hexDigit _ (by omega)

theorem hex_cons_cons (b c : UInt8) (bytes : List UInt8) :
    hex (b :: c :: bytes) = hexByte b ++ ' ' :: hex (c :: bytes) := rfl

theorem isHex_of_mem {bytes : List UInt8} {c : Char} (member : c ∈ hex bytes) : isHex c = true := by
  induction bytes with
  | nil => cases member
  | cons b bytes ih =>
      cases bytes with
      | nil => exact isHex_hexByte (b := b) (by simpa [hex] using member)
      | cons d bytes =>
          rw [hex_cons_cons] at member
          rcases List.mem_append.mp member with here | later
          · exact isHex_hexByte here
          · rcases List.mem_cons.mp later with rfl | later
            · decide
            · exact ih later

/-- The bytes can be read back. -/
theorem hex_inj {first second : List UInt8} (same : hex first = hex second) : first = second := by
  induction first generalizing second with
  | nil =>
      cases second with
      | nil => rfl
      | cons c second => cases second <;> cases same
  | cons b first ih =>
      cases second with
      | nil => cases first <;> cases same
      | cons c second =>
          cases first with
          | nil =>
              cases second with
              | nil => rw [hexByte_inj (b := b) (c := c) (by simpa [hex] using same)]
              | cons d second =>
                  have lengths := congrArg List.length same
                  rw [hex_cons_cons, List.length_append] at lengths
                  simp [hex, hexByte] at lengths
          | cons d first =>
              cases second with
              | nil =>
                  have lengths := congrArg List.length same
                  rw [hex_cons_cons, List.length_append] at lengths
                  simp [hex, hexByte] at lengths
              | cons e second =>
                  rw [hex_cons_cons, hex_cons_cons] at same
                  obtain ⟨heads, tails⟩ := List.append_inj same rfl
                  rw [hexByte_inj heads, ih (List.cons.inj tails).2]

/-! ### Quoted texts -/

/-- How a character stands in a quoted text: as it is, after a backslash, or by its code. -/
def escapeDebug (coded : Char → Bool) (c : Char) : List Char :=
  if c = '\x00' then ['\\', '0']
  else if c = '\t' then ['\\', 't']
  else if c = '\r' then ['\\', 'r']
  else if c = '\n' then ['\\', 'n']
  else if c = '\\' then ['\\', '\\']
  else if c = '"' then ['\\', '"']
  else if coded c then ['\\', 'u', '\x7b'] ++ Nat.toDigits 16 c.toNat ++ ['\x7d']
  else [c]

/-- The characters with a backslash of their own, and what comes after it. -/
def backslashed : List (Char × Char) :=
  [('\x00', '0'), ('\t', 't'), ('\r', 'r'), ('\n', 'n'), ('\\', '\\'), ('"', '"')]

inductive Escaped (c : Char) : List Char → Prop where
  | plain (other : c ≠ '\\') (unquoted : c ≠ '"') : Escaped c [c]
  | short {sign : Char} (known : (c, sign) ∈ backslashed) : Escaped c ['\\', sign]
  | code : Escaped c ('\\' :: 'u' :: '\x7b' :: (Nat.toDigits 16 c.toNat ++ ['\x7d']))

theorem escaped (coded : Char → Bool) (c : Char) : Escaped c (escapeDebug coded c) := by
  unfold escapeDebug
  split
  next same => subst same; exact .short (by decide)
  split
  next same => subst same; exact .short (by decide)
  split
  next same => subst same; exact .short (by decide)
  split
  next same => subst same; exact .short (by decide)
  split
  next same => subst same; exact .short (by decide)
  split
  next same => subst same; exact .short (by decide)
  split
  · exact .code
  next other unquoted _ => exact .plain other unquoted

theorem ne_brace_of_mem {n : Nat} {c : Char} (digit : c ∈ Nat.toDigits 16 n) :
    (c != '\x7d') = true := by
  have never : ∀ digit < 16, (Nat.digitChar digit != '\x7d') = true := by decide
  obtain ⟨d, small, rfl⟩ := exists_digit (by decide) digit
  exact never d small

/-- No character is written like the beginning of another. -/
theorem escapeDebug_apart (coded : Char → Bool) (c d : Char) (s t : List Char)
    (same : escapeDebug coded c ++ s = escapeDebug coded d ++ t) : c = d := by
  have signs : ∀ p ∈ backslashed, p.2 ≠ 'u' ∧ ∀ q ∈ backslashed, p.2 = q.2 → p.1 = q.1 := by
    decide
  have one := escaped coded c
  have other := escaped coded d
  generalize escapeDebug coded c = written at same one
  generalize escapeDebug coded d = written' at same other
  cases one with
  | plain noslash _ =>
      cases other with
      | plain _ _ => exact (List.cons.inj same).1
      | short _ => exact absurd (List.cons.inj same).1 noslash
      | code => exact absurd (List.cons.inj same).1 noslash
  | short known =>
      cases other with
      | plain noslash _ => exact absurd (List.cons.inj same).1.symm noslash
      | short known' =>
          exact (signs _ known).2 _ known' (List.cons.inj (List.cons.inj same).2).1
      | code => exact absurd (List.cons.inj (List.cons.inj same).2).1 (signs _ known).1
  | code =>
      cases other with
      | plain noslash _ => exact absurd (List.cons.inj same).1.symm noslash
      | short known' =>
          exact absurd (List.cons.inj (List.cons.inj same).2).1.symm (signs _ known').1
      | code =>
          simp only [List.cons_append, List.cons.injEq, true_and, List.append_assoc] at same
          have digits := append_inj_of_stop (p := fun c => c != '\x7d') (fun _ => ne_brace_of_mem)
            (fun _ => ne_brace_of_mem) rfl rfl same
          exact Char.toNat_inj.mp (toDigits_inj (by decide) (by decide) digits)

theorem escapeDebug_unquoted (coded : Char → Bool) (c : Char) (s t : List Char) :
    escapeDebug coded c ++ s ≠ '"' :: t := by
  intro same
  have one := escaped coded c
  generalize escapeDebug coded c = written at same one
  cases one with
  | plain _ unquoted => exact unquoted (List.cons.inj same).1
  | short _ => cases same
  | code => cases same

end Elan0c00
