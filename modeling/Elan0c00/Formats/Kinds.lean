import Elan0c00.Formats.Format

/-! # Kinds of values that can be read back

Numbers, also padded, which end where no digit follows; words of a list of which none begins
another; texts up to a character they do not contain; values of one width; and quoted texts, by the
way their characters are escaped.
-/

namespace Formats

/-- Texts of characters of one sort end where the first other character is. -/
theorem append_inj_of_stop {p : Char → Bool} {u v s t : List Char} (inside : ∀ c ∈ u, p c = true)
    (inside' : ∀ c ∈ v, p c = true) (stops : s.head?.any (fun c => !p c) = true)
    (stops' : t.head?.any (fun c => !p c) = true) (same : u ++ s = v ++ t) : u = v := by
  have differ : ∀ {c : Char} {u s : List Char}, p c = true →
      (c :: u ++ s).head?.any (fun c => !p c) = true → False := by
    intro c u s sort stops
    have stop : (!p c) = true := stops
    rw [sort] at stop
    cases stop
  induction u generalizing v with
  | nil =>
      cases v with
      | nil => rfl
      | cons d v =>
          rw [List.nil_append] at same
          rw [same] at stops
          exact absurd stops (differ (inside' d List.mem_cons_self))
  | cons c u ih =>
      cases v with
      | nil =>
          rw [List.nil_append] at same
          rw [← same] at stops'
          exact absurd stops' (differ (inside c List.mem_cons_self))
      | cons d v =>
          obtain ⟨rfl, tails⟩ := List.cons.inj same
          rw [ih (fun c member => inside c (List.mem_cons_of_mem _ member))
            (fun c member => inside' c (List.mem_cons_of_mem _ member)) tails]

/-- Values printed as those of a kind. -/
def Kind.via {shape : Shape} (kind : Kind shape) {α : Type} (f : α → kind.Value)
    (injective : Function.Injective f) : Kind shape where
  Value := α
  print a := kind.print (f a)
  Legal a := kind.Legal (f a)
  begins a := kind.begins (f a)
  determines a b legal legal' s t stops stops' same :=
    injective (kind.determines (f a) (f b) legal legal' s t stops stops' same)

/-! ### Numbers -/

/-- The digits of a number are digits. -/
theorem exists_digit {base n : Nat} (large : 1 < base) {c : Char}
    (member : c ∈ Nat.toDigits base n) : ∃ digit < base, c = digit.digitChar := by
  induction n using Nat.base_induction base large with
  | single m small =>
      rw [Nat.toDigits_of_lt_base small] at member
      exact ⟨m, small, List.mem_singleton.mp member⟩
  | digit m k small positive ih =>
      rw [← Nat.toDigits_append_toDigits large positive small,
        Nat.toDigits_of_lt_base small] at member
      rcases List.mem_append.mp member with before | last
      · exact ih before
      · exact ⟨k, small, List.mem_singleton.mp last⟩

def decimalDigits : List (List Char) := (List.range 10).map fun digit => [digit.digitChar]

theorem exists_decimal_head (n : Nat) : ∃ head ∈ decimalDigits, head <+: Nat.toDigits 10 n := by
  cases digits : Nat.toDigits 10 n with
  | nil => exact absurd digits Nat.toDigits_ne_nil
  | cons c rest =>
      have first : c ∈ Nat.toDigits 10 n := by
        rw [digits]
        exact List.mem_cons_self
      obtain ⟨digit, small, rfl⟩ := exists_digit (by decide) first
      exact ⟨_, List.mem_map_of_mem (List.mem_range.mpr small), rest, rfl⟩

theorem isDigit_of_mem {n : Nat} {c : Char} (member : c ∈ Nat.toDigits 10 n) : c.isDigit = true :=
  Nat.isDigit_of_mem_toDigits (by decide) (by decide) member

theorem digitChar_inj : ∀ m < 16, ∀ n < 16, Nat.digitChar m = Nat.digitChar n → m = n := by
  decide

/-- The digits show the number. -/
theorem toDigits_inj {base m n : Nat} (large : 1 < base) (known : base ≤ 16)
    (same : Nat.toDigits base m = Nat.toDigits base n) : m = n := by
  have single : ∀ {k l : Nat}, k < base → base ≤ l → Nat.toDigits base k ≠ Nat.toDigits base l := by
    intro k l small long same
    rw [Nat.toDigits_of_lt_base small, Nat.toDigits_of_base_le large long,
      ← List.nil_append [k.digitChar]] at same
    have none : [] = Nat.toDigits base (l / base) := (List.append_inj' same rfl).1
    exact Nat.toDigits_ne_nil none.symm
  have positive : 0 < base := Nat.zero_lt_of_lt large
  induction m using Nat.base_induction base large generalizing n with
  | single m small =>
      rcases Nat.lt_or_ge n base with small' | long
      · rw [Nat.toDigits_of_lt_base small, Nat.toDigits_of_lt_base small'] at same
        exact digitChar_inj m (Nat.lt_of_lt_of_le small known) n (Nat.lt_of_lt_of_le small' known)
          (List.head_eq_of_cons_eq same)
      · exact absurd same (single small long)
  | digit m k small nonzero ih =>
      have long : base ≤ base * m + k :=
        Nat.le_trans (Nat.le_mul_of_pos_right base nonzero) (Nat.le_add_right _ k)
      rcases Nat.lt_or_ge n base with small' | long'
      · exact absurd same.symm (single small' long)
      · rw [← Nat.toDigits_append_toDigits large nonzero small, Nat.toDigits_of_lt_base small,
          Nat.toDigits_of_base_le large long'] at same
        obtain ⟨front, last⟩ := List.append_inj' same rfl
        have below : n % base < base := Nat.mod_lt n positive
        have ends := digitChar_inj k (Nat.lt_of_lt_of_le small known) (n % base)
          (Nat.lt_of_lt_of_le below known) (List.head_eq_of_cons_eq last)
        rw [ih front, ends]
        exact Nat.div_add_mod n base

def numberShape : Shape where
  follow c := !c.isDigit
  heads := decimalDigits

/-- A number in decimal. -/
def number : Kind numberShape where
  Value := Nat
  print := Nat.toDigits 10
  Legal _ := True
  begins n _ := exists_decimal_head n
  determines _ _ _ _ _ _ stops stops' same :=
    toDigits_inj (by decide) (by decide)
      (append_inj_of_stop (fun _ => isDigit_of_mem) (fun _ => isDigit_of_mem) stops stops' same)

/-- A number in decimal, with spaces in front of one that has a single digit. -/
def spaced (n : Nat) : List Char :=
  List.replicate (2 - (Nat.toDigits 10 n).length) ' ' ++ Nat.toDigits 10 n

/-- A number in decimal, with a zero in front of one that has a single digit. -/
def zeroed (n : Nat) : List Char :=
  List.replicate (2 - (Nat.toDigits 10 n).length) '0' ++ Nat.toDigits 10 n

theorem filter_spaced (n : Nat) : (spaced n).filter Char.isDigit = Nat.toDigits 10 n := by
  rw [spaced, List.filter_append, List.filter_eq_self.mpr fun _ => isDigit_of_mem,
    List.filter_eq_nil_iff.mpr, List.nil_append]
  intro c member
  rw [List.eq_of_mem_replicate member]
  decide

theorem ofDigitChars_zeroed (n : Nat) : Nat.ofDigitChars 10 (zeroed n) 0 = n := by
  rw [zeroed, Nat.ofDigitChars_append, Nat.ofDigitChars_replicate_zero, Nat.mul_zero,
    Nat.ofDigitChars_ten_toDigits]

theorem mem_padded {p : Char → Bool} {pad : Char} (padding : p pad = true)
    (digits : ∀ c, c.isDigit = true → p c = true) {k n : Nat} {c : Char}
    (member : c ∈ List.replicate k pad ++ Nat.toDigits 10 n) : p c = true := by
  rcases List.mem_append.mp member with before | digit
  · rw [List.eq_of_mem_replicate before]
    exact padding
  · exact digits c (isDigit_of_mem digit)

/-- The character can stand in a number with spaces in front. -/
def isSpaced (c : Char) : Bool := c.isDigit || c == ' '

theorem isSpaced_of_mem {n : Nat} {c : Char} (member : c ∈ spaced n) : isSpaced c = true :=
  mem_padded (p := isSpaced) (by decide) (fun c digit => by rw [isSpaced, digit, Bool.true_or])
    member

def spacedNumber : Kind ⟨fun c => !isSpaced c, [[]]⟩ where
  Value := Nat
  print := spaced
  Legal _ := True
  begins _ _ := ⟨[], List.mem_singleton_self _, List.nil_prefix⟩
  determines m n _ _ _ _ stops stops' same := by
    have texts : spaced m = spaced n :=
      append_inj_of_stop (fun _ => isSpaced_of_mem) (fun _ => isSpaced_of_mem) stops stops' same
    refine @toDigits_inj 10 m n (by decide) (by decide) ?_
    rw [← filter_spaced m, texts, filter_spaced]

theorem isDigit_of_mem_zeroed {n : Nat} {c : Char} (member : c ∈ zeroed n) : c.isDigit = true :=
  mem_padded (by decide) (fun _ => id) member

def zeroedNumber : Kind ⟨fun c => !c.isDigit, [[]]⟩ where
  Value := Nat
  print := zeroed
  Legal _ := True
  begins _ _ := ⟨[], List.mem_singleton_self _, List.nil_prefix⟩
  determines m n _ _ _ _ stops stops' same := by
    have texts : zeroed m = zeroed n := append_inj_of_stop (fun _ => isDigit_of_mem_zeroed)
      (fun _ => isDigit_of_mem_zeroed) stops stops' same
    rw [← ofDigitChars_zeroed m, texts, ofDigitChars_zeroed]

/-! ### Texts -/

/-- The characters after a text that shows by itself where it ends. -/
def anyShape (heads : List (List Char)) : Shape := ⟨fun _ => true, heads⟩

/-- One of some words, of which none begins like another. -/
def word (words : List String)
    (apart : words.Pairwise fun s t => clash s.toList t.toList = true) :
    Kind (anyShape (words.map String.toList)) where
  Value := String
  print := String.toList
  Legal s := s ∈ words
  begins s legal := ⟨s.toList, List.mem_map_of_mem legal, List.prefix_rfl⟩
  determines s t legal legal' rest rest' _ _ same := by
    by_contra different
    have never : words.Pairwise fun s t => ∀ text, ¬ (s.toList <+: text ∧ t.toList <+: text) :=
      apart.imp fun differ text both => not_prefix_of_clash differ both.1 both.2
    have symmetric : Std.Symm fun s t : String =>
        ∀ text, ¬ (s.toList <+: text ∧ t.toList <+: text) :=
      ⟨fun s t apart text both => apart text both.symm⟩
    exact never.forall legal legal' different _
      ⟨List.prefix_append _ rest, same ▸ List.prefix_append _ rest'⟩

/-- Values whose texts are of one length. -/
def fixed {α : Type} (width : Nat) (print : α → List Char)
    (long : ∀ a, (print a).length = width) (injective : Function.Injective print) :
    Kind (anyShape [[]]) where
  Value := α
  print := print
  Legal _ := True
  begins _ _ := ⟨[], List.mem_singleton_self _, List.nil_prefix⟩
  determines a b _ _ _ _ _ _ same :=
    injective (List.append_inj same ((long a).trans (long b).symm)).1

/-- Values of which no text begins the text of another. -/
def prefixFree {α : Type} (print : α → List Char)
    (free : ∀ a b, print a <+: print b → a = b) : Kind (anyShape [[]]) where
  Value := α
  print := print
  Legal _ := True
  begins _ _ := ⟨[], List.mem_singleton_self _, List.nil_prefix⟩
  determines a b _ _ s t _ _ same := by
    have one : print a <+: print b ++ t := ⟨s, same⟩
    have other : print b <+: print b ++ t := List.prefix_append _ t
    rcases List.prefix_or_prefix_of_prefix one other with begins | begins
    · exact free a b begins
    · exact (free b a begins).symm

/-- A text that ends where one of some characters comes, of which it has none. -/
def upTo (stop : Char → Bool) : Kind ⟨stop, [[]]⟩ where
  Value := String
  print := String.toList
  Legal s := ∀ c ∈ s.toList, (!stop c) = true
  begins _ _ := ⟨[], List.mem_singleton_self _, List.nil_prefix⟩
  determines s t inside inside' rest rest' stops stops' same := by
    have twice : (fun c => ! !stop c) = stop := funext fun c => Bool.not_not (stop c)
    exact String.toList_injective (append_inj_of_stop (p := fun c => !stop c) inside inside'
      (by rw [twice]; exact stops) (by rw [twice]; exact stops') same)

/-- A text in quotes, by the way its characters are written. None of them is written like a quote
or like the beginning of another. -/
def quoted (escape : Char → List Char)
    (apart : ∀ c d s t, escape c ++ s = escape d ++ t → c = d)
    (unquoted : ∀ c s t, escape c ++ s ≠ '"' :: t) : Kind (anyShape [['"']]) where
  Value := String
  print s := '"' :: (s.toList.flatMap escape ++ ['"'])
  Legal _ := True
  begins s _ := ⟨['"'], List.mem_singleton_self _, s.toList.flatMap escape ++ ['"'], rfl⟩
  determines s t _ _ rest rest' _ _ same := by
    have inner : ∀ u v : List Char, u.flatMap escape ++ '"' :: rest =
        v.flatMap escape ++ '"' :: rest' → u = v := by
      intro u
      induction u with
      | nil =>
          intro v same
          cases v with
          | nil => rfl
          | cons d v =>
              rw [List.flatMap_cons, List.append_assoc] at same
              exact absurd same.symm (unquoted d _ _)
      | cons c u ih =>
          intro v same
          rw [List.flatMap_cons, List.append_assoc] at same
          cases v with
          | nil => exact absurd same (unquoted c _ _)
          | cons d v =>
              rw [List.flatMap_cons, List.append_assoc] at same
              obtain rfl := apart c d _ _ same
              rw [ih v (List.append_cancel_left same)]
    refine String.toList_injective (inner _ _ ?_)
    rw [List.cons_append, List.cons_append, List.append_assoc, List.append_assoc] at same
    exact (List.cons.inj same).2

end Formats
