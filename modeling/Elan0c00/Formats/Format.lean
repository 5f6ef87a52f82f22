import Mathlib.Data.List.Basic
import Mathlib.Data.List.Pairwise

/-! # Formats that can be read back

A `Format` is literal text with holes for values. A `Kind` of value is one whose text shows which
value it is once a character follows that cannot belong to it. Whether a format ends each of its
holes that way is decided by `ended`, and whether two formats never give the same text by `apart`:
both look at the `Shape` of the kinds only. A `Grammar` is a choice of formats that pass, and what
is printed by one shows which format was taken and what it was filled with
(`Grammar.print_determines`). A grammar whose texts may stand in a hole is itself a kind
(`Grammar.toKind`), and texts one after another show what each of them was (`Grammar.stream_inj`).
-/

namespace Formats

/-- What is known of the texts of a kind: the characters that end one, and texts one of which each
begins with. -/
structure Shape where
  follow : Char → Bool
  heads : List (List Char)

/-- A kind of value whose text, followed by a character that ends it, shows the value. -/
structure Kind (shape : Shape) where
  Value : Type
  print : Value → List Char
  Legal : Value → Prop
  begins : ∀ value, Legal value → ∃ head ∈ shape.heads, head <+: print value
  determines : ∀ value other, Legal value → Legal other → ∀ s t : List Char,
    s.head?.any shape.follow = true → t.head?.any shape.follow = true →
      print value ++ s = print other ++ t → value = other

/-- A part of a format. -/
inductive Piece (κ : Type) where
  | text (s : String)
  | hole (k : κ)

abbrev Format (κ : Type) := List (Piece κ)

/-- A character of a format, or a hole. -/
inductive Mark (κ : Type) where
  | char (c : Char)
  | hole (k : κ)

variable {κ : Type}

def Piece.marks : Piece κ → List (Mark κ)
  | .text s => s.toList.map .char
  | .hole k => [.hole k]

def marks (format : Format κ) : List (Mark κ) := format.flatMap Piece.marks

/-- The characters before the first hole. -/
def leading : List (Mark κ) → List Char
  | .char c :: rest => c :: leading rest
  | _ => []

/-- The texts differ before either of them ends. -/
def clash : List Char → List Char → Bool
  | a :: s, b :: t => a != b || clash s t
  | _, _ => false

theorem not_prefix_of_clash {first second text : List Char} (apart : clash first second = true)
    (one : first <+: text) (other : second <+: text) : False := by
  induction first generalizing second text with
  | nil => cases apart
  | cons a first ih =>
      cases second with
      | nil => cases apart
      | cons b second =>
          obtain ⟨rest, rfl⟩ := one
          rw [List.cons_append, List.cons_prefix_cons] at other
          obtain ⟨rfl, inside⟩ := other
          rw [clash, bne_self_eq_false, Bool.false_or] at apart
          exact ih apart (List.prefix_append first rest) inside

section Checks

variable (shape : κ → Shape)

/-- Texts one of which a filled format begins with. -/
def heads : List (Mark κ) → List (List Char)
  | .hole k :: _ => (shape k).heads
  | format => [leading format]

/-- Each hole is followed by a character that ends it, the last one by any of `outer`. -/
def closed (outer : List Char) : List (Mark κ) → Bool
  | [] => true
  | .char _ :: rest => closed outer rest
  | [.hole k] => !outer.isEmpty && outer.all (shape k).follow
  | .hole k :: .char c :: rest => (shape k).follow c && closed outer rest
  | .hole _ :: .hole _ :: _ => false

/-- `closed`, by the pieces of a format. -/
def ended (outer : List Char) : Format κ → Bool
  | [] => true
  | .text _ :: rest => ended outer rest
  | [.hole k] => !outer.isEmpty && outer.all (shape k).follow
  | .hole k :: .text s :: rest => s.toList.head?.any (shape k).follow && ended outer rest
  | .hole _ :: .hole _ :: _ => false

variable {shape} in
theorem closed_text {outer : List Char} (s : List Char) (format : List (Mark κ)) :
    closed shape outer (s.map .char ++ format) = closed shape outer format := by
  induction s with
  | nil => rfl
  | cons c s ih => exact ih

variable {shape} in
theorem closed_marks {outer : List Char} {format : Format κ}
    (done : ended shape outer format = true) : closed shape outer (marks format) = true := by
  fun_induction ended shape outer format with
  | case1 => rfl
  | case2 s rest ih =>
      change closed shape outer (s.toList.map .char ++ marks rest) = true
      rw [closed_text]
      exact ih done
  | case3 k => exact done
  | case4 k s rest ih =>
      obtain ⟨follows, later⟩ := Bool.and_eq_true_iff.mp done
      change closed shape outer (.hole k :: (s.toList.map .char ++ marks rest)) = true
      cases text : s.toList with
      | nil =>
          rw [text] at follows
          cases follows
      | cons c letters =>
          rw [text] at follows
          change ((shape k).follow c && closed shape outer (letters.map .char ++ marks rest)) = true
          rw [closed_text, ih later, Bool.and_true]
          exact follows
  | case5 => cases done

/-- The formats differ before a hole of one meets anything but a hole of its kind in the other, or
where a hole of one meets text that it cannot begin with. -/
def apart [DecidableEq κ] : List (Mark κ) → List (Mark κ) → Bool
  | .char a :: f, .char b :: g => a != b || apart f g
  | .hole k :: f, .hole l :: g => k == l && apart f g
  | .hole k :: _, .char c :: g => (shape k).heads.all fun head => clash head (c :: leading g)
  | .char c :: f, .hole k :: _ => (shape k).heads.all fun head => clash head (c :: leading f)
  | _, _ => false

theorem apart_comm [DecidableEq κ] (format other : List (Mark κ)) :
    apart shape format other = apart shape other format := by
  induction format generalizing other with
  | nil =>
      cases other with
      | nil => rfl
      | cons mark other => cases mark <;> rfl
  | cons mark format ih =>
      cases other with
      | nil => cases mark <;> rfl
      | cons mark' other =>
          cases mark with
          | char c =>
              cases mark' with
              | char d => rw [apart, apart, bne_comm, ih]
              | hole l => rfl
          | hole k =>
              cases mark' with
              | char d => rfl
              | hole l => rw [apart, apart, BEq.comm, ih]

end Checks

section Reading

variable {shape : κ → Shape} (kind : (k : κ) → Kind (shape k))

/-- The text is the format, filled with legal values, and the rest. -/
def Reads : List (Mark κ) → List Char → List Char → Prop
  | [], text, rest => text = rest
  | .char c :: format, text, rest => ∃ tail, text = c :: tail ∧ Reads format tail rest
  | .hole k :: format, text, rest =>
      ∃ value tail, (kind k).Legal value ∧ text = (kind k).print value ++ tail ∧
        Reads format tail rest

/-- What comes after a format whose last hole has to be ended from outside. -/
def Ends (outer rest : List Char) : Prop := outer = [] ∨ ∃ c ∈ outer, rest.head? = some c

variable {kind} {outer outer' : List Char} {format other : List (Mark κ)}
  {text rest rest' : List Char}

theorem Reads.leading_begins (reads : Reads kind format text rest) : leading format <+: text := by
  induction format generalizing text with
  | nil => exact List.nil_prefix
  | cons mark format ih =>
      cases mark with
      | char c =>
          obtain ⟨tail, rfl, later⟩ := reads
          exact (List.prefix_cons_inj c).mpr (ih later)
      | hole k => exact List.nil_prefix

/-- What is printed begins with one of its heads. -/
theorem Reads.exists_head (reads : Reads kind format text rest) :
    ∃ head ∈ heads shape format, head <+: text := by
  cases format with
  | nil => exact ⟨[], List.mem_singleton_self _, List.nil_prefix⟩
  | cons mark format =>
      cases mark with
      | char c => exact ⟨_, List.mem_singleton_self _, reads.leading_begins⟩
      | hole k =>
          obtain ⟨value, tail, legal, rfl, -⟩ := reads
          obtain ⟨head, member, begins⟩ := (kind k).begins value legal
          exact ⟨head, member, begins.trans (List.prefix_append _ tail)⟩

/-- What comes after a hole ends it. -/
theorem Reads.follows {k : κ} (reads : Reads kind format text rest)
    (ended : closed shape outer (.hole k :: format) = true) (ends : Ends outer rest) :
    text.head?.any (shape k).follow = true := by
  cases format with
  | nil =>
      obtain rfl : text = rest := reads
      obtain ⟨some, all⟩ := Bool.and_eq_true_iff.mp ended
      rcases ends with rfl | ⟨c, member, first⟩
      · cases some
      · rw [first]
        exact List.all_eq_true.mp all c member
  | cons mark format =>
      cases mark with
      | char c =>
          obtain ⟨tail, rfl, -⟩ := reads
          exact (Bool.and_eq_true_iff.mp ended).1
      | hole => cases ended

theorem closed_tail {mark : Mark κ} (ended : closed shape outer (mark :: format) = true) :
    closed shape outer format = true := by
  cases mark with
  | char c => exact ended
  | hole k =>
      cases format with
      | nil => rfl
      | cons next format =>
          cases next with
          | char c => exact (Bool.and_eq_true_iff.mp ended).2
          | hole => cases ended

/-- A hole does not begin like text that disagrees with all its heads. -/
theorem not_begins_of_clash {k : κ} {value : (kind k).Value} {after start : List Char}
    (legal : (kind k).Legal value)
    (clashes : ((shape k).heads.all fun head => clash head start) = true)
    (starts : start <+: (kind k).print value ++ after) : False := by
  obtain ⟨head, member, begins⟩ := (kind k).begins value legal
  exact not_prefix_of_clash (List.all_eq_true.mp clashes head member)
    (begins.trans (List.prefix_append _ after)) starts

/-- **Formats that are apart** never give the same text. -/
theorem Reads.not_apart [DecidableEq κ] (first : Reads kind format text rest)
    (second : Reads kind other text rest') (differ : apart shape format other = true)
    (ended : closed shape outer format = true) (ends : Ends outer rest)
    (ended' : closed shape outer' other = true) (ends' : Ends outer' rest') : False := by
  induction format generalizing other text with
  | nil =>
      cases other with
      | nil => cases differ
      | cons mark other => cases mark <;> cases differ
  | cons mark format ih =>
      cases other with
      | nil => cases mark <;> cases differ
      | cons mark' other =>
          cases mark with
          | char c =>
              cases mark' with
              | char d =>
                  obtain ⟨tail, rfl, later⟩ := first
                  obtain ⟨tail', same, later'⟩ := second
                  obtain ⟨rfl, rfl⟩ := List.cons.inj same
                  rw [apart, bne_self_eq_false, Bool.false_or] at differ
                  exact ih later later' differ (closed_tail ended) (closed_tail ended')
              | hole l =>
                  have starts := first.leading_begins
                  obtain ⟨value, tail, legal, rfl, -⟩ := second
                  exact not_begins_of_clash legal differ starts
          | hole k =>
              cases mark' with
              | char d =>
                  have starts := second.leading_begins
                  obtain ⟨value, tail, legal, rfl, -⟩ := first
                  exact not_begins_of_clash legal differ starts
              | hole l =>
                  obtain ⟨alike, differs⟩ : (k == l) = true ∧ apart shape format other = true :=
                    Bool.and_eq_true_iff.mp differ
                  obtain rfl := eq_of_beq alike
                  obtain ⟨value, tail, legal, rfl, later⟩ := first
                  obtain ⟨value', tail', legal', same, later'⟩ := second
                  obtain rfl := (kind k).determines value value' legal legal' tail tail'
                    (later.follows ended ends) (later'.follows ended' ends') same
                  obtain rfl := List.append_cancel_left same
                  exact ih later later' differs (closed_tail ended) (closed_tail ended')

end Reading

/-! ### Filling a format -/

section Filling

variable {shape : κ → Shape} (kind : (k : κ) → Kind (shape k))

/-- What the holes of a format are filled with. -/
def Values : Format κ → Type
  | [] => Unit
  | .text _ :: format => Values format
  | .hole k :: format => (kind k).Value × Values format

/-- The text of a format with its holes filled. -/
def fill : (format : Format κ) → Values kind format → List Char
  | [], _ => []
  | .text s :: format, values => s.toList ++ fill format values
  | .hole k :: format, values => (kind k).print values.1 ++ fill format values.2

/-- All values are legal. -/
def Legal : (format : Format κ) → Values kind format → Prop
  | [], _ => True
  | .text _ :: format, values => Legal format values
  | .hole k :: format, values => (kind k).Legal values.1 ∧ Legal format values.2

variable {kind} {outer : List Char} {rest rest' : List Char}

theorem reads_text {s : List Char} {format : List (Mark κ)} {text : List Char}
    (reads : Reads kind format text rest) :
    Reads kind (s.map .char ++ format) (s ++ text) rest := by
  induction s with
  | nil => exact reads
  | cons c s ih => exact ⟨_, rfl, ih⟩

theorem reads_fill {format : Format κ} {values : Values kind format}
    (legal : Legal kind format values) (rest : List Char) :
    Reads kind (marks format) (fill kind format values ++ rest) rest := by
  induction format with
  | nil => rfl
  | cons piece format ih =>
      cases piece with
      | text s =>
          rw [fill, List.append_assoc]
          exact reads_text (ih legal)
      | hole k =>
          rw [fill, List.append_assoc]
          exact ⟨_, _, legal.1, rfl, ih legal.2⟩

/-- A format that ends its holes shows what it was filled with. -/
theorem fill_inj {format : Format κ} (ended : closed shape outer (marks format) = true)
    {values values' : Values kind format} (legal : Legal kind format values)
    (legal' : Legal kind format values') (ends : Ends outer rest) (ends' : Ends outer rest')
    (same : fill kind format values ++ rest = fill kind format values' ++ rest') :
    values = values' ∧ rest = rest' := by
  induction format with
  | nil => exact ⟨rfl, same⟩
  | cons piece format ih =>
      cases piece with
      | text s =>
          rw [fill, fill, List.append_assoc, List.append_assoc] at same
          exact ih ((closed_text ..).symm.trans ended) legal legal' (List.append_cancel_left same)
      | hole k =>
          obtain ⟨value, values⟩ := values
          obtain ⟨value', values'⟩ := values'
          change (kind k).print value ++ fill kind format values ++ rest =
            (kind k).print value' ++ fill kind format values' ++ rest' at same
          rw [List.append_assoc, List.append_assoc] at same
          obtain rfl := (kind k).determines value value' legal.1 legal'.1 _ _
            ((reads_fill legal.2 rest).follows ended ends)
            ((reads_fill legal'.2 rest').follows ended ends') same
          obtain ⟨rfl, rest⟩ := ih (closed_tail ended) legal.2 legal'.2
            (List.append_cancel_left same)
          exact ⟨rfl, rest⟩

end Filling

/-! ### Choices of formats -/

/-- A choice of formats that end their holes and are apart. What follows a text of it is one of
`outer`, or anything if there is none. -/
structure Grammar [DecidableEq κ] (shape : κ → Shape) where
  Form : Type
  forms : List Form
  complete : ∀ form, form ∈ forms
  format : Form → Format κ
  outer : List Char
  ended : ∀ form ∈ forms, ended shape outer (format form) = true
  apart : forms.Pairwise fun form other =>
    apart shape (marks (format form)) (marks (format other)) = true

namespace Grammar

variable [DecidableEq κ] {shape : κ → Shape} (grammar : Grammar shape)
  (kind : (k : κ) → Kind (shape k))

/-- A format of the grammar and what it is filled with. -/
structure Filled where
  form : grammar.Form
  values : Values kind (grammar.format form)

variable {grammar kind}

def Filled.print (filled : grammar.Filled kind) : List Char :=
  fill kind (grammar.format filled.form) filled.values

def Filled.Legal (filled : grammar.Filled kind) : Prop :=
  Formats.Legal kind (grammar.format filled.form) filled.values

variable {first second : grammar.Filled kind} {rest rest' : List Char}

theorem Filled.reads (legal : first.Legal) (rest : List Char) :
    Reads kind (marks (grammar.format first.form)) (first.print ++ rest) rest :=
  reads_fill legal rest

theorem apart_of_ne {form other : grammar.Form} (different : form ≠ other) :
    Formats.apart shape (marks (grammar.format form)) (marks (grammar.format other)) = true := by
  have symmetric : Std.Symm fun form other : grammar.Form =>
      Formats.apart shape (marks (grammar.format form)) (marks (grammar.format other)) = true :=
    ⟨fun form other differ => by rw [apart_comm]; exact differ⟩
  exact grammar.apart.forall (grammar.complete form) (grammar.complete other) different

/-- **Grammars.** What is printed shows the format and what it was filled with, and where it
ends. -/
theorem print_determines (legal : first.Legal) (legal' : second.Legal)
    (ends : Ends grammar.outer rest) (ends' : Ends grammar.outer rest')
    (same : first.print ++ rest = second.print ++ rest') : first = second ∧ rest = rest' := by
  have ended := fun form => closed_marks (grammar.ended form (grammar.complete form))
  have alike : first.form = second.form := by
    by_contra different
    have reads := first.reads legal rest
    rw [same] at reads
    exact reads.not_apart (second.reads legal' rest') (apart_of_ne different) (ended first.form)
      ends (ended second.form) ends'
  obtain ⟨form, values⟩ := first
  obtain ⟨form', values'⟩ := second
  obtain rfl : form = form' := alike
  obtain ⟨rfl, rest⟩ := fill_inj (ended form) legal legal' ends ends' same
  exact ⟨rfl, rest⟩

/-- The texts of a grammar as those of a kind. -/
def outline (grammar : Grammar shape) : Shape where
  follow c := grammar.outer.contains c
  heads := grammar.forms.flatMap fun form => heads shape (marks (grammar.format form))

theorem ends_of_follow (follows : rest.head?.any grammar.outline.follow = true) :
    Ends grammar.outer rest := by
  cases rest with
  | nil => cases follows
  | cons c rest => exact .inr ⟨c, List.contains_iff_mem.mp follows, rfl⟩

/-- Values printed by a grammar, as a kind of value. -/
def toKind (grammar : Grammar shape) (kind : (k : κ) → Kind (shape k)) (α : Type)
    (filled : α → grammar.Filled kind) (value : grammar.Filled kind → α)
    (inverse : ∀ a, value (filled a) = a) : Kind grammar.outline where
  Value := α
  print a := (filled a).print
  Legal a := (filled a).Legal
  begins a legal := by
    obtain ⟨head, member, begins⟩ := (Filled.reads legal []).exists_head
    rw [List.append_nil] at begins
    exact ⟨head, List.mem_flatMap.mpr ⟨_, grammar.complete _, member⟩, begins⟩
  determines a b legal legal' s t follows follows' same := by
    obtain ⟨alike, -⟩ := print_determines legal legal' (ends_of_follow follows)
      (ends_of_follow follows') same
    rw [← inverse a, alike, inverse]

/-- Texts one after another. -/
def stream (all : List (grammar.Filled kind)) : List Char := all.flatMap Filled.print

/-- A text that begins with a character of its format is not empty. -/
theorem Filled.print_ne_nil (begun : leading (marks (grammar.format first.form)) ≠ [])
    (legal : first.Legal) : first.print ≠ [] := by
  intro empty
  have reads := (Filled.reads legal []).leading_begins
  rw [empty, List.nil_append] at reads
  exact begun (List.prefix_nil.mp reads)

/-- **Streams.** Texts that nothing has to end, one after another, show what each of them was. -/
theorem stream_inj (alone : grammar.outer = [])
    (begun : ∀ form ∈ grammar.forms, leading (marks (grammar.format form)) ≠ [])
    {all all' : List (grammar.Filled kind)} (legal : ∀ filled ∈ all, filled.Legal)
    (legal' : ∀ filled ∈ all', filled.Legal) (same : stream all = stream all') : all = all' := by
  have filled : ∀ filled : grammar.Filled kind, filled.Legal → filled.print ≠ [] :=
    fun filled => filled.print_ne_nil (begun _ (grammar.complete _))
  induction all generalizing all' with
  | nil =>
      cases all' with
      | nil => rfl
      | cons first all' =>
          obtain ⟨here, -⟩ := List.forall_mem_cons.mp legal'
          have empty : [] = first.print ++ stream all' := same
          exact absurd (List.append_eq_nil_iff.mp empty.symm).1 (filled first here)
  | cons first all ih =>
      obtain ⟨here, later⟩ := List.forall_mem_cons.mp legal
      cases all' with
      | nil =>
          have empty : first.print ++ stream all = [] := same
          exact absurd (List.append_eq_nil_iff.mp empty).1 (filled first here)
      | cons second all' =>
          obtain ⟨here', later'⟩ := List.forall_mem_cons.mp legal'
          have texts : first.print ++ stream all = second.print ++ stream all' := same
          obtain ⟨rfl, rest⟩ := print_determines here here' (.inl alone) (.inl alone) texts
          rw [ih later later' rest]

end Grammar

end Formats
