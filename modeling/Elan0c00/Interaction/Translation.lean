import Elan0c00.Interaction.Environment
import Mathlib.Logic.Equiv.Defs

/-! # Programs in another's words

A `Translation` puts the questions of one interface in the words of another, with the same
answers. A translated program has the runs it had, event for event
(`Program.runs_translate_iff`), so what is known of a part stays known of it inside a larger
program.
-/

namespace Interaction

variable {Op Op' : Type} {Ans : Op → Type} {Ans' : Op' → Type} {Fault α β : Type}

/-- The questions of one interface in the words of another. -/
structure Translation (Ans : Op → Type) (Ans' : Op' → Type) where
  op : Op → Op'
  answer : ∀ asked, Ans asked ≃ Ans' (op asked)

/-- An exchange in the other words. -/
def Translation.event (words : Translation Ans Ans') (event : Event Ans) : Event Ans' :=
  ⟨words.op event.op, words.answer event.op event.answer⟩

namespace Program

/-- Put every question in the other words. -/
def translate (words : Translation Ans Ans') : Program Ans Fault α → Program Ans' Fault α
  | .ret value => .ret value
  | .halt fault => .halt fault
  | .ask op next =>
      .ask (words.op op) fun answer => (next ((words.answer op).symm answer)).translate words

/-- The runs of a translated program are the runs of the program, translated. -/
theorem runs_translate_iff {words : Translation Ans Ans'} {program : Program Ans Fault α}
    {trace : List (Event Ans')} {result : Except Fault α} :
    (program.translate words).Runs trace result ↔
      ∃ own, trace = own.map words.event ∧ program.Runs own result := by
  induction program generalizing trace with
  | ret value =>
      refine runs_ret_iff.trans ⟨?_, ?_⟩
      · rintro ⟨rfl, rfl⟩
        exact ⟨[], rfl, .ret value⟩
      · rintro ⟨own, rfl, run⟩
        obtain ⟨rfl, rfl⟩ := runs_ret_iff.mp run
        exact ⟨rfl, rfl⟩
  | halt fault =>
      refine runs_halt_iff.trans ⟨?_, ?_⟩
      · rintro ⟨rfl, rfl⟩
        exact ⟨[], rfl, .halt fault⟩
      · rintro ⟨own, rfl, run⟩
        obtain ⟨rfl, rfl⟩ := runs_halt_iff.mp run
        exact ⟨rfl, rfl⟩
  | ask op next ih =>
      refine runs_ask_iff.trans ⟨?_, ?_⟩
      · rintro ⟨answer, rest, rfl, run⟩
        obtain ⟨own, rfl, inner⟩ := (ih _).mp run
        refine ⟨⟨op, (words.answer op).symm answer⟩ :: own, ?_, .ask _ inner⟩
        simp only [List.map_cons, Translation.event, Equiv.apply_symm_apply]
      · rintro ⟨own, rfl, run⟩
        obtain ⟨answer, rest, rfl, inner⟩ := runs_ask_iff.mp run
        refine ⟨words.answer op answer, rest.map words.event, rfl, (ih _).mpr ⟨rest, rfl, ?_⟩⟩
        rw [Equiv.symm_apply_apply]
        exact inner

end Program

end Interaction
