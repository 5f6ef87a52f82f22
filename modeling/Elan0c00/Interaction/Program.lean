import Mathlib.Data.List.Basic
import Mathlib.Tactic.Common

/-! # Programs that question their environment

A `Program` is a finite decision tree: it returns a value, halts in a fault, or puts one
question to its environment and continues with the answer. Nothing is said about who
answers. `Program.Runs` relates a program to every exchange it can have, answers chosen
freely, and the result it reaches at the end of it.
-/

namespace Interaction

/-- A question put to the environment, together with the answer it got. -/
structure Event {Op : Type} (Ans : Op → Type) where
  op : Op
  answer : Ans op

/-- A program asking questions `Op`, the question `op` being answered in `Ans op`. -/
inductive Program {Op : Type} (Ans : Op → Type) (Fault α : Type) where
  | ret (value : α)
  | halt (fault : Fault)
  | ask (op : Op) (next : Ans op → Program Ans Fault α)

namespace Program

variable {Op : Type} {Ans : Op → Type} {Fault α β γ : Type}

/-- Continue with the returned value; a fault ends the whole program. -/
def bind : Program Ans Fault α → (α → Program Ans Fault β) → Program Ans Fault β
  | .ret value, rest => rest value
  | .halt fault, _ => .halt fault
  | .ask op next, rest => .ask op fun answer => (next answer).bind rest

instance : Monad (Program Ans Fault) where
  pure := .ret
  bind := .bind

theorem bind_assoc (program : Program Ans Fault α) (first : α → Program Ans Fault β)
    (second : β → Program Ans Fault γ) :
    (program.bind first).bind second = program.bind fun value => (first value).bind second := by
  induction program with
  | ret value => rfl
  | halt fault => rfl
  | ask op next ih =>
      simp only [bind]
      congr 1
      funext answer
      exact ih answer

theorem bind_ret (program : Program Ans Fault α) : program.bind .ret = program := by
  induction program with
  | ret value => rfl
  | halt fault => rfl
  | ask op next ih =>
      simp only [bind]
      congr 1
      funext answer
      exact ih answer

instance : LawfulMonad (Program Ans Fault) :=
  LawfulMonad.mk' _ bind_ret (fun _ _ => rfl) bind_assoc

/-- The exchanges a program can have with an environment that answers as it likes, and
the result each one ends in. -/
inductive Runs : Program Ans Fault α → List (Event Ans) → Except Fault α → Prop where
  | ret (value : α) : Runs (.ret value) [] (.ok value)
  | halt (fault : Fault) : Runs (.halt fault) [] (.error fault)
  | ask {op : Op} {next : Ans op → Program Ans Fault α} (answer : Ans op)
      {trace : List (Event Ans)} {result : Except Fault α}
      (rest : Runs (next answer) trace result) :
      Runs (.ask op next) (⟨op, answer⟩ :: trace) result

variable {trace : List (Event Ans)}

theorem runs_ret_iff {value : α} {result : Except Fault α} :
    (Program.ret value : Program Ans Fault α).Runs trace result ↔
      trace = [] ∧ result = .ok value := by
  constructor
  · intro run
    cases run
    exact ⟨rfl, rfl⟩
  · rintro ⟨rfl, rfl⟩
    exact .ret value

theorem runs_halt_iff {fault : Fault} {result : Except Fault α} :
    (Program.halt fault : Program Ans Fault α).Runs trace result ↔
      trace = [] ∧ result = .error fault := by
  constructor
  · intro run
    cases run
    exact ⟨rfl, rfl⟩
  · rintro ⟨rfl, rfl⟩
    exact .halt fault

theorem runs_ask_iff {op : Op} {next : Ans op → Program Ans Fault α} {result : Except Fault α} :
    Runs (.ask op next) trace result ↔
      ∃ answer rest, trace = ⟨op, answer⟩ :: rest ∧ Runs (next answer) rest result := by
  constructor
  · intro run
    cases run with
    | ask answer rest => exact ⟨answer, _, rfl, rest⟩
  · rintro ⟨answer, rest, rfl, run⟩
    exact .ask answer run

@[simp] theorem runs_pure_iff {value : α} {result : Except Fault α} :
    Runs (pure value : Program Ans Fault α) trace result ↔ trace = [] ∧ result = .ok value :=
  runs_ret_iff

/-- A run of a sequence is a run of its first part, followed, unless that faulted, by a run
of the rest. -/
theorem runs_bind_iff {program : Program Ans Fault α} {rest : α → Program Ans Fault β}
    {result : Except Fault β} :
    Runs (program >>= rest) trace result ↔
      (∃ fault, Runs program trace (.error fault) ∧ result = .error fault) ∨
        ∃ value first second, trace = first ++ second ∧ Runs program first (.ok value) ∧
          Runs (rest value) second result := by
  change Runs (program.bind rest) trace result ↔ _
  induction program generalizing trace with
  | ret value =>
      constructor
      · intro run
        exact .inr ⟨value, [], trace, rfl, .ret value, run⟩
      · rintro (⟨fault, run, _⟩ | ⟨value', first, second, rfl, run, tail⟩)
        · cases run
        · cases run
          exact tail
  | halt fault =>
      constructor
      · intro run
        obtain ⟨rfl, rfl⟩ := runs_halt_iff.mp run
        exact .inl ⟨fault, .halt fault, rfl⟩
      · rintro (⟨fault', run, rfl⟩ | ⟨value', first, second, rfl, run, tail⟩)
        · cases run
          exact .halt fault
        · cases run
  | ask op next ih =>
      constructor
      · intro run
        obtain ⟨answer, tail, rfl, continued⟩ := runs_ask_iff.mp run
        rcases (ih answer).mp continued with
          ⟨fault, head, rfl⟩ | ⟨value, first, second, rfl, head, last⟩
        · exact .inl ⟨fault, .ask answer head, rfl⟩
        · exact .inr ⟨value, ⟨op, answer⟩ :: first, second, rfl, .ask answer head, last⟩
      · rintro (⟨fault, run, rfl⟩ | ⟨value, first, second, rfl, run, last⟩)
        · cases run with
          | ask answer run => exact .ask answer ((ih answer).mpr (.inl ⟨fault, run, rfl⟩))
        · cases run with
          | ask answer run =>
              exact .ask answer ((ih answer).mpr (.inr ⟨value, _, second, rfl, run, last⟩))

/-- Two runs that got the same answers ended in the same result. -/
theorem Runs.deterministic {program : Program Ans Fault α} {first second : Except Fault α}
    (one : program.Runs trace first) (other : program.Runs trace second) : first = second := by
  induction one with
  | ret value => exact (runs_ret_iff.mp other).2.symm
  | halt fault => exact (runs_halt_iff.mp other).2.symm
  | ask answer rest ih =>
      cases other with
      | ask _ tail => exact ih tail

/-- A run that begins with all of another one is that run. -/
theorem Runs.prefix_unique {program : Program Ans Fault α} {first second : Except Fault α}
    {more : List (Event Ans)} (one : program.Runs trace first)
    (other : program.Runs (trace ++ more) second) : more = [] ∧ second = first := by
  induction one with
  | ret value => exact runs_ret_iff.mp other
  | halt fault => exact runs_halt_iff.mp other
  | ask answer rest ih =>
      cases other with
      | ask _ tail => exact ih tail

/-- One run on given answers shows what all runs on them end in. -/
theorem Runs.result_iff {program : Program Ans Fault α} {known result : Except Fault α}
    (run : program.Runs trace known) : program.Runs trace result ↔ result = known := by
  constructor
  · exact fun other => other.deterministic run
  · rintro rfl
    exact run

/-- Put one question and return its answer. -/
def request (op : Op) : Program Ans Fault (Ans op) := .ask op .ret

/-- A computation that asks nothing but may fault. -/
def check : Except Fault α → Program Ans Fault α
  | .ok value => .ret value
  | .error fault => .halt fault

/-- A question followed by a program is answered first. -/
theorem runs_request_bind_iff {op : Op} {rest : Ans op → Program Ans Fault α}
    {result : Except Fault α} :
    Runs (request op >>= rest) trace result ↔
      ∃ answer tail, trace = ⟨op, answer⟩ :: tail ∧ Runs (rest answer) tail result :=
  runs_ask_iff

/-- A checked computation that does not fault is followed by the rest on its value. -/
theorem runs_check_bind_iff {computed : Except Fault α} {rest : α → Program Ans Fault β}
    {result : Except Fault β} :
    Runs (check computed >>= rest) trace result ↔
      (∃ fault, computed = .error fault ∧ trace = [] ∧ result = .error fault) ∨
        ∃ value, computed = .ok value ∧ Runs (rest value) trace result := by
  cases computed with
  | error fault =>
      refine runs_halt_iff.trans ?_
      constructor
      · rintro ⟨rfl, rfl⟩
        exact .inl ⟨fault, rfl, rfl, rfl⟩
      · rintro (⟨_, same, rfl, rfl⟩ | ⟨_, impossible, _⟩)
        · cases same
          exact ⟨rfl, rfl⟩
        · exact nomatch impossible
  | ok value =>
      constructor
      · exact fun run => .inr ⟨value, rfl, run⟩
      · rintro (⟨_, impossible, _⟩ | ⟨_, same, run⟩)
        · exact nomatch impossible
        · cases same
          exact run

end Program

/-! ### Programs with recoverable errors -/

variable {Op : Type} {Ans : Op → Type} {Fault ε α β : Type}

/-- A program that may also stop early with an error its caller can inspect. -/
abbrev Fallible (Ans : Op → Type) (Fault ε : Type) := ExceptT ε (Program Ans Fault)

namespace Fallible

/-- Put one question, and read its answer as a value or an error. -/
def request (op : Op) (read : Ans op → Except ε α) : Fallible Ans Fault ε α :=
  ExceptT.mk (.ask op fun answer => .ret (read answer))

/-- A computation that asks nothing but may fault. -/
def check : Except Fault α → Fallible Ans Fault ε α
  | .ok value => ExceptT.mk (.ret (.ok value))
  | .error fault => ExceptT.mk (.halt fault)

/-- A value or an error that is already known. -/
def settle (result : Except ε α) : Fallible Ans Fault ε α := ExceptT.mk (.ret result)

/-- Run a program and return its outcome, error or not, as a value. -/
def outcome {ε' : Type} (program : Fallible Ans Fault ε α) :
    Fallible Ans Fault ε' (Except ε α) :=
  ExceptT.mk (program.run >>= fun result => .ret (.ok result))

/-- Run a program and, only if it fails, a cleanup before its error is passed on. -/
def onFailure (cleanup : Fallible Ans Fault ε Unit) (program : Fallible Ans Fault ε α) :
    Fallible Ans Fault ε α := do
  match ← outcome program with
  | .ok value => return value
  | .error error =>
      cleanup
      throw error

theorem check_ok (value : α) : (check (.ok value) : Fallible Ans Fault ε α) = pure value := rfl

theorem throw_bind (error : ε) (rest : α → Fallible Ans Fault ε β) :
    (throw error : Fallible Ans Fault ε α) >>= rest = throw error := rfl

theorem pure_eq_settle (value : α) :
    (pure value : Fallible Ans Fault ε α) = settle (.ok value) := rfl

theorem throw_eq_settle (error : ε) :
    (throw error : Fallible Ans Fault ε α) = settle (.error error) := rfl

variable {trace : List (Event Ans)}

/-- A run of a sequence of fallible parts: the first part faults, or fails and ends the
sequence, or returns a value and the rest runs. -/
theorem runs_bind_iff {program : Fallible Ans Fault ε α} {rest : α → Fallible Ans Fault ε β}
    {result : Except Fault (Except ε β)} :
    (program >>= rest).run.Runs trace result ↔
      (∃ fault, program.run.Runs trace (.error fault) ∧ result = .error fault) ∨
        (∃ error, program.run.Runs trace (.ok (.error error)) ∧ result = .ok (.error error)) ∨
          ∃ value first second, trace = first ++ second ∧ program.run.Runs first (.ok (.ok value)) ∧
            (rest value).run.Runs second result := by
  rw [ExceptT.run_bind, Program.runs_bind_iff]
  constructor
  · rintro (failed | ⟨outcome, first, second, rfl, run, tail⟩)
    · exact .inl failed
    · cases outcome with
      | ok value => exact .inr (.inr ⟨value, first, second, rfl, run, tail⟩)
      | error error =>
          obtain ⟨rfl, rfl⟩ := Program.runs_pure_iff.mp tail
          rw [List.append_nil]
          exact .inr (.inl ⟨error, run, rfl⟩)
  · rintro (failed | ⟨error, run, rfl⟩ | ⟨value, first, second, rfl, run, tail⟩)
    · exact .inl failed
    · exact .inr ⟨.error error, trace, [], (List.append_nil trace).symm, run,
        Program.runs_pure_iff.mpr ⟨rfl, rfl⟩⟩
    · exact .inr ⟨.ok value, first, second, rfl, run, tail⟩

theorem runs_pure_iff {value : α} {result : Except Fault (Except ε α)} :
    (pure value : Fallible Ans Fault ε α).run.Runs trace result ↔
      trace = [] ∧ result = .ok (.ok value) :=
  Program.runs_ret_iff

theorem runs_request_iff {op : Op} {read : Ans op → Except ε α}
    {result : Except Fault (Except ε α)} :
    (request op read : Fallible Ans Fault ε α).run.Runs trace result ↔
      ∃ answer, trace = [⟨op, answer⟩] ∧ result = .ok (read answer) := by
  refine Program.runs_ask_iff.trans ?_
  constructor
  · rintro ⟨answer, tail, rfl, run⟩
    obtain ⟨rfl, rfl⟩ := Program.runs_ret_iff.mp run
    exact ⟨answer, rfl, rfl⟩
  · rintro ⟨answer, rfl, rfl⟩
    exact ⟨answer, [], rfl, .ret _⟩

/-- A question followed by a program: the answer is read as an error, which ends the run, or
as a value, from which the program goes on. -/
theorem runs_request_bind_iff {op : Op} {read : Ans op → Except ε α}
    {rest : α → Fallible Ans Fault ε β} {result : Except Fault (Except ε β)} :
    (request op read >>= rest : Fallible Ans Fault ε β).run.Runs trace result ↔
      ∃ answer tail, trace = ⟨op, answer⟩ :: tail ∧
        ((∃ error, read answer = .error error ∧ tail = [] ∧ result = .ok (.error error)) ∨
          ∃ value, read answer = .ok value ∧ (rest value).run.Runs tail result) := by
  refine Program.runs_ask_iff.trans ?_
  constructor
  · rintro ⟨answer, tail, rfl, run⟩
    change (settle (read answer) >>= rest : Fallible Ans Fault ε β).run.Runs tail result at run
    refine ⟨answer, tail, rfl, ?_⟩
    cases known : read answer with
    | error error =>
        rw [known] at run
        obtain ⟨rfl, rfl⟩ := Program.runs_ret_iff.mp run
        exact .inl ⟨error, rfl, rfl, rfl⟩
    | ok value =>
        rw [known] at run
        exact .inr ⟨value, rfl, run⟩
  · rintro ⟨answer, tail, rfl, outcome⟩
    refine ⟨answer, tail, rfl, ?_⟩
    change (settle (read answer) >>= rest : Fallible Ans Fault ε β).run.Runs tail result
    rcases outcome with ⟨error, known, rfl, rfl⟩ | ⟨value, known, run⟩
    · rw [known]
      exact .ret _
    · rw [known]
      exact run

/-- A question whose errors are those of the program in other words. -/
theorem runs_request_mapError_bind_iff {ε' : Type} {op : Op} {read : Ans op → Except ε' α}
    {convert : ε' → ε} {rest : α → Fallible Ans Fault ε β}
    {result : Except Fault (Except ε β)} :
    (request op (fun answer => (read answer).mapError convert) >>= rest :
        Fallible Ans Fault ε β).run.Runs trace result ↔
      ∃ answer tail, trace = ⟨op, answer⟩ :: tail ∧
        ((∃ error, read answer = .error error ∧ tail = [] ∧
            result = .ok (.error (convert error))) ∨
          ∃ value, read answer = .ok value ∧ (rest value).run.Runs tail result) := by
  refine runs_request_bind_iff.trans ?_
  refine exists_congr fun answer => exists_congr fun tail => and_congr_right fun _ => ?_
  cases read answer with
  | error error => simp [Except.mapError]
  | ok value => simp [Except.mapError]

theorem runs_settle_iff {known : Except ε α} {result : Except Fault (Except ε α)} :
    (settle known : Fallible Ans Fault ε α).run.Runs trace result ↔
      trace = [] ∧ result = .ok known :=
  Program.runs_ret_iff

/-- Decoding what a program returned asks nothing more. -/
theorem runs_bind_settle_iff {program : Fallible Ans Fault ε α} {decode : α → Except ε β}
    {result : Except Fault (Except ε β)} :
    (program >>= fun value => settle (decode value)).run.Runs trace result ↔
      (∃ fault, program.run.Runs trace (.error fault) ∧ result = .error fault) ∨
        ∃ known, program.run.Runs trace (.ok known) ∧ result = .ok (known.bind decode) := by
  rw [runs_bind_iff]
  constructor
  · rintro (failed | ⟨error, run, rfl⟩ | ⟨value, first, second, rfl, run, tail⟩)
    · exact .inl failed
    · exact .inr ⟨.error error, run, rfl⟩
    · obtain ⟨rfl, rfl⟩ := runs_settle_iff.mp tail
      rw [List.append_nil]
      exact .inr ⟨.ok value, run, rfl⟩
  · rintro (failed | ⟨known, run, rfl⟩)
    · exact .inl failed
    · cases known with
      | error error => exact .inr (.inl ⟨error, run, rfl⟩)
      | ok value =>
          exact .inr (.inr ⟨value, trace, [], (List.append_nil trace).symm, run,
            runs_settle_iff.mpr ⟨rfl, rfl⟩⟩)

/-- Inspecting the outcome runs the program; only its faults remain. -/
theorem runs_outcome_iff {ε' : Type} {program : Fallible Ans Fault ε α}
    {result : Except Fault (Except ε' (Except ε α))} :
    (outcome program : Fallible Ans Fault ε' (Except ε α)).run.Runs trace result ↔
      (∃ fault, program.run.Runs trace (.error fault) ∧ result = .error fault) ∨
        ∃ value, program.run.Runs trace (.ok value) ∧ result = .ok (.ok value) := by
  unfold outcome
  rw [ExceptT.run_mk, Program.runs_bind_iff]
  constructor
  · rintro (failed | ⟨value, first, second, rfl, run, tail⟩)
    · exact .inl failed
    · obtain ⟨rfl, rfl⟩ := Program.runs_ret_iff.mp tail
      rw [List.append_nil]
      exact .inr ⟨value, run, rfl⟩
  · rintro (failed | ⟨value, run, rfl⟩)
    · exact .inl failed
    · exact .inr ⟨value, trace, [], (List.append_nil trace).symm, run, .ret _⟩

/-- With a cleanup, a run that returns a value is as before; one that fails goes on with the
cleanup. -/
theorem runs_onFailure_iff {cleanup : Fallible Ans Fault ε Unit} {program : Fallible Ans Fault ε α}
    {result : Except Fault (Except ε α)} :
    (onFailure cleanup program).run.Runs trace result ↔
      (∃ fault, program.run.Runs trace (.error fault) ∧ result = .error fault) ∨
        (∃ value, program.run.Runs trace (.ok (.ok value)) ∧ result = .ok (.ok value)) ∨
          ∃ error first second, trace = first ++ second ∧
            program.run.Runs first (.ok (.error error)) ∧
              (cleanup >>= fun _ => throw error).run.Runs second result := by
  unfold onFailure
  rw [runs_bind_iff]
  simp only [runs_outcome_iff]
  constructor
  · rintro (⟨fault, ⟨_, run, same⟩ | ⟨_, _, impossible⟩, rfl⟩ |
      ⟨error, ⟨_, _, impossible⟩ | ⟨_, _, impossible⟩, _⟩ |
      ⟨known, first, second, rfl, ⟨_, _, impossible⟩ | ⟨_, run, same⟩, tail⟩)
    · cases same
      exact .inl ⟨fault, run, rfl⟩
    · cases impossible
    · cases impossible
    · cases impossible
    · cases impossible
    · cases same
      cases known with
      | ok value =>
          obtain ⟨rfl, rfl⟩ := runs_pure_iff.mp tail
          rw [List.append_nil]
          exact .inr (.inl ⟨value, run, rfl⟩)
      | error error => exact .inr (.inr ⟨error, first, second, rfl, run, tail⟩)
  · rintro (⟨fault, run, rfl⟩ | ⟨value, run, rfl⟩ | ⟨error, first, second, rfl, run, tail⟩)
    · exact .inl ⟨fault, .inl ⟨fault, run, rfl⟩, rfl⟩
    · exact .inr (.inr ⟨.ok value, trace, [], (List.append_nil trace).symm,
        .inr ⟨.ok value, run, rfl⟩, runs_pure_iff.mpr ⟨rfl, rfl⟩⟩)
    · exact .inr (.inr ⟨.error error, first, second, rfl, .inr ⟨.error error, run, rfl⟩, tail⟩)

/-- A sequence returns a value exactly if all its parts do. -/
theorem runs_bind_ok_iff {program : Fallible Ans Fault ε α} {rest : α → Fallible Ans Fault ε β}
    {value : β} :
    (program >>= rest).run.Runs trace (.ok (.ok value)) ↔
      ∃ middle first second, trace = first ++ second ∧
        program.run.Runs first (.ok (.ok middle)) ∧
          (rest middle).run.Runs second (.ok (.ok value)) := by
  refine runs_bind_iff.trans ⟨?_, fun ran => .inr (.inr ran)⟩
  rintro (⟨_, _, impossible⟩ | ⟨_, _, impossible⟩ | ran)
  · cases impossible
  · cases impossible
  · exact ran

/-- A sequence fails exactly if one of its parts does. -/
theorem runs_bind_error_iff {program : Fallible Ans Fault ε α}
    {rest : α → Fallible Ans Fault ε β} {error : ε} :
    (program >>= rest).run.Runs trace (.ok (.error error)) ↔
      program.run.Runs trace (.ok (.error error)) ∨
        ∃ middle first second, trace = first ++ second ∧
          program.run.Runs first (.ok (.ok middle)) ∧
            (rest middle).run.Runs second (.ok (.error error)) := by
  refine runs_bind_iff.trans ⟨?_, ?_⟩
  · rintro (⟨_, _, impossible⟩ | ⟨_, failed, same⟩ | ran)
    · cases impossible
    · cases same
      exact .inl failed
    · exact .inr ran
  · rintro (failed | ran)
    · exact .inr (.inl ⟨error, failed, rfl⟩)
    · exact .inr (.inr ran)

/-- A cleanup after a failure never turns it into a value. -/
theorem runs_onFailure_ok_iff {cleanup : Fallible Ans Fault ε Unit}
    {program : Fallible Ans Fault ε α} {value : α} :
    (onFailure cleanup program).run.Runs trace (.ok (.ok value)) ↔
      program.run.Runs trace (.ok (.ok value)) := by
  refine runs_onFailure_iff.trans ⟨?_, fun ran => .inr (.inl ⟨value, ran, rfl⟩)⟩
  rintro (⟨_, _, impossible⟩ | ⟨_, ran, same⟩ | ⟨_, _, _, _, _, cleaned⟩)
  · cases impossible
  · cases same
    exact ran
  · obtain ⟨_, _, _, _, _, thrown⟩ := runs_bind_ok_iff.mp cleaned
    cases (Program.runs_ret_iff.mp thrown).2

/-- The program never faults, whatever it is answered. -/
def Safe (program : Fallible Ans Fault ε α) : Prop :=
  ∀ trace fault, ¬ program.run.Runs trace (.error fault)

/-- A program without faults, and what follows it unless it fails. -/
theorem Safe.runs_bind_iff {program : Fallible Ans Fault ε α} (safe : Safe program)
    {rest : α → Fallible Ans Fault ε β} {result : Except Fault (Except ε β)} :
    (program >>= rest).run.Runs trace result ↔
      (∃ error, program.run.Runs trace (.ok (.error error)) ∧ result = .ok (.error error)) ∨
        ∃ value first second, trace = first ++ second ∧ program.run.Runs first (.ok (.ok value)) ∧
          (rest value).run.Runs second result := by
  rw [Fallible.runs_bind_iff]
  constructor
  · rintro (⟨fault, run, _⟩ | either)
    · exact absurd run (safe _ _)
    · exact either
  · exact .inr

/-- Inspecting the outcome of a program without faults, and going on with it. -/
theorem Safe.runs_outcome_bind_iff {ε' : Type} {program : Fallible Ans Fault ε α}
    (safe : Safe program) {rest : Except ε α → Fallible Ans Fault ε' β}
    {result : Except Fault (Except ε' β)} :
    (outcome program >>= rest).run.Runs trace result ↔
      ∃ known first second, trace = first ++ second ∧ program.run.Runs first (.ok known) ∧
        (rest known).run.Runs second result := by
  simp only [Fallible.runs_bind_iff, runs_outcome_iff]
  constructor
  · rintro (⟨fault, ⟨_, run, _⟩ | ⟨_, _, impossible⟩, _⟩ |
      ⟨error, ⟨_, _, impossible⟩ | ⟨_, _, impossible⟩, _⟩ |
      ⟨known, first, second, rfl, ⟨_, _, impossible⟩ | ⟨_, run, same⟩, tail⟩)
    · exact absurd run (safe _ _)
    · exact nomatch impossible
    · exact nomatch impossible
    · exact nomatch impossible
    · exact nomatch impossible
    · cases same
      exact ⟨known, first, second, rfl, run, tail⟩
  · rintro ⟨known, first, second, rfl, run, tail⟩
    exact .inr (.inr ⟨known, first, second, rfl, .inr ⟨known, run, rfl⟩, tail⟩)

end Fallible

end Interaction
