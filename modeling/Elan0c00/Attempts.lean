import Elan0c00.Call

/-! # The attempts of a query

A query that may be answered by zero bytes is repeated. `transceiveRetrying_stops` says how
often: attempts follow one another as long as they return an empty reply, the first one that
does not is the result, and after `maxRetries` empty replies there is none. Each attempt sends
the same frame once, and nothing is asked beyond the attempt the query stopped at.
-/

namespace Elan0c00

open Interaction Interaction.Fallible Bytes

section Attempts

variable {cmd : Cmd} {payload : List UInt8} {attempts : Nat} {trace rest : Trace}
  {outcome : Except Error (List UInt8)} {empty : List Trace}

/-- Every trace of the list is that of a command answered by an empty reply. -/
def AllEmpty (cmd : Cmd) (payload : List UInt8) (empty : List Trace) : Prop :=
  ∀ attempt ∈ empty, Asked .transceive cmd payload attempt (.ok [])

/-- Empty replies use up an attempt each. -/
theorem Retried.prepend (unanswered : AllEmpty cmd payload empty)
    (later : Retried cmd payload attempts rest outcome) :
    Retried cmd payload (empty.length + attempts) (empty.flatten ++ rest) outcome := by
  induction empty with
  | nil =>
      rw [List.length_nil, Nat.zero_add]
      exact later
  | cons first empty ih =>
      rw [List.length_cons, Nat.add_right_comm, List.flatten_cons, List.append_assoc]
      apply Retried.again (unanswered first List.mem_cons_self)
      exact ih fun attempt member => unanswered attempt (List.mem_cons_of_mem first member)

/-- A final outcome after fewer empty replies than there are attempts. -/
theorem Retried.settled_after {last : Trace} (fewer : empty.length < attempts)
    (unanswered : AllEmpty cmd payload empty) (asked : Asked .transceive cmd payload last outcome)
    (final : outcome ≠ .ok []) :
    Retried cmd payload attempts (empty.flatten ++ last) outcome := by
  obtain ⟨spare, rfl⟩ := Nat.exists_eq_add_of_lt fewer
  rw [Nat.add_assoc]
  exact Retried.prepend unanswered (.settled asked final)

/-- As many empty replies as there are attempts. -/
theorem Retried.exhausted_after (used : empty.length = attempts)
    (unanswered : AllEmpty cmd payload empty) :
    Retried cmd payload attempts empty.flatten (.error (.noResponse cmd.name)) := by
  have spent := Retried.prepend unanswered .exhausted
  rw [List.append_nil, used] at spent
  exact spent

/-- A query is a number of empty replies, all attempts or fewer, and in the latter case one
attempt more, whose outcome is that of the query. -/
theorem Retried.split (retried : Retried cmd payload attempts trace outcome) :
    (∃ empty, empty.length = attempts ∧ AllEmpty cmd payload empty ∧ trace = empty.flatten ∧
      outcome = .error (.noResponse cmd.name)) ∨
    ∃ empty last, empty.length < attempts ∧ AllEmpty cmd payload empty ∧
      Asked .transceive cmd payload last outcome ∧ outcome ≠ .ok [] ∧
      trace = empty.flatten ++ last := by
  induction retried with
  | exhausted => exact .inl ⟨[], rfl, nofun, rfl, rfl⟩
  | settled asked final => exact .inr ⟨[], _, Nat.succ_pos _, nofun, asked, final, rfl⟩
  | @again attempts first rest outcome unanswered later ih =>
      have extend : ∀ empty : List Trace, AllEmpty cmd payload empty →
          AllEmpty cmd payload (first :: empty) := by
        intro empty others attempt member
        rcases List.mem_cons.mp member with rfl | inside
        · exact unanswered
        · exact others attempt inside
      rcases ih with
        ⟨empty, used, others, rfl, rfl⟩ | ⟨empty, last, fewer, others, asked, final, rfl⟩
      · exact .inl ⟨first :: empty, congrArg Nat.succ used, extend empty others, rfl, rfl⟩
      · refine .inr ⟨first :: empty, last, Nat.succ_lt_succ fewer, extend empty others, asked,
          final, ?_⟩
        rw [List.flatten_cons, List.append_assoc]

/-- Attempts that were answered by nothing sent their frame once each. -/
theorem AllEmpty.outFrames (allowed : EntryPoint.refusal .transceive cmd payload = none)
    (unanswered : AllEmpty cmd payload empty) :
    Trace.outFrames empty.flatten = List.replicate empty.length (Proto.encode cmd payload) := by
  induction empty with
  | nil => rfl
  | cons first empty ih =>
      have single := (unanswered first List.mem_cons_self).outFrames allowed
      have others := ih fun attempt member => unanswered attempt (List.mem_cons_of_mem first member)
      rw [List.flatten_cons, Trace.outFrames_append, single, others, List.length_cons,
        List.replicate_succ, List.singleton_append]

end Attempts

variable {dev : ElanMoc2} {cmd : Cmd} {payload : List UInt8}

theorem runs_transceiveRetrying_iff {trace : Trace}
    {result : Except Fault (Except Error (List UInt8))} :
    (dev.transceiveRetrying cmd payload).run.Runs trace result ↔
      ∃ outcome, Retried cmd payload Proto.maxRetries trace outcome ∧ result = .ok outcome :=
  runs_retry_iff

/-- A command that is refused is refused by its query, before anything is sent. -/
theorem runs_transceiveRetrying_of_refusal {e : Error}
    (refusal : EntryPoint.refusal .transceive cmd payload = some e) (trace : Trace)
    (result : Except Fault (Except Error (List UInt8))) :
    (dev.transceiveRetrying cmd payload).run.Runs trace result ↔
      trace = [] ∧ result = .ok (.error e) := by
  rw [runs_transceiveRetrying_iff]
  constructor
  · rintro ⟨outcome, retried, rfl⟩
    obtain ⟨rfl, rfl⟩ := Retried.of_refusal refusal retried
    exact ⟨rfl, rfl⟩
  · rintro ⟨rfl, rfl⟩
    exact ⟨_, .settled (.refused refusal) nofun, rfl⟩

/-- What a query returns once it has got so far. -/
theorem runs_transceiveRetrying_of_retried {trace : Trace} {outcome : Except Error (List UInt8)}
    (retried : Retried cmd payload Proto.maxRetries trace outcome)
    (result : Except Fault (Except Error (List UInt8))) :
    (dev.transceiveRetrying cmd payload).run.Runs trace result ↔ result = .ok outcome :=
  (runs_transceiveRetrying_iff.mpr ⟨outcome, retried, rfl⟩).result_iff

/-- **The retry loop.** A persistent command is gated and any other oversized one refused,
without a frame. Otherwise the query stops at the first attempt that fails or returns a
nonempty reply, with the outcome of that attempt, or after `maxRetries` empty replies with
`noResponse`; each attempt sends the frame once; and nothing else is a run. The exchanges
up to there are all that a run depends on. -/
theorem transceiveRetrying_stops (dev : ElanMoc2) (cmd : Cmd) (payload : List UInt8) :
    (cmd.effect = .persistent → ∀ trace result,
      (dev.transceiveRetrying cmd payload).run.Runs trace result ↔
        trace = [] ∧ result = .ok (.error (.gated cmd.name))) ∧
    (cmd.effect ≠ .persistent → Proto.frame cmd payload = .ok none → ∀ trace result,
      (dev.transceiveRetrying cmd payload).run.Runs trace result ↔
        trace = [] ∧ result = .ok (.error (.payloadTooLarge cmd.name))) ∧
    (∀ out, cmd.effect ≠ .persistent → Proto.frame cmd payload = .ok (some out) →
      (∀ (empty : List Trace) (last : Trace) outcome, empty.length < Proto.maxRetries →
        (∀ attempt ∈ empty, (dev.transceive cmd payload).run.Runs attempt (.ok (.ok []))) →
        (dev.transceive cmd payload).run.Runs last (.ok outcome) → outcome ≠ .ok [] →
        (∀ result, (dev.transceiveRetrying cmd payload).run.Runs (empty.flatten ++ last) result ↔
          result = .ok outcome) ∧
        Trace.outFrames (empty.flatten ++ last) = List.replicate (empty.length + 1) out) ∧
      (∀ empty : List Trace, empty.length = Proto.maxRetries →
        (∀ attempt ∈ empty, (dev.transceive cmd payload).run.Runs attempt (.ok (.ok []))) →
        (∀ result, (dev.transceiveRetrying cmd payload).run.Runs empty.flatten result ↔
          result = .ok (.error (.noResponse cmd.name))) ∧
        Trace.outFrames empty.flatten = List.replicate Proto.maxRetries out) ∧
      ∀ trace result, (dev.transceiveRetrying cmd payload).run.Runs trace result →
        ∃ empty : List Trace,
          (∀ attempt ∈ empty, (dev.transceive cmd payload).run.Runs attempt (.ok (.ok []))) ∧
          ((empty.length = Proto.maxRetries ∧ trace = empty.flatten) ∨
            ∃ last outcome, empty.length < Proto.maxRetries ∧
              (dev.transceive cmd payload).run.Runs last (.ok outcome) ∧ outcome ≠ .ok [] ∧
              trace = empty.flatten ++ last)) ∧
    ∀ trace more result other, (dev.transceiveRetrying cmd payload).run.Runs trace result →
      (dev.transceiveRetrying cmd payload).run.Runs (trace ++ more) other →
      more = [] ∧ other = result := by
  refine ⟨?_, ?_, ?_, fun _ _ _ _ run longer => run.prefix_unique longer⟩
  · intro persistent
    exact runs_transceiveRetrying_of_refusal (if_pos ⟨nofun, persistent⟩)
  · intro untagged refused
    have oversized : ¬ Proto.Fits cmd payload := by
      intro fits
      rw [Proto.frame_of_fits fits] at refused
      exact nomatch refused
    have ungated : ¬ (EntryPoint.transceive ≠ .transceiveDestructive ∧
        cmd.effect = .persistent) := fun gated => untagged gated.2
    exact runs_transceiveRetrying_of_refusal ((if_neg ungated).trans (if_neg oversized))
  · intro out untagged framed
    obtain ⟨fits, rfl⟩ := Proto.frame_eq_some_iff.mp framed
    have allowed : EntryPoint.refusal .transceive cmd payload = none :=
      EntryPoint.refusal_eq_none_iff.mpr ⟨.inr untagged, fits⟩
    simp only [runs_transceive_iff]
    refine ⟨?_, ?_, ?_⟩
    · intro empty last outcome fewer unanswered asked final
      have retried := Retried.settled_after fewer unanswered asked final
      refine ⟨runs_transceiveRetrying_of_retried retried, ?_⟩
      rw [Trace.outFrames_append, AllEmpty.outFrames allowed unanswered, asked.outFrames allowed,
        List.replicate_succ']
    · intro empty used unanswered
      have retried := Retried.exhausted_after used unanswered
      refine ⟨runs_transceiveRetrying_of_retried retried, ?_⟩
      rw [AllEmpty.outFrames allowed unanswered, used]
    · intro trace result run
      obtain ⟨outcome, retried, rfl⟩ := runs_transceiveRetrying_iff.mp run
      rcases retried.split with
        ⟨empty, used, unanswered, rfl, -⟩ | ⟨empty, last, fewer, unanswered, asked, final, rfl⟩
      · exact ⟨empty, unanswered, .inl ⟨used, rfl⟩⟩
      · exact ⟨empty, unanswered, .inr ⟨last, outcome, fewer, asked, final, rfl⟩⟩

end Elan0c00
