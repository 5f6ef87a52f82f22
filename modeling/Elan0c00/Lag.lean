import Elan0c00.Fifo

/-! # A late reply stays late

The requests sent on an endpoint are settled in the order in which they were sent, and no call
takes more replies than it sends requests (`Wire.Served`). So the number of replies outstanding on
an endpoint never falls: once a reply is late, every reply that a later call on this endpoint
decodes is late by at least as many requests (`Fifo.late_replies`). Nothing in the library makes up
for it.
-/

namespace Elan0c00

open Interaction Bytes

namespace Wire

variable {endpoint : UInt8} {before middle after : Wire} {cmd : Cmd} {requests more : Nat}
  {entries rest : List (Nat × List UInt8)}

/-- So many requests were sent on the endpoint, and the entries were taken from it. -/
structure Served (endpoint : UInt8) (before : Wire) (requests : Nat)
    (entries : List (Nat × List UInt8)) (after : Wire) : Prop where
  sent : after.sent = before.sent + requests
  taken : after.taken = before.taken ++ entries
  order : before.outstanding endpoint ++ List.range' before.sent requests =
    entries.map Prod.fst ++ after.outstanding endpoint
  others : ∀ other, other ≠ endpoint → after.outstanding other = before.outstanding other

namespace Served

theorem arrivals (arrivals : Arrivals before after) : Served endpoint before 0 [] after := by
  obtain ⟨sent, taken, outstanding⟩ := arrivals.frame
  refine ⟨sent, taken.trans (List.append_nil _).symm, ?_, fun other _ => outstanding other⟩
  rw [outstanding]
  exact List.append_nil _

theorem request (replying : 0 < cmd.inLen) (wire : Wire) :
    Served cmd.epIn wire 1 [] (wire.request cmd) := by
  obtain ⟨sent, taken, outstanding⟩ := outstanding_request replying wire
  refine ⟨sent, taken.trans (List.append_nil _).symm, outstanding.symm, fun other different => ?_⟩
  unfold Wire.request Wire.outstanding
  rw [if_pos replying]
  simp only [Function.update_of_ne different]

theorem take {entry : Nat × List UInt8} {queue : ReplyQueue Nat (List UInt8)}
    (takes : (before.queue endpoint).Takes entry queue) :
    Served endpoint before 0 [entry] (before.take endpoint entry queue) := by
  refine ⟨rfl, rfl, ?_, fun other different => ?_⟩
  · rw [outstanding_take]
    exact (List.append_nil _).trans takes.outstanding_eq
  · unfold Wire.take Wire.outstanding
    simp only [Function.update_of_ne different]

theorem trans (first : Served endpoint before requests entries middle)
    (second : Served endpoint middle more rest after) :
    Served endpoint before (requests + more) (entries ++ rest) after where
  sent := by rw [second.sent, first.sent, Nat.add_assoc]
  taken := by rw [second.taken, first.taken, List.append_assoc]
  order := by
    have settled := second.order
    rw [first.sent] at settled
    rw [← List.range'_append_1, ← List.append_assoc, first.order, List.append_assoc, settled,
      List.map_append, List.append_assoc]
  others other different := (second.others other different).trans (first.others other different)

/-- No more is outstanding before than after. -/
theorem length_le (served : Served endpoint before requests entries after)
    (fewer : entries.length ≤ requests) (other : UInt8) :
    (before.outstanding other).length ≤ (after.outstanding other).length := by
  by_cases same : other = endpoint
  · subst same
    have lengths := congrArg List.length served.order
    rw [List.length_append, List.length_append, List.length_range', List.length_map] at lengths
    omega
  · rw [served.others other same]

end Served

end Wire

namespace Fifo

open Wire (Served)

variable {cmd : Cmd} {payload : List UInt8} {trace : Trace} {before after : Wire}
  {outcome : Except Error (List UInt8)}

/-- What is decoded is the last of the replies taken, and none is taken that was not paid for with
a request. -/
def Paid (cmd : Cmd) (before : Wire) (outcome : Except Error (List UInt8)) (after : Wire) : Prop :=
  ∃ requests entries, Served cmd.epIn before requests entries after ∧ entries.length ≤ requests ∧
    ∀ reply, outcome = .ok reply → 0 < cmd.inLen → ∃ earlier id, entries = earlier ++ [(id, reply)]

theorem paid_of_exchange (exchange : Exchange cmd payload trace outcome)
    (path : Path (fifo cmd) before trace after) : Paid cmd before outcome after := by
  cases exchange with
  | sendFailed e =>
      obtain ⟨_, ⟨ready, arrivals, reached⟩, ended⟩ := Path.cons_iff.mp path
      obtain rfl := Path.nil_iff.mp ended
      rcases reached with rfl | rfl
      · exact ⟨_, _, .arrivals arrivals, Nat.le_refl _, by rintro _ ⟨⟩⟩
      · by_cases replying : 0 < cmd.inLen
        · exact ⟨_, _, (Served.arrivals arrivals).trans (.request replying ready), Nat.zero_le _,
            by rintro _ ⟨⟩⟩
        · have unchanged : ready.request cmd = ready := if_neg replying
          rw [unchanged]
          exact ⟨_, _, .arrivals arrivals, Nat.le_refl _, by rintro _ ⟨⟩⟩
  | silent replyless taken =>
      obtain ⟨_, ⟨ready, arrivals, rfl⟩, ended⟩ := Path.cons_iff.mp path
      obtain rfl := Path.nil_iff.mp ended
      have none : ¬ 0 < cmd.inLen := Nat.not_lt.mpr (Nat.le_of_eq replyless)
      have unchanged : ready.request cmd = ready := if_neg none
      rw [unchanged]
      exact ⟨_, _, .arrivals arrivals, Nat.le_refl _, fun _ _ replying => absurd replying none⟩
  | recvFailed replying taken e =>
      obtain ⟨_, ⟨ready, arrivals, rfl⟩, tail⟩ := Path.cons_iff.mp path
      obtain ⟨_, ⟨ready', arrivals', failed⟩, ended⟩ := Path.cons_iff.mp tail
      obtain rfl := Path.nil_iff.mp ended
      have asked := ((Served.arrivals arrivals).trans (.request replying ready)).trans
        (.arrivals arrivals')
      rcases failed with ⟨-, -, rfl⟩ | ⟨-, id, reply, rest, takes, -, rfl⟩
      · exact ⟨_, _, asked, Nat.zero_le _, by rintro _ ⟨⟩⟩
      · exact ⟨_, _, asked.trans (.take takes), Nat.le_refl _, by rintro _ ⟨⟩⟩
  | received replying taken reply =>
      obtain ⟨_, ⟨ready, arrivals, rfl⟩, tail⟩ := Path.cons_iff.mp path
      obtain ⟨_, ⟨ready', arrivals', id, rest, takes, rfl⟩, ended⟩ := Path.cons_iff.mp tail
      obtain rfl := Path.nil_iff.mp ended
      refine ⟨_, _, (((Served.arrivals arrivals).trans (.request replying ready)).trans
        (.arrivals arrivals')).trans (.take takes), Nat.le_refl _, ?_⟩
      rintro _ ⟨⟩ -
      exact ⟨[], id, rfl⟩

/-- An answer that is not accepted is not decoded. -/
theorem paid_of_asked {entry : EntryPoint} (asked : Asked entry cmd payload trace outcome)
    (path : Path (fifo cmd) before trace after) : Paid cmd before outcome after := by
  cases asked with
  | refused refusal =>
      obtain rfl := Path.nil_iff.mp path
      exact ⟨_, _, .arrivals .refl, Nat.le_refl _, by rintro _ ⟨⟩⟩
  | @exchanged trace arrived allowed exchange =>
      obtain ⟨requests, entries, served, fewer, last⟩ := paid_of_exchange exchange path
      refine ⟨requests, entries, served, fewer, fun reply same => ?_⟩
      cases arrived with
      | error e => cases same
      | ok bytes =>
          rcases entry.accept_cases bytes with accepted | ⟨first, foreign⟩
          · rw [Except.bind, accepted] at same
            exact last reply same
          · rw [Except.bind, foreign] at same
            cases same

theorem paid_of_retried {attempts : Nat} (retried : Retried cmd payload attempts trace outcome)
    (path : Path (fifo cmd) before trace after) : Paid cmd before outcome after := by
  induction retried generalizing before with
  | exhausted =>
      obtain rfl := Path.nil_iff.mp path
      exact ⟨_, _, .arrivals .refl, Nat.le_refl _, by rintro _ ⟨⟩⟩
  | settled asked final => exact paid_of_asked asked path
  | again empty later ih =>
      obtain ⟨middle, head, tail⟩ := Path.append_iff.mp path
      obtain ⟨requests, entries, served, fewer, -⟩ := paid_of_asked empty head
      obtain ⟨more, rest, served', fewer', last⟩ := ih tail
      refine ⟨_, _, served.trans served', ?_, fun reply same replying => ?_⟩
      · rw [List.length_append]
        exact Nat.add_le_add fewer fewer'
      · obtain ⟨earlier, id, rfl⟩ := last reply same replying
        exact ⟨entries ++ earlier, id, (List.append_assoc ..).symm⟩

variable {dev : ElanMoc2}

theorem paid_of_call (step : WireCall dev) : ∃ outcome,
    step.finished.result = .ok (outcome.bind (step.finished.call.decode dev)) ∧
      Paid step.finished.call.cmd step.before outcome step.after := by
  obtain ⟨outcome, replies, same⟩ := step.finished.replies
  refine ⟨outcome, same, ?_⟩
  unfold Call.Replies at replies
  split at replies
  · exact paid_of_retried replies step.path
  · exact paid_of_asked replies step.path

theorem length_le_of_arrivals (arrivals : before.Arrivals after) (endpoint : UInt8) :
    (before.outstanding endpoint).length ≤ (after.outstanding endpoint).length :=
  (@Served.arrivals endpoint _ _ arrivals).length_le (Nat.le_refl 0) endpoint

theorem length_le_of_call (step : WireCall dev) (endpoint : UInt8) :
    (step.before.outstanding endpoint).length ≤ (step.after.outstanding endpoint).length := by
  obtain ⟨-, -, requests, entries, served, fewer, -⟩ := paid_of_call step
  exact served.length_le fewer endpoint

/-- In a run nothing is made up for, neither at its end nor before any of its calls. -/
theorem length_le_of_run {start final : Wire} {steps : List (WireCall dev)}
    (run : WireRun dev start steps final) (endpoint : UInt8) :
    (start.outstanding endpoint).length ≤ (final.outstanding endpoint).length ∧
      ∀ step ∈ steps,
        (start.outstanding endpoint).length ≤ (step.before.outstanding endpoint).length := by
  induction run with
  | nil => exact ⟨Nat.le_refl _, List.forall_mem_nil _⟩
  | @cons start final step rest arrivals tail ih =>
      obtain ⟨ended, within⟩ := ih
      have begun := length_le_of_arrivals arrivals endpoint
      have called := begun.trans (length_le_of_call step endpoint)
      exact ⟨called.trans ended, List.forall_mem_cons.mpr
        ⟨begun, fun other member => called.trans (within other member)⟩⟩

/-- The value is decoded from the reply to a request that at least so many requests on the endpoint
have followed. -/
def LateBy (late : Nat) (step : WireCall dev) (value : Value) : Prop :=
  ∃ (requests id : Nat) (reply : List UInt8) (followers : List Nat),
    step.finished.call.decode dev reply = .ok value ∧
      step.after.taken.getLast? = some (id, reply) ∧
      step.after.sent = step.before.sent + requests ∧
      id :: followers <:+ step.before.outstanding step.finished.call.cmd.epIn ++
        List.range' step.before.sent requests ∧
      late ≤ followers.length

theorem late_of_call {step : WireCall dev} {value : Value}
    (replying : 0 < step.finished.call.cmd.inLen)
    (returned : step.finished.result = .ok (.ok value)) :
    LateBy (step.before.outstanding step.finished.call.cmd.epIn).length step value := by
  obtain ⟨outcome, same, requests, entries, served, fewer, last⟩ := paid_of_call step
  cases outcome with
  | error e =>
      rw [returned] at same
      cases same
  | ok reply =>
      obtain ⟨earlier, id, rfl⟩ := last reply rfl replying
      rw [returned] at same
      refine ⟨requests, id, reply, _, (Except.ok.inj same).symm, ?_, served.sent,
        ?_, served.length_le fewer _⟩
      · rw [served.taken, ← List.append_assoc, List.getLast?_concat]
      · rw [served.order, List.map_append, List.append_assoc]
        exact List.suffix_append _ _

/-- **A late reply stays late.** In a run of calls that begins with replies outstanding on an
endpoint, at least as many are outstanding at its end, and every value that a call on this endpoint
returns is decoded from the reply to an earlier request, by at least as many requests. -/
theorem late_replies {start final : Wire} {steps : List (WireCall dev)}
    (run : WireRun dev start steps final) (endpoint : UInt8) :
    (start.outstanding endpoint).length ≤ (final.outstanding endpoint).length ∧
      ∀ step ∈ steps, step.finished.call.cmd.epIn = endpoint → 0 < step.finished.call.cmd.inLen →
        ∀ value, step.finished.result = .ok (.ok value) →
          LateBy (start.outstanding endpoint).length step value := by
  obtain ⟨ended, within⟩ := length_le_of_run run endpoint
  refine ⟨ended, ?_⟩
  rintro step member rfl replying value returned
  obtain ⟨requests, id, reply, followers, decoded, last, sent, suffix, late⟩ :=
    late_of_call replying returned
  exact ⟨requests, id, reply, followers, decoded, last, sent, suffix,
    (within step member).trans late⟩

/-- The record of slot 0 that `finger_info` returns for slot 1. -/
theorem late_replies_shifted :
    (timedOut.after.outstanding Proto.epCmdIn).length ≤
        (shifted.after.outstanding Proto.epCmdIn).length ∧
      LateBy 1 shifted (.info { index := 1, userId := [0x46, 0x30] }) := by
  have run : WireRun ⟨0x0c00, 0, true⟩ timedOut.after [shifted] shifted.after :=
    .cons .refl (.nil _)
  obtain ⟨kept, late⟩ := late_replies run Proto.epCmdIn
  exact ⟨kept, late shifted List.mem_cons_self rfl (by decide) _ rfl⟩

end Fifo

end Elan0c00
