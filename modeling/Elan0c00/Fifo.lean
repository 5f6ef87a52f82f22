import Elan0c00.Interaction.ReplyQueue
import Elan0c00.Session
import Mathlib.Logic.Function.Basic
import Mathlib.Logic.Relation

/-! # Late replies

A sensor whose replies wait in a queue for each IN endpoint. Every request with a reply is
owed one, which arrives at any later moment; a read takes the head of the queue, or times
out when nothing has arrived. A reply does not name its request, so a call that times out
leaves its reply to the next call on the endpoint (`Fifo.late_record`). A call returns only
what the sensor sent for it if nothing was outstanding on its endpoint when it began
(`Fifo.owned_of_settled`), and on an endpoint with something outstanding some call does not
(`Fifo.replies_owned`).
-/

namespace Elan0c00

open Interaction Bytes

/-- What is on its way: the number of requests with a reply sent so far, which is the name of
the next one, the queue of each endpoint and the replies taken. -/
structure Wire where
  sent : Nat
  queue : UInt8 → ReplyQueue Nat (List UInt8)
  taken : List (Nat × List UInt8)

namespace Wire

def idle : Wire := ⟨0, fun _ => .empty, []⟩

/-- The requests on an endpoint whose reply has not been taken. -/
def outstanding (wire : Wire) (endpoint : UInt8) : List Nat := (wire.queue endpoint).outstanding

/-- A frame of the command reached the sensor. -/
def request (wire : Wire) (cmd : Cmd) : Wire :=
  if 0 < cmd.inLen then
    { wire with
      sent := wire.sent + 1
      queue := Function.update wire.queue cmd.epIn ((wire.queue cmd.epIn).request wire.sent) }
  else wire

def take (wire : Wire) (endpoint : UInt8) (entry : Nat × List UInt8)
    (rest : ReplyQueue Nat (List UInt8)) : Wire :=
  { wire with
    queue := Function.update wire.queue endpoint rest
    taken := wire.taken ++ [entry] }

/-- A reply arrives on some endpoint. -/
inductive Arrives (wire : Wire) : Wire → Prop where
  | mk (endpoint : UInt8) {next : ReplyQueue Nat (List UInt8)}
      (arrives : (wire.queue endpoint).Arrives next) :
      Arrives wire { wire with queue := Function.update wire.queue endpoint next }

/-- Any number of replies arrive. -/
abbrev Arrivals : Wire → Wire → Prop := Relation.ReflTransGen Arrives

variable {before after : Wire}

theorem Arrives.frame (arrives : Arrives before after) :
    after.sent = before.sent ∧ after.taken = before.taken ∧
      ∀ endpoint, after.outstanding endpoint = before.outstanding endpoint := by
  cases arrives with
  | @mk endpoint next arrives =>
      refine ⟨rfl, rfl, ?_⟩
      intro other
      change (Function.update before.queue endpoint next other).outstanding =
        (before.queue other).outstanding
      by_cases same : other = endpoint
      · subst same
        rw [Function.update_self, arrives.outstanding_eq]
      · rw [Function.update_of_ne same]

/-- Arrivals change neither what was sent, nor what was taken, nor what is outstanding. -/
theorem Arrivals.frame (arrivals : Arrivals before after) :
    after.sent = before.sent ∧ after.taken = before.taken ∧
      ∀ endpoint, after.outstanding endpoint = before.outstanding endpoint := by
  induction arrivals with
  | refl => exact ⟨rfl, rfl, fun _ => rfl⟩
  | tail _ arrives ih =>
      obtain ⟨sent, taken, outstanding⟩ := ih
      obtain ⟨sent', taken', outstanding'⟩ := arrives.frame
      exact ⟨sent'.trans sent, taken'.trans taken,
        fun endpoint => (outstanding' endpoint).trans (outstanding endpoint)⟩

theorem outstanding_request {cmd : Cmd} (replying : 0 < cmd.inLen) (wire : Wire) :
    (wire.request cmd).sent = wire.sent + 1 ∧ (wire.request cmd).taken = wire.taken ∧
      (wire.request cmd).outstanding cmd.epIn = wire.outstanding cmd.epIn ++ [wire.sent] := by
  unfold request outstanding
  rw [if_pos replying]
  refine ⟨rfl, rfl, ?_⟩
  simp only [Function.update_self, ReplyQueue.outstanding_request]

theorem queue_request {cmd : Cmd} (replying : 0 < cmd.inLen) (wire : Wire) :
    (wire.request cmd).queue cmd.epIn = (wire.queue cmd.epIn).request wire.sent := by
  unfold request
  rw [if_pos replying]
  exact Function.update_self ..

theorem outstanding_take (wire : Wire) (endpoint : UInt8) (entry : Nat × List UInt8)
    (rest : ReplyQueue Nat (List UInt8)) :
    (wire.take endpoint entry rest).outstanding endpoint = rest.outstanding := by
  unfold take outstanding
  simp only [Function.update_self]

/-- Requests are named by their number, so the outstanding ones are below the count. -/
def Bounded (wire : Wire) : Prop := ∀ endpoint, ∀ id ∈ wire.outstanding endpoint, id < wire.sent

theorem bounded_idle : idle.Bounded := nofun

theorem Bounded.arrivals (bounded : before.Bounded) (arrivals : Arrivals before after) :
    after.Bounded := by
  obtain ⟨sent, -, outstanding⟩ := arrivals.frame
  intro endpoint id member
  rw [outstanding endpoint] at member
  rw [sent]
  exact bounded endpoint id member

theorem Bounded.request (bounded : before.Bounded) (cmd : Cmd) : (before.request cmd).Bounded := by
  by_cases replying : 0 < cmd.inLen
  · obtain ⟨sent, -, owed⟩ := outstanding_request replying before
    intro endpoint id member
    rw [sent]
    by_cases same : endpoint = cmd.epIn
    · rw [same, owed] at member
      rcases List.mem_append.mp member with old | new
      · exact Nat.lt_succ_of_lt (bounded cmd.epIn id old)
      · rw [List.mem_singleton.mp new]
        exact Nat.lt_succ_self _
    · have other : (before.request cmd).outstanding endpoint = before.outstanding endpoint := by
        unfold Wire.request outstanding
        rw [if_pos replying]
        simp only [Function.update_of_ne same]
      rw [other] at member
      exact Nat.lt_succ_of_lt (bounded endpoint id member)
  · unfold Wire.request
    rw [if_neg replying]
    exact bounded

theorem Bounded.take (bounded : before.Bounded) {endpoint : UInt8} {entry : Nat × List UInt8}
    {rest : ReplyQueue Nat (List UInt8)} (takes : (before.queue endpoint).Takes entry rest) :
    (before.take endpoint entry rest).Bounded := by
  intro other id member
  by_cases same : other = endpoint
  · rw [same, outstanding_take] at member
    apply bounded endpoint id
    unfold outstanding
    rw [takes.outstanding_eq]
    exact List.mem_cons_of_mem _ member
  · apply bounded other id
    unfold Wire.take outstanding at member
    simp only [Function.update_of_ne same] at member
    exact member

end Wire

/-- How the sensor and libusb answer the transfers of a command. A failed OUT may have
reached the sensor or not. A read times out only when nothing has arrived, a reply longer than the
buffer is lost with an error, and a read that fails otherwise takes nothing. -/
def fifo (cmd : Cmd) : Environment Answer Wire := fun before request answer after =>
  ∃ ready, before.Arrivals ready ∧
    match request, answer with
    | .writeBulk _ _ _, .ok _ => after = ready.request cmd
    | .writeBulk _ _ _, .error _ => after = ready ∨ after = ready.request cmd
    | .readBulk endpoint _ _, .ok reply => ∃ id rest,
        (ready.queue endpoint).Takes (id, reply.val) rest ∧
          after = ready.take endpoint (id, reply.val) rest
    | .readBulk endpoint len _, .error e =>
        (e ≠ .overflow ∧ (e = .timeout → (ready.queue endpoint).arrived = []) ∧ after = ready) ∨
          e = .overflow ∧ ∃ id reply rest, (ready.queue endpoint).Takes (id, reply) rest ∧
            len < reply.length ∧ after = ready.take endpoint (id, reply) rest
    | .println _, _ => after = ready

namespace Fifo

variable {cmd : Cmd} {payload : List UInt8} {trace : Trace} {before after : Wire}

/-- With nothing outstanding, the reply of an exchange is the one of its own request. -/
theorem exchange_owned {reply : List UInt8} (replying : 0 < cmd.inLen)
    (exchange : Exchange cmd payload trace (.ok reply)) (path : Path (fifo cmd) before trace after)
    (settled : before.outstanding cmd.epIn = []) :
    after.outstanding cmd.epIn = [] ∧ after.sent = before.sent + 1 ∧
      after.taken = before.taken ++ [(before.sent, reply)] := by
  cases exchange with
  | silent replyless => exact absurd replyless (Nat.ne_of_gt replying)
  | received _ bytes received =>
      obtain ⟨middle, ⟨ready, arrivals, rfl⟩, tail⟩ := Path.cons_iff.mp path
      obtain ⟨last, ⟨ready', arrivals', id, rest, takes, rfl⟩, ended⟩ := Path.cons_iff.mp tail
      obtain rfl := Path.nil_iff.mp ended
      obtain ⟨sent, taken, outstanding⟩ := arrivals.frame
      obtain ⟨sent', taken', outstanding'⟩ := arrivals'.frame
      obtain ⟨counted, kept, owed⟩ := Wire.outstanding_request replying ready
      have one : (ready'.queue cmd.epIn).outstanding = [before.sent] := by
        have same := outstanding' cmd.epIn
        rw [owed, outstanding cmd.epIn, settled, sent] at same
        exact same
      have head := takes.outstanding_eq
      rw [one] at head
      obtain ⟨rfl, none⟩ := List.cons.inj head
      refine ⟨?_, ?_, ?_⟩
      · rw [Wire.outstanding_take]
        exact none.symm
      · exact sent'.trans (counted.trans (congrArg (· + 1) sent))
      · change ready'.taken ++ _ = _
        rw [taken', kept, taken]

/-- The last reply taken is the one of a request sent meanwhile. -/
def LastOwn (before after : Wire) (reply : List UInt8) : Prop :=
  ∃ earlier id, after.taken = before.taken ++ (earlier ++ [(id, reply)]) ∧
    before.sent ≤ id ∧ id < after.sent

/-- An attempt that got an empty reply leaves nothing outstanding for the next one. -/
theorem retried_owned {attempts : Nat} {reply : List UInt8} (replying : 0 < cmd.inLen)
    (retried : Retried cmd payload attempts trace (.ok reply))
    (path : Path (fifo cmd) before trace after) (settled : before.outstanding cmd.epIn = []) :
    LastOwn before after reply := by
  induction attempts generalizing trace before with
  | zero => cases retried
  | succ attempts ih =>
      cases retried with
      | settled asked =>
          obtain ⟨-, sent, taken⟩ :=
            exchange_owned replying asked.exchange path settled
          exact ⟨[], before.sent, taken, Nat.le_refl _, by omega⟩
      | again empty later =>
          obtain ⟨middle, head, tail⟩ := Path.append_iff.mp path
          obtain ⟨clear, sent, taken⟩ :=
            exchange_owned replying empty.exchange head settled
          obtain ⟨earlier, id, last, above, below⟩ := ih later tail clear
          refine ⟨(before.sent, []) :: earlier, id, ?_, by omega, below⟩
          rw [last, taken, List.append_assoc]
          rfl

end Fifo

/-- A finished call with the state of the wire around it. -/
structure WireCall (dev : ElanMoc2) where
  before : Wire
  after : Wire
  finished : Finished dev
  path : Path (fifo finished.call.cmd) before finished.trace after

/-- Calls one after another, replies arriving in between. -/
inductive WireRun (dev : ElanMoc2) : Wire → List (WireCall dev) → Wire → Prop where
  | nil (wire : Wire) : WireRun dev wire [] wire
  | cons {start final : Wire} {step : WireCall dev} {rest : List (WireCall dev)}
      (arrivals : start.Arrivals step.before) (tail : WireRun dev step.after rest final) :
      WireRun dev start (step :: rest) final

namespace Fifo

variable {dev : ElanMoc2}

/-- What the call returned is decoded from the reply to a frame it sent itself. -/
def OwnReply (step : WireCall dev) : Prop :=
  ∀ value, step.finished.result = .ok (.ok value) → step.finished.call.cmd.inLen = 0 ∨
    ∃ reply, LastOwn step.before step.after reply ∧
      step.finished.call.decode dev reply = .ok value

/-- Nothing was outstanding on the endpoint of the call when it began. -/
def Settled (step : WireCall dev) : Prop :=
  step.before.outstanding step.finished.call.cmd.epIn = []

theorem owned_of_settled (step : WireCall dev) (settled : Settled step) : OwnReply step := by
  intro value returned
  by_cases replyless : step.finished.call.cmd.inLen = 0
  · exact .inl replyless
  · have replying := Nat.pos_of_ne_zero replyless
    obtain ⟨outcome, replies, same⟩ := step.finished.replies
    rw [same, Except.ok.injEq] at returned
    cases outcome with
    | error e => exact nomatch returned
    | ok reply =>
        refine .inr ⟨reply, ?_, returned⟩
        unfold Call.Replies at replies
        split at replies
        · exact retried_owned replying replies step.path settled
        · obtain ⟨-, sent, taken⟩ :=
            exchange_owned replying replies.exchange step.path settled
          exact ⟨[], step.before.sent, taken, Nat.le_refl _, by omega⟩

/-- Every answer keeps the outstanding requests below the count. -/
theorem fifo_bounded {cmd : Cmd} (before : Wire) (request : Request) (answer : Answer request)
    (after : Wire) (step : fifo cmd before request answer after) (bounded : before.Bounded) :
    after.Bounded := by
  obtain ⟨ready, arrivals, answered⟩ := step
  have waiting := bounded.arrivals arrivals
  cases request with
  | writeBulk endpoint buf timeout =>
      cases answer with
      | ok taken =>
          obtain rfl := answered
          exact waiting.request cmd
      | error e =>
          rcases answered with rfl | rfl
          · exact waiting
          · exact waiting.request cmd
  | readBulk endpoint len timeout =>
      cases answer with
      | ok reply =>
          obtain ⟨id, rest, takes, rfl⟩ := answered
          exact waiting.take takes
      | error e =>
          rcases answered with ⟨-, -, rfl⟩ | ⟨-, id, reply, rest, takes, -, rfl⟩
          · exact waiting
          · exact waiting.take takes
  | println line =>
      obtain rfl := answered
      exact waiting

theorem bounded_of_run {start final : Wire} {steps : List (WireCall dev)}
    (run : WireRun dev start steps final) (bounded : start.Bounded) : final.Bounded := by
  induction run with
  | nil => exact bounded
  | @cons start final step rest arrivals _ ih =>
      exact ih (step.path.invariant fifo_bounded (bounded.arrivals arrivals))

/-- A command without an opcode, with room for a reply of a given length. -/
def probe (endpoint : UInt8) (inLen : Nat) : Cmd where
  name := "probe"
  cmd := []
  outLen := 1
  inLen := inLen
  epIn := endpoint
  isCancellable := false
  effect := .readOnly

/-- The probe, answered with a given reply. -/
def probed (dev : ElanMoc2) (endpoint : UInt8) (reply : List UInt8) : Finished dev where
  call := .transceiveRaw (probe endpoint (reply.length + 1)) []
  trace := [Bus.sentWhole [0x40],
    Bus.received (probe endpoint (reply.length + 1)) ⟨reply, Nat.le_succ _⟩]
  result := .ok (.ok (.bytes reply))
  runs := by
    have exchange := @Exchange.received (probe endpoint (reply.length + 1)) [] (Nat.succ_pos _)
      ⟨1, Nat.le_refl 1⟩ ⟨reply, Nat.le_succ _⟩
    have allowed : EntryPoint.refusal .transceiveRaw (probe endpoint (reply.length + 1)) [] =
        none := EntryPoint.refusal_eq_none_iff.mpr ⟨.inr nofun, Nat.le_refl 1⟩
    have asked := Asked.exchanged allowed exchange
    rw [Except.bind, EntryPoint.accept_raw] at asked
    exact (Call.runs_perform_iff _).mpr ⟨_, asked, rfl⟩

/-- With something outstanding on an endpoint, a call can return a reply that is not its own. -/
theorem exists_stale {state : Wire} (bounded : state.Bounded) {endpoint : UInt8}
    (unsettled : state.outstanding endpoint ≠ []) :
    ∃ step : WireCall dev, step.before = state ∧ step.finished.call.cmd.epIn = endpoint ∧
      ¬ OwnReply step := by
  obtain ⟨id, later, oldest⟩ := List.exists_cons_of_ne_nil unsettled
  obtain ⟨queue, reply, rest, arrived, takes⟩ := ReplyQueue.exists_takes oldest
  have stale : id < state.sent := by
    apply bounded endpoint id
    rw [oldest]
    exact List.mem_cons_self
  let ready : Wire := { state with queue := Function.update state.queue endpoint queue }
  have head : ready.queue endpoint = queue := Function.update_self ..
  have arrivals : state.Arrivals ready := by
    rcases arrived with rfl | arrives
    · have same : ready = state := by
        change { state with queue := Function.update state.queue endpoint _ } = state
        rw [Function.update_eq_self]
      rw [same]
    · exact .single (.mk endpoint arrives)
  let cmd := probe endpoint (reply.length + 1)
  have waiting : ((ready.request cmd).queue endpoint).Takes (id, reply)
      (rest.request ready.sent) := by
    have same : (ready.request cmd).queue endpoint =
        (ready.queue endpoint).request ready.sent :=
      @Wire.queue_request cmd (Nat.succ_pos _) ready
    rw [same, head]
    exact takes.request ready.sent
  have path : Path (fifo cmd) state (probed dev endpoint reply).trace
      ((ready.request cmd).take endpoint (id, reply) (rest.request ready.sent)) :=
    .cons ⟨ready, arrivals, rfl⟩
      (.cons ⟨ready.request cmd, .refl, id, rest.request ready.sent, waiting, rfl⟩ (.nil _))
  refine ⟨⟨state, _, probed dev endpoint reply, path⟩, rfl, rfl, ?_⟩
  intro own
  rcases own (.bytes reply) rfl with replyless | ⟨other, ⟨earlier, last, taken, above, -⟩, -⟩
  · exact absurd replyless (Nat.succ_ne_zero _)
  · have kept : (ready.request cmd).taken = state.taken :=
      (Wire.outstanding_request (Nat.succ_pos _) ready).2.1
    change (ready.request cmd).taken ++ [(id, reply)] = state.taken ++ (earlier ++ _) at taken
    rw [kept] at taken
    have ending := congrArg List.getLast? (List.append_cancel_left taken)
    rw [List.getLast?_concat] at ending
    obtain rfl : id = last := congrArg Prod.fst (Option.some.inj ending)
    exact absurd stale (Nat.not_lt.mpr above)

/-- `finger_info` of slot 0 times out before its reply arrives. -/
def timedOut : WireCall ⟨0x0c00, 0, true⟩ where
  before := Wire.idle
  after := Wire.idle.request Proto.fingerInfo
  finished :=
    { call := .fingerInfo 0
      trace := [Bus.sentWhole [0x40, 0xff, 0x12, 0],
        Bus.recvFailed Proto.fingerInfo .timeout]
      result := .ok (.error (.usb .timeout))
      runs := by
        have exchange := @Exchange.recvFailed Proto.fingerInfo [0] (Nat.succ_pos 63)
          ⟨4, Nat.le_refl 4⟩ .timeout
        have asked := Asked.exchanged (rfl : EntryPoint.refusal .transceive _ _ = none)
          exchange
        exact (Call.runs_perform_iff (.fingerInfo 0)).mpr ⟨_, .settled asked nofun, rfl⟩ }
  path := .cons ⟨Wire.idle, .refl, rfl⟩ (.cons ⟨_, .refl, .inl ⟨nofun, fun _ => rfl, rfl⟩⟩ (.nil _))

/-- The record of slot 0. -/
def record0 : List UInt8 := [0x40, 0x00, 0x46, 0x30]

/-- `finger_info` of a slot, answered at once with the record of slot 0. -/
def given0 (index : UInt8) : Finished ⟨0x0c00, 0, true⟩ where
  call := .fingerInfo index
  trace := [Bus.sentWhole [0x40, 0xff, 0x12, index],
    Bus.received Proto.fingerInfo ⟨record0, Nat.le_add_right 4 60⟩]
  result := .ok (.ok (.info { index := index, userId := [0x46, 0x30] }))
  runs := by
    have exchange := @Exchange.received Proto.fingerInfo [index] (Nat.succ_pos 63)
      ⟨4, Nat.le_refl 4⟩ ⟨record0, Nat.le_add_right 4 60⟩
    have asked := Asked.exchanged (rfl : EntryPoint.refusal .transceive _ _ = none) exchange
    exact (Call.runs_perform_iff (.fingerInfo index)).mpr ⟨_, .settled asked nofun, rfl⟩

/-- The wire when a request for slot 0 is out and its reply has arrived. -/
def replied0 : Wire :=
  { Wire.idle.request Proto.fingerInfo with
    queue := Function.update (Wire.idle.request Proto.fingerInfo).queue Proto.epCmdIn
      ⟨[(0, record0)], []⟩ }

/-- `finger_info` of slot 0, its reply arriving in time. -/
def answered : WireCall ⟨0x0c00, 0, true⟩ where
  before := Wire.idle
  after := replied0.take Proto.epCmdIn (0, record0) ⟨[], []⟩
  finished := given0 0
  path := by
    have arrives : (Wire.idle.request Proto.fingerInfo).Arrives replied0 :=
      .mk Proto.epCmdIn (.mk [] 0 record0 [])
    have takes : (replied0.queue Proto.epCmdIn).Takes (0, record0) ⟨[], []⟩ := .mk _ _ _
    exact .cons ⟨_, .refl, rfl⟩ (.cons ⟨replied0, .single arrives, 0, _, takes, rfl⟩ (.nil _))

/-- **Replies and requests.** From an idle sensor, if every call of a run begins with nothing
outstanding on its endpoint, every value returned is decoded from the reply to a frame of the
call that returned it. In a state that can be reached, this holds of all calls on an endpoint
exactly when nothing is outstanding there. -/
theorem replies_owned (dev : ElanMoc2) :
    (∀ (steps : List (WireCall dev)) (final : Wire), WireRun dev Wire.idle steps final →
      (∀ step ∈ steps, Settled step) → ∀ step ∈ steps, OwnReply step) ∧
    (∀ (steps : List (WireCall dev)) (state : Wire), WireRun dev Wire.idle steps state →
      ∀ endpoint, (∀ step : WireCall dev, step.before = state →
          step.finished.call.cmd.epIn = endpoint → OwnReply step) ↔
        state.outstanding endpoint = []) := by
  refine ⟨?_, ?_⟩
  · intro steps final _ settled step member
    exact owned_of_settled step (settled step member)
  · intro steps state run endpoint
    constructor
    · intro owned
      by_contra unsettled
      obtain ⟨step, start, called, stale⟩ :=
        exists_stale (bounded_of_run run Wire.bounded_idle) unsettled
      exact stale (owned step start called)
    · rintro settled step rfl rfl
      exact owned_of_settled step settled

/-- A record that came in time, and the state that a timeout leaves. -/
theorem replies_owned_answered :
    (answered.finished.result = .ok (.ok (.info { index := 0, userId := [0x46, 0x30] })) ∧
        OwnReply answered) ∧
      ((∀ step : WireCall ⟨0x0c00, 0, true⟩, step.before = timedOut.after →
          step.finished.call.cmd.epIn = Proto.epCmdIn → OwnReply step) ↔
        timedOut.after.outstanding Proto.epCmdIn = []) := by
  have read : WireRun ⟨0x0c00, 0, true⟩ Wire.idle [answered] answered.after :=
    .cons .refl (.nil _)
  have run : WireRun ⟨0x0c00, 0, true⟩ Wire.idle [timedOut] timedOut.after :=
    .cons .refl (.nil _)
  obtain ⟨owned, exact_⟩ := replies_owned ⟨0x0c00, 0, true⟩
  refine ⟨⟨rfl, owned [answered] _ read ?_ answered List.mem_cons_self⟩,
    exact_ [timedOut] _ run Proto.epCmdIn⟩
  intro step member
  rw [List.mem_singleton.mp member]
  rfl

/-- The wire when both requests are out and the reply to the first has arrived. -/
def arrived0 : Wire :=
  { (Wire.idle.request Proto.fingerInfo).request Proto.fingerInfo with
    queue := Function.update
      ((Wire.idle.request Proto.fingerInfo).request Proto.fingerInfo).queue Proto.epCmdIn
      ⟨[(0, record0)], [1]⟩ }

/-- `finger_info` of slot 1 right after, the reply to the first request arriving meanwhile. -/
def shifted : WireCall ⟨0x0c00, 0, true⟩ where
  before := Wire.idle.request Proto.fingerInfo
  after := arrived0.take Proto.epCmdIn (0, record0) ⟨[], [1]⟩
  finished := given0 1
  path := by
    have arrives : ((Wire.idle.request Proto.fingerInfo).request Proto.fingerInfo).Arrives
        arrived0 := .mk Proto.epCmdIn (.mk [] 0 record0 [1])
    have takes : (arrived0.queue Proto.epCmdIn).Takes (0, record0) ⟨[], [1]⟩ := .mk _ _ _
    exact .cons ⟨_, .refl, rfl⟩ (.cons ⟨arrived0, .single arrives, 0, _, takes, rfl⟩ (.nil _))

/-- After a timeout, `finger_info` of slot 1 returns the record sent for slot 0. -/
theorem late_record :
    (∃ final, WireRun ⟨0x0c00, 0, true⟩ Wire.idle [timedOut, shifted] final) ∧
      timedOut.finished.call = .fingerInfo 0 ∧ shifted.finished.call = .fingerInfo 1 ∧
      shifted.finished.result = .ok (.ok (.info { index := 1, userId := [0x46, 0x30] })) ∧
      shifted.after.taken = [(0, record0)] ∧ ¬ OwnReply shifted := by
  refine ⟨⟨_, .cons .refl (.cons .refl (.nil _))⟩, rfl, rfl, rfl, rfl, ?_⟩
  intro own
  rcases own _ rfl with replyless | ⟨reply, ⟨earlier, id, taken, above, -⟩, -⟩
  · exact absurd replyless (by decide)
  · change [(0, record0)] = [] ++ (earlier ++ [(id, reply)]) at taken
    have ending := congrArg List.getLast? taken
    rw [List.nil_append, List.getLast?_concat] at ending
    obtain rfl : 0 = id := congrArg Prod.fst (Option.some.inj ending)
    exact absurd above (by decide)

end Fifo

end Elan0c00
