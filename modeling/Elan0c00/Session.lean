import Elan0c00.Call

/-! # Sessions on one handle

A session is a list of finished library calls, each carrying the run it is. On the bus a
session is a concatenation of blocks, one for each request that was sent
(`session_blocks`): the OUT of the frame, and the IN of its reply just when the OUT
succeeded and the command has a reply.
-/

namespace Elan0c00

open Interaction Bytes

/-- The errors that stop a command before it is sent. -/
def Error.IsRefusal : Error → Prop
  | .payloadTooLarge _ => True
  | .gated _ => True
  | _ => False

section Refusals

variable {entry : EntryPoint} {cmd : Cmd} {payload : List UInt8} {trace : Trace} {e : Error}

/-- An exchange fails by the transport only, its reply by the magic byte only. -/
theorem Exchange.not_isRefusal {known : Except Error (List UInt8)}
    (exchange : Exchange cmd payload trace known) (failed : known.bind entry.accept = .error e) :
    ¬ e.IsRefusal := by
  have accepted : ∀ reply, entry.accept reply = .error e → ¬ e.IsRefusal := by
    intro reply refused
    rcases entry.accept_cases reply with same | ⟨first, same⟩
    · exact nomatch same.symm.trans refused
    · cases same.symm.trans refused
      exact id
  cases exchange with
  | sendFailed usbError => cases failed; exact id
  | silent => exact accepted [] failed
  | recvFailed _ _ usbError => cases failed; exact id
  | received _ _ reply => exact accepted reply.val failed

theorem Asked.not_isRefusal (allowed : entry.refusal cmd payload = none)
    (asked : Asked entry cmd payload trace (.error e)) : ¬ e.IsRefusal := by
  obtain ⟨known, exchange, failed⟩ := asked.of_allowed allowed
  exact exchange.not_isRefusal failed.symm

theorem Retried.not_isRefusal {attempts : Nat}
    (allowed : EntryPoint.refusal .transceive cmd payload = none)
    (retried : Retried cmd payload attempts trace (.error e)) : ¬ e.IsRefusal := by
  induction attempts generalizing trace with
  | zero =>
      cases retried
      exact id
  | succ attempts ih =>
      cases retried with
      | settled asked => exact asked.not_isRefusal allowed
      | again _ later => exact ih later

end Refusals

/-! ### Blocks -/

/-- The transfers of one request: the OUT of its frame, then one IN of the command's reply if
the OUT succeeded and there is a reply to read, and nothing else. -/
inductive Block (cmd : Cmd) (payload : List UInt8) : Trace → Prop where
  | sendFailed {out : List UInt8} (framed : Proto.frame cmd payload = .ok (some out))
      (e : UsbError) : Block cmd payload [Bus.sendFailed out e]
  | silent {out : List UInt8} (framed : Proto.frame cmd payload = .ok (some out))
      (replyless : cmd.inLen = 0) (taken) : Block cmd payload [Bus.sent out taken]
  | replied {out : List UInt8} (framed : Proto.frame cmd payload = .ok (some out))
      (replying : 0 < cmd.inLen) (taken) (answer) :
      Block cmd payload
        [Bus.sent out taken, ⟨.readBulk cmd.epIn cmd.inLen recvTimeout, answer⟩]

theorem Exchange.block {cmd : Cmd} {payload : List UInt8} {trace : Trace}
    {known : Except Error (List UInt8)} (fits : Proto.Fits cmd payload)
    (exchange : Exchange cmd payload trace known) : Block cmd payload trace := by
  have framed := Proto.frame_of_fits fits
  cases exchange with
  | sendFailed e => exact .sendFailed framed e
  | silent replyless taken => exact .silent framed replyless taken
  | recvFailed replying taken e => exact .replied framed replying taken _
  | received replying taken reply => exact .replied framed replying taken _

theorem Asked.blocks {entry : EntryPoint} {cmd : Cmd} {payload : List UInt8} {trace : Trace}
    {outcome : Except Error (List UInt8)} (asked : Asked entry cmd payload trace outcome) :
    ∃ blocks : List Trace, trace = blocks.flatten ∧ ∀ block ∈ blocks, Block cmd payload block := by
  cases asked with
  | refused => exact ⟨[], rfl, nofun⟩
  | exchanged allowed exchange =>
      have fits := (EntryPoint.refusal_eq_none_iff.mp allowed).2
      refine ⟨[trace], (List.append_nil trace).symm, ?_⟩
      intro block member
      rw [List.mem_singleton.mp member]
      exact exchange.block fits

theorem Retried.blocks {cmd : Cmd} {payload : List UInt8} {attempts : Nat} {trace : Trace}
    {outcome : Except Error (List UInt8)} (retried : Retried cmd payload attempts trace outcome) :
    ∃ blocks : List Trace, trace = blocks.flatten ∧ ∀ block ∈ blocks, Block cmd payload block := by
  induction retried with
  | exhausted => exact ⟨[], rfl, nofun⟩
  | settled asked => exact asked.blocks
  | again empty _ ih =>
      obtain ⟨head, rfl, headBlocks⟩ := empty.blocks
      obtain ⟨tail, rfl, tailBlocks⟩ := ih
      refine ⟨head ++ tail, List.flatten_append.symm, ?_⟩
      intro block member
      rcases List.mem_append.mp member with inside | inside
      · exact headBlocks block inside
      · exact tailBlocks block inside

theorem Call.Replies.blocks {call : Call} {trace : Trace} {outcome : Except Error (List UInt8)}
    (replies : call.Replies trace outcome) :
    ∃ blocks : List Trace, trace = blocks.flatten ∧
      ∀ block ∈ blocks, Block call.cmd call.payload block := by
  unfold Call.Replies at replies
  split at replies
  · exact replies.blocks
  · exact replies.blocks

/-- A refused call transfers nothing and returns the refusal. -/
theorem Call.Replies.of_refusal {call : Call} {trace : Trace}
    {outcome : Except Error (List UInt8)} (replies : call.Replies trace outcome) {e : Error}
    (refusal : call.entry.refusal call.cmd call.payload = some e) :
    trace = [] ∧ outcome = .error e := by
  unfold Call.Replies at replies
  split at replies
  · rw [Call.entry_of_retries ‹_›] at refusal
    exact Retried.of_refusal refusal replies
  · exact replies.of_refusal refusal

theorem Call.Replies.not_isRefusal {call : Call} {trace : Trace} {e : Error}
    (replies : call.Replies trace (.error e))
    (allowed : call.entry.refusal call.cmd call.payload = none) : ¬ e.IsRefusal := by
  unfold Call.Replies at replies
  split at replies
  · rw [Call.entry_of_retries ‹_›] at allowed
    exact Retried.not_isRefusal allowed replies
  · exact replies.not_isRefusal allowed

/-- A call attempts one frame, the encoding of its command and payload. -/
theorem Call.Replies.outFrames {call : Call} {trace : Trace}
    {outcome : Except Error (List UInt8)} (replies : call.Replies trace outcome)
    (allowed : call.entry.refusal call.cmd call.payload = none) :
    ∃ count ≤ Proto.maxRetries,
      trace.outFrames = List.replicate count (Proto.encode call.cmd call.payload) := by
  unfold Call.Replies at replies
  split at replies
  · rw [Call.entry_of_retries ‹_›] at allowed
    exact Retried.outFrames allowed replies
  · exact ⟨1, by decide, replies.outFrames allowed⟩

/-- Every frame a call attempts is the encoding of its command and payload, and that is
attempted only when nothing refuses it. -/
theorem Call.Replies.eq_encode {call : Call} {trace : Trace}
    {outcome : Except Error (List UInt8)} (replies : call.Replies trace outcome)
    {out : List UInt8} (attempted : out ∈ trace.outFrames) :
    call.entry.refusal call.cmd call.payload = none ∧
      out = Proto.encode call.cmd call.payload := by
  cases refusal : call.entry.refusal call.cmd call.payload with
  | some e =>
      rw [(replies.of_refusal refusal).1] at attempted
      exact nomatch attempted
  | none =>
      obtain ⟨count, -, same⟩ := replies.outFrames refusal
      rw [same] at attempted
      exact ⟨rfl, List.eq_of_mem_replicate attempted⟩

/-- A call that fails as refused transferred nothing. -/
theorem Call.Replies.nil_of_refusal {call : Call} {trace : Trace} {e : Error}
    (replies : call.Replies trace (.error e)) (refused : e.IsRefusal) : trace = [] := by
  cases refusal : call.entry.refusal call.cmd call.payload with
  | none => exact absurd refused (replies.not_isRefusal refusal)
  | some other => exact (replies.of_refusal refusal).1

/-- Decoding adds no refusal of its own. -/
theorem Call.not_isRefusal_of_decode {dev : ElanMoc2} {call : Call} {reply : List UInt8}
    {e : Error} (failed : call.decode dev reply = .error e) : ¬ e.IsRefusal := by
  have userId : ∀ {index e'}, decodeUserId dev.pid index reply = .error e' →
      ¬ e'.IsRefusal := by
    intro index e' short
    unfold decodeUserId at short
    split at short
    · cases short
      exact id
    · exact nomatch short
  cases call with
  | transceive => exact nomatch failed
  | transceiveRaw => exact nomatch failed
  | transceiveDestructive => exact nomatch failed
  | abort => exact nomatch failed
  | firmwareVersion =>
      match reply, failed with
      | [], short => cases short; exact id
      | [_], short => cases short; exact id
  | enrolledCount =>
      match reply, failed with
      | [], short => cases short; exact id
      | [_], short => cases short; exact id
  | fingerInfo index =>
      change (decodeFingerInfo dev.pid index reply).map Value.info = .error e at failed
      cases decoded : decodeFingerInfo dev.pid index reply with
      | ok info => rw [decoded] at failed; exact nomatch failed
      | error e' =>
          rw [decoded] at failed
          cases failed
          match reply, decoded with
          | [], short => exact userId short
          | [_], short => exact userId short
          | first :: status :: rest, decoded =>
              simp only [decodeFingerInfo] at decoded
              split at decoded
              · exact userId decoded
              · cases decoded
                exact id

/-! ### Sessions -/

/-- A library call that has run to its end: its transfers and its result. -/
structure Finished (dev : ElanMoc2) where
  call : Call
  trace : Trace
  result : Except Fault (Except Error Value)
  runs : (call.perform dev).run.Runs trace result

/-- The transfers of a session, in order. -/
def busTrace {dev : ElanMoc2} (session : List (Finished dev)) : Trace :=
  session.flatMap Finished.trace

variable {dev : ElanMoc2}

theorem Finished.replies (finished : Finished dev) :
    ∃ outcome, finished.call.Replies finished.trace outcome ∧
      finished.result = .ok (outcome.bind (finished.call.decode dev)) :=
  (Call.runs_perform_iff finished.call).mp finished.runs

/-- A call that returned a refusal added no transfer. -/
theorem Finished.trace_eq_nil (finished : Finished dev) {e : Error}
    (failed : finished.result = .ok (.error e)) (refused : e.IsRefusal) :
    finished.trace = [] := by
  obtain ⟨outcome, replies, same⟩ := finished.replies
  rw [same, Except.ok.injEq] at failed
  cases outcome with
  | ok reply => exact absurd refused (Call.not_isRefusal_of_decode failed)
  | error e' =>
      cases failed
      exact replies.nil_of_refusal refused

/-- The results of the framed and the raw path on the same transfers: the same, except that
a nonempty reply without the magic byte is an error of the first and returned by the second. -/
def Agree (framed raw : Except Fault (Except Error (List UInt8))) : Prop :=
  (∃ first rest, first ≠ 0x40 ∧ raw = .ok (.ok (first :: rest)) ∧
    framed = .ok (.error (.badMagic first))) ∨
  (∀ first rest, raw = .ok (.ok (first :: rest)) → first = 0x40) ∧ framed = raw

theorem agree_accept (known : Except Error (List UInt8)) :
    Agree (.ok (known.bind (EntryPoint.accept .transceive)))
      (.ok (known.bind (EntryPoint.accept .transceiveRaw))) := by
  cases known with
  | error e => exact .inr ⟨nofun, rfl⟩
  | ok reply =>
      change Agree (.ok (EntryPoint.accept .transceive reply))
        (.ok (EntryPoint.accept .transceiveRaw reply))
      rw [EntryPoint.accept_raw]
      cases reply with
      | nil => exact .inr ⟨nofun, rfl⟩
      | cons first rest =>
          by_cases magic : first = Proto.frameMagic
          · rw [magic, EntryPoint.accept_magic]
            refine .inr ⟨?_, rfl⟩
            intro head tail same
            cases same
            rfl
          · have framed : EntryPoint.transceive ≠ .transceiveRaw := nofun
            rw [EntryPoint.accept_of_ne framed magic]
            exact .inl ⟨first, rest, magic, rfl, rfl⟩

/-- On the same transfers the two paths agree on what comes of them. -/
theorem transceive_agree_raw {cmd : Cmd} {payload : List UInt8} {trace : Trace}
    {framed raw : Except Fault (Except Error (List UInt8))}
    (run : (dev.transceive cmd payload).run.Runs trace framed)
    (other : (dev.transceiveRaw cmd payload).run.Runs trace raw) : Agree framed raw := by
  obtain ⟨outcome, asked, rfl⟩ := (EntryPoint.runs_perform_iff .transceive dev).mp run
  obtain ⟨outcome', asked', rfl⟩ := (EntryPoint.runs_perform_iff .transceiveRaw dev).mp other
  cases refusal : EntryPoint.refusal .transceiveRaw cmd payload with
  | some e =>
      obtain ⟨-, rfl⟩ := asked'.of_refusal refusal
      obtain ⟨-, rfl⟩ :=
        asked.of_refusal ((EntryPoint.refusal_transceive cmd payload).trans refusal)
      exact .inr ⟨nofun, rfl⟩
  | none =>
      obtain ⟨known', exchange', rfl⟩ := asked'.of_allowed refusal
      obtain ⟨known, exchange, rfl⟩ :=
        asked.of_allowed ((EntryPoint.refusal_transceive cmd payload).trans refusal)
      rw [exchange.deterministic exchange']
      exact agree_accept known'

/-- Transfers that one path can go through, the other can. -/
theorem exists_transceive_iff_raw {cmd : Cmd} {payload : List UInt8} {trace : Trace} :
    (∃ framed, (dev.transceive cmd payload).run.Runs trace framed) ↔
      ∃ raw, (dev.transceiveRaw cmd payload).run.Runs trace raw := by
  have transfer : ∀ one other : EntryPoint,
      (∀ cmd payload, one.refusal cmd payload = other.refusal cmd payload) →
        (∃ result, (one.perform dev cmd payload).run.Runs trace result) →
          ∃ result, (other.perform dev cmd payload).run.Runs trace result := by
    rintro one other same ⟨result, run⟩
    obtain ⟨outcome, asked, rfl⟩ := (one.runs_perform_iff dev).mp run
    cases asked with
    | refused refusal =>
        exact ⟨_, (other.runs_perform_iff dev).mpr
          ⟨_, .refused ((same cmd payload).symm.trans refusal), rfl⟩⟩
    | exchanged allowed exchange =>
        exact ⟨_, (other.runs_perform_iff dev).mpr
          ⟨_, .exchanged ((same cmd payload).symm.trans allowed) exchange, rfl⟩⟩
  exact ⟨transfer .transceive .transceiveRaw EntryPoint.refusal_transceive,
    transfer .transceiveRaw .transceive fun cmd payload =>
      (EntryPoint.refusal_transceive cmd payload).symm⟩

/-- **Sessions on the bus.** Whatever the transfers answer, the bus carries a concatenation
of blocks of the commands called for, refused calls carry nothing, and `transceive` and
`transceiveRaw` go through the same transfers with results that agree. -/
theorem session_blocks (dev : ElanMoc2) :
    (∀ session : List (Finished dev), ∃ blocks : List Trace,
      busTrace session = blocks.flatten ∧
        ∀ block ∈ blocks, ∃ finished ∈ session,
          Block finished.call.cmd finished.call.payload block) ∧
    (∀ (finished : Finished dev) (name : String),
      finished.result = .ok (.error (.gated name)) ∨
          finished.result = .ok (.error (.payloadTooLarge name)) →
        finished.trace = []) ∧
    (∀ (cmd : Cmd) (payload : List UInt8) (trace : Trace),
      ((∃ framed, (dev.transceive cmd payload).run.Runs trace framed) ↔
        ∃ raw, (dev.transceiveRaw cmd payload).run.Runs trace raw) ∧
      ∀ framed raw, (dev.transceive cmd payload).run.Runs trace framed →
        (dev.transceiveRaw cmd payload).run.Runs trace raw → Agree framed raw) := by
  refine ⟨?_, ?_, ?_⟩
  · intro session
    induction session with
    | nil => exact ⟨[], rfl, nofun⟩
    | cons finished session ih =>
        obtain ⟨later, same, covered⟩ := ih
        obtain ⟨outcome, replies, -⟩ := finished.replies
        obtain ⟨own, split, blocks⟩ := replies.blocks
        refine ⟨own ++ later, ?_, ?_⟩
        · have first : busTrace (finished :: session) = finished.trace ++ busTrace session := rfl
          rw [first, same, split, List.flatten_append]
        · intro block member
          rcases List.mem_append.mp member with inside | inside
          · exact ⟨finished, List.mem_cons_self, blocks block inside⟩
          · obtain ⟨owner, listed, shape⟩ := covered block inside
            exact ⟨owner, List.mem_cons_of_mem _ listed, shape⟩
  · rintro finished name (failed | failed)
    · exact finished.trace_eq_nil failed trivial
    · exact finished.trace_eq_nil failed trivial
  · intro cmd payload trace
    exact ⟨exists_transceive_iff_raw, fun framed raw run other => transceive_agree_raw run other⟩

end Elan0c00
