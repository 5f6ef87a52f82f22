import Elan0c00.Device

/-! # What one operation does on the bus

Each operation is described once, by relations between its transfers and its outcome, and
its runs are shown to be exactly those: `Exchange` for one request and its reply, `Asked`
for the three ways to send a command, `Retried` for the queries that are repeated. Faults
do not occur.
-/

namespace Elan0c00

open Interaction Interaction.Fallible Bytes

/-- One request on the bus: a single OUT of the frame and, when that succeeded and the
command has a reply, a single IN; with the reply as it arrived. -/
inductive Exchange (cmd : Cmd) (payload : List UInt8) :
    Trace → Except Error (List UInt8) → Prop where
  | sendFailed (e : UsbError) :
      Exchange cmd payload [Bus.sendFailed (Proto.encode cmd payload) e] (.error (.usb e))
  | silent (replyless : cmd.inLen = 0) (taken) :
      Exchange cmd payload [Bus.sent (Proto.encode cmd payload) taken] (.ok [])
  | recvFailed (replying : 0 < cmd.inLen) (taken) (e : UsbError) :
      Exchange cmd payload [Bus.sent (Proto.encode cmd payload) taken, Bus.recvFailed cmd e]
        (.error (.usb e))
  | received (replying : 0 < cmd.inLen) (taken) (reply) :
      Exchange cmd payload [Bus.sent (Proto.encode cmd payload) taken, Bus.received cmd reply]
        (.ok reply.val)

/-- The transfers of an exchange determine the reply. -/
theorem Exchange.deterministic {cmd : Cmd} {payload : List UInt8} {trace : Trace}
    {one other : Except Error (List UInt8)} (first : Exchange cmd payload trace one)
    (second : Exchange cmd payload trace other) : one = other := by
  cases first <;> cases second <;> rfl

/-- The functions that send a command given by their caller. -/
inductive EntryPoint where
  | transceive
  | transceiveRaw
  | transceiveDestructive
  deriving DecidableEq, Repr

namespace EntryPoint

/-- The error a command meets before anything is sent. -/
def refusal (entry : EntryPoint) (cmd : Cmd) (payload : List UInt8) : Option Error :=
  if entry ≠ .transceiveDestructive ∧ cmd.effect = .persistent then some (.gated cmd.name)
  else if Proto.Fits cmd payload then none
  else some (.payloadTooLarge cmd.name)

/-- What becomes of the reply: `transceiveRaw` returns it as it is, the others insist that
the first byte of a nonempty reply is the frame magic. -/
def accept (entry : EntryPoint) : List UInt8 → Except Error (List UInt8)
  | [] => .ok []
  | first :: rest =>
      if entry = .transceiveRaw ∨ first = Proto.frameMagic then .ok (first :: rest)
      else .error (.badMagic first)

theorem accept_nil (entry : EntryPoint) : entry.accept [] = .ok [] := rfl

theorem accept_raw (reply : List UInt8) : accept .transceiveRaw reply = .ok reply := by
  cases reply <;> rfl

theorem accept_magic (entry : EntryPoint) (rest : List UInt8) :
    entry.accept (Proto.frameMagic :: rest) = .ok (Proto.frameMagic :: rest) :=
  if_pos (.inr rfl)

theorem accept_of_ne {entry : EntryPoint} {first : UInt8} (framed : entry ≠ .transceiveRaw)
    (foreign : first ≠ Proto.frameMagic) (rest : List UInt8) :
    entry.accept (first :: rest) = .error (.badMagic first) :=
  if_neg fun either => either.elim framed foreign

/-- A reply is accepted as it is or fails for its first byte. -/
theorem accept_cases (entry : EntryPoint) (reply : List UInt8) :
    entry.accept reply = .ok reply ∨ ∃ first, entry.accept reply = .error (.badMagic first) := by
  cases reply with
  | nil => exact .inl rfl
  | cons first rest =>
      by_cases either : entry = .transceiveRaw ∨ first = Proto.frameMagic
      · exact .inl (if_pos either)
      · exact .inr ⟨first, if_neg either⟩

def perform (entry : EntryPoint) (dev : ElanMoc2) (cmd : Cmd) (payload : List UInt8) :
    DeviceM (List UInt8) :=
  match entry with
  | .transceive => dev.transceive cmd payload
  | .transceiveRaw => dev.transceiveRaw cmd payload
  | .transceiveDestructive =>
      dev.transceiveDestructive cmd payload .iUnderstandThisModifiesStoredFingerprints

theorem refusal_eq_none_iff {entry : EntryPoint} {cmd : Cmd} {payload : List UInt8} :
    entry.refusal cmd payload = none ↔
      (entry = .transceiveDestructive ∨ cmd.effect ≠ .persistent) ∧ Proto.Fits cmd payload := by
  unfold refusal
  by_cases gated : entry ≠ .transceiveDestructive ∧ cmd.effect = .persistent
  · rw [if_pos gated]
    refine iff_of_false nofun ?_
    rintro ⟨owner | untagged, -⟩
    · exact gated.1 owner
    · exact untagged gated.2
  · have ungated : entry = .transceiveDestructive ∨ cmd.effect ≠ .persistent := by
      by_contra neither
      exact gated ⟨fun owner => neither (.inl owner),
        by_contra fun untagged => neither (.inr untagged)⟩
    rw [if_neg gated]
    by_cases fits : Proto.Fits cmd payload
    · exact iff_of_true (if_pos fits) ⟨ungated, fits⟩
    · rw [if_neg fits]
      exact iff_of_false nofun fun both => fits both.2

theorem refusal_transceive (cmd : Cmd) (payload : List UInt8) :
    refusal .transceive cmd payload = refusal .transceiveRaw cmd payload :=
  if_congr (and_congr_left fun _ => iff_of_true nofun nofun) rfl rfl

end EntryPoint

/-- A command sent through an entry point: refused without a transfer, or exchanged and its
reply accepted or not. -/
inductive Asked (entry : EntryPoint) (cmd : Cmd) (payload : List UInt8) :
    Trace → Except Error (List UInt8) → Prop where
  | refused {e : Error} (refusal : entry.refusal cmd payload = some e) :
      Asked entry cmd payload [] (.error e)
  | exchanged {trace : Trace} {outcome : Except Error (List UInt8)}
      (allowed : entry.refusal cmd payload = none) (exchange : Exchange cmd payload trace outcome) :
      Asked entry cmd payload trace (outcome.bind entry.accept)

/-- A query repeated as long as the reply is empty, with a number of attempts left. -/
inductive Retried (cmd : Cmd) (payload : List UInt8) :
    Nat → Trace → Except Error (List UInt8) → Prop where
  | exhausted : Retried cmd payload 0 [] (.error (.noResponse cmd.name))
  | settled {attempts : Nat} {trace : Trace} {outcome : Except Error (List UInt8)}
      (asked : Asked .transceive cmd payload trace outcome) (final : outcome ≠ .ok []) :
      Retried cmd payload (attempts + 1) trace outcome
  | again {attempts : Nat} {first rest : Trace} {outcome : Except Error (List UInt8)}
      (empty : Asked .transceive cmd payload first (.ok []))
      (later : Retried cmd payload attempts rest outcome) :
      Retried cmd payload (attempts + 1) (first ++ rest) outcome

section Transfers

variable {cmd : Cmd} {payload : List UInt8} {trace : Trace}
  {decode : List UInt8 → Except Error (List UInt8)}
  {result : Except Fault (Except Error (List UInt8))}

/-- The transfers of a frame that fits, and what a known decoder makes of the reply. -/
def transfers (cmd : Cmd) (payload : List UInt8)
    (decode : List UInt8 → Except Error (List UInt8)) : DeviceM (List UInt8) := do
  let _ ← writeBulk Proto.epCmdOut (Proto.encode cmd payload) sendTimeout
  if cmd.inLen = 0 then
    return []
  let buf ← readBulk cmd.epIn cmd.inLen recvTimeout
  settle (decode buf)

/-- The transfers are one exchange, and its reply is decoded. -/
theorem runs_transfers_iff (decodeNil : decode [] = .ok []) :
    (transfers cmd payload decode).run.Runs trace result ↔
      ∃ outcome, Exchange cmd payload trace outcome ∧ result = .ok (outcome.bind decode) := by
  have unanswered : Except.bind (.ok []) decode = .ok [] := decodeNil
  unfold transfers
  rw [runs_writeBulk_bind_iff]
  by_cases replyless : cmd.inLen = 0
  · simp only [replyless, ↓reduceIte, runs_pure_iff]
    constructor
    · rintro (⟨e, rfl, rfl⟩ | ⟨taken, tail, rfl, rfl, rfl⟩)
      · exact ⟨_, .sendFailed e, rfl⟩
      · exact ⟨_, .silent replyless taken, congrArg Except.ok unanswered.symm⟩
    · rintro ⟨outcome, exchange, rfl⟩
      cases exchange with
      | sendFailed e => exact .inl ⟨e, rfl, rfl⟩
      | silent _ taken => exact .inr ⟨taken, [], rfl, rfl, congrArg Except.ok unanswered⟩
      | recvFailed replying => exact absurd replyless (Nat.ne_of_gt replying)
      | received replying => exact absurd replyless (Nat.ne_of_gt replying)
  · have replying := Nat.pos_of_ne_zero replyless
    simp only [replyless, ↓reduceIte, runs_readBulk_bind_iff, runs_settle_iff]
    constructor
    · rintro (⟨e, rfl, rfl⟩ | ⟨taken, tail, rfl, ⟨e, rfl, rfl⟩ | ⟨reply, _, rfl, rfl, rfl⟩⟩)
      · exact ⟨_, .sendFailed e, rfl⟩
      · exact ⟨_, .recvFailed replying taken e, rfl⟩
      · exact ⟨_, .received replying taken reply, rfl⟩
    · rintro ⟨outcome, exchange, rfl⟩
      cases exchange with
      | sendFailed e => exact .inl ⟨e, rfl, rfl⟩
      | silent silent => exact absurd silent replyless
      | recvFailed _ taken e => exact .inr ⟨taken, _, rfl, .inl ⟨e, rfl, rfl⟩⟩
      | received _ taken reply => exact .inr ⟨taken, _, rfl, .inr ⟨reply, [], rfl, rfl, rfl⟩⟩

end Transfers

section EntryPoints

variable {dev : ElanMoc2} {cmd : Cmd} {payload : List UInt8}

private theorem gateCheck_bind (rest : Unit → DeviceM (List UInt8)) :
    gateCheck cmd >>= rest =
      if cmd.effect = .persistent then settle (.error (.gated cmd.name)) else rest () := by
  unfold gateCheck
  split
  · rw [throw_bind, throw_eq_settle]
  · rw [pure_bind]

/-- Sending a command of any effect: what does not fit is refused, and the reply must begin
with the magic byte. -/
theorem transceiveUnchecked_eq :
    dev.transceiveUnchecked cmd payload =
      if Proto.Fits cmd payload then
        transfers cmd payload (EntryPoint.accept .transceiveDestructive)
      else settle (.error (.payloadTooLarge cmd.name)) := by
  unfold ElanMoc2.transceiveUnchecked transfers
  by_cases fits : Proto.Fits cmd payload
  · have framed : ∀ buf : List UInt8,
        (if buf.length = 0 then pure buf else do
          let got ← check (index buf 0)
          if got ≠ Proto.frameMagic then throw (.badMagic got) else pure buf : DeviceM _) =
        settle (EntryPoint.accept .transceiveDestructive buf) := by
      intro buf
      cases buf with
      | nil => rfl
      | cons first rest =>
          rw [index_cons_zero, check_ok, pure_bind]
          by_cases magic : first = Proto.frameMagic
          · simp only [List.length_cons, Nat.add_one_ne_zero, ↓reduceIte, ne_eq, magic,
              not_true_eq_false, EntryPoint.accept, or_true, pure_eq_settle]
          · simp only [List.length_cons, Nat.add_one_ne_zero, ↓reduceIte, ne_eq, magic,
              not_false_eq_true, EntryPoint.accept, reduceCtorEq, or_self, throw_eq_settle]
    rw [Proto.frame_of_fits fits, check_ok, pure_bind, if_pos fits]
    simp only [← framed, throw_bind]
  · rw [Proto.frame_of_not_fits fits, check_ok, pure_bind, if_neg fits, throw_eq_settle]

/-- The raw path refuses alike and returns the reply as it is. -/
theorem transceiveRaw_eq :
    dev.transceiveRaw cmd payload =
      if cmd.effect = .persistent then settle (.error (.gated cmd.name))
      else if Proto.Fits cmd payload then
        transfers cmd payload (EntryPoint.accept .transceiveRaw)
      else settle (.error (.payloadTooLarge cmd.name)) := by
  have returned : ∀ buf : List UInt8, settle (EntryPoint.accept .transceiveRaw buf) =
      (pure buf : DeviceM _) := by
    intro buf
    rw [EntryPoint.accept_raw, pure_eq_settle]
  unfold ElanMoc2.transceiveRaw transfers
  rw [gateCheck_bind]
  by_cases fits : Proto.Fits cmd payload
  · rw [Proto.frame_of_fits fits, check_ok, pure_bind, if_pos fits]
    simp only [returned, bind_pure]
  · rw [Proto.frame_of_not_fits fits, check_ok, pure_bind, if_neg fits, throw_eq_settle]

theorem EntryPoint.accept_transceive :
    EntryPoint.accept .transceive = EntryPoint.accept .transceiveDestructive := by
  funext reply
  cases reply with
  | nil => rfl
  | cons first rest => simp only [accept, reduceCtorEq, false_or]

/-- A settled error as a run of a refused command. -/
private theorem runs_refused_iff {entry : EntryPoint} {e : Error} {trace : Trace}
    {result : Except Fault (Except Error (List UInt8))}
    (refusal : entry.refusal cmd payload = some e) :
    (settle (.error e) : DeviceM (List UInt8)).run.Runs trace result ↔
      ∃ outcome, Asked entry cmd payload trace outcome ∧ result = .ok outcome := by
  rw [runs_settle_iff]
  constructor
  · rintro ⟨rfl, rfl⟩
    exact ⟨_, .refused refusal, rfl⟩
  · rintro ⟨outcome, asked, rfl⟩
    cases asked with
    | refused other =>
        rw [refusal] at other
        cases other
        exact ⟨rfl, rfl⟩
    | exchanged allowed => exact nomatch refusal.symm.trans allowed

private theorem runs_allowed_iff {entry : EntryPoint} {trace : Trace}
    {result : Except Fault (Except Error (List UInt8))}
    (allowed : entry.refusal cmd payload = none) :
    (transfers cmd payload entry.accept).run.Runs trace result ↔
      ∃ outcome, Asked entry cmd payload trace outcome ∧ result = .ok outcome := by
  rw [runs_transfers_iff entry.accept_nil]
  constructor
  · rintro ⟨outcome, exchange, rfl⟩
    exact ⟨_, .exchanged allowed exchange, rfl⟩
  · rintro ⟨outcome, asked, rfl⟩
    cases asked with
    | refused refusal => exact nomatch refusal.symm.trans allowed
    | exchanged _ exchange => exact ⟨_, exchange, rfl⟩

/-- **One command.** The runs of each entry point are a refusal without a transfer or one
exchange whose reply is accepted or not; there is no panic. -/
theorem EntryPoint.runs_perform_iff (entry : EntryPoint) (dev : ElanMoc2) {trace : Trace}
    {result : Except Fault (Except Error (List UInt8))} :
    (entry.perform dev cmd payload).run.Runs trace result ↔
      ∃ outcome, Asked entry cmd payload trace outcome ∧ result = .ok outcome := by
  cases entry with
  | transceive =>
      change (gateCheck cmd >>= fun _ => dev.transceiveUnchecked cmd payload).run.Runs _ _ ↔ _
      rw [gateCheck_bind, transceiveUnchecked_eq, ← EntryPoint.accept_transceive]
      split
      · exact runs_refused_iff (if_pos ⟨nofun, ‹_›⟩)
      · have ungated : ¬ (EntryPoint.transceive ≠ .transceiveDestructive ∧
            cmd.effect = .persistent) := fun gated => ‹¬ cmd.effect = .persistent› gated.2
        split
        · exact runs_allowed_iff ((if_neg ungated).trans (if_pos ‹_›))
        · exact runs_refused_iff ((if_neg ungated).trans (if_neg ‹_›))
  | transceiveRaw =>
      change (dev.transceiveRaw cmd payload).run.Runs _ _ ↔ _
      rw [transceiveRaw_eq]
      split
      · exact runs_refused_iff (if_pos ⟨nofun, ‹_›⟩)
      · have ungated : ¬ (EntryPoint.transceiveRaw ≠ .transceiveDestructive ∧
            cmd.effect = .persistent) := fun gated => ‹¬ cmd.effect = .persistent› gated.2
        split
        · exact runs_allowed_iff ((if_neg ungated).trans (if_pos ‹_›))
        · exact runs_refused_iff ((if_neg ungated).trans (if_neg ‹_›))
  | transceiveDestructive =>
      change (dev.transceiveUnchecked cmd payload).run.Runs _ _ ↔ _
      rw [transceiveUnchecked_eq]
      have ungated : ¬ (EntryPoint.transceiveDestructive ≠ .transceiveDestructive ∧
          cmd.effect = .persistent) := fun gated => gated.1 rfl
      split
      · exact runs_allowed_iff ((if_neg ungated).trans (if_pos ‹_›))
      · exact runs_refused_iff ((if_neg ungated).trans (if_neg ‹_›))

/-- The outcomes of a command. -/
theorem runs_transceive_iff {trace : Trace} {outcome : Except Error (List UInt8)} :
    (dev.transceive cmd payload).run.Runs trace (.ok outcome) ↔
      Asked .transceive cmd payload trace outcome := by
  refine (EntryPoint.runs_perform_iff .transceive dev).trans ?_
  constructor
  · rintro ⟨_, asked, same⟩
    cases same
    exact asked
  · exact fun asked => ⟨outcome, asked, rfl⟩

/-- **Repeated queries.** The runs of the retry loop, from any number of attempts left. -/
theorem runs_retry_iff {attempts : Nat} {trace : Trace}
    {result : Except Fault (Except Error (List UInt8))} :
    (dev.retry cmd payload attempts).run.Runs trace result ↔
      ∃ outcome, Retried cmd payload attempts trace outcome ∧ result = .ok outcome := by
  induction attempts generalizing trace with
  | zero =>
      change (settle (.error (.noResponse cmd.name)) : DeviceM (List UInt8)).run.Runs _ _ ↔ _
      rw [runs_settle_iff]
      constructor
      · rintro ⟨rfl, rfl⟩
        exact ⟨_, .exhausted, rfl⟩
      · rintro ⟨outcome, retried, rfl⟩
        cases retried
        exact ⟨rfl, rfl⟩
  | succ attempts ih =>
      have asking : ∀ {first known}, (dev.transceive cmd payload).run.Runs first known ↔
          ∃ outcome, Asked .transceive cmd payload first outcome ∧ known = .ok outcome :=
        EntryPoint.runs_perform_iff .transceive dev
      unfold ElanMoc2.retry
      simp only [runs_bind_iff, asking]
      constructor
      · rintro (⟨fault, ⟨_, _, impossible⟩, _⟩ | ⟨error, ⟨_, asked, same⟩, rfl⟩ |
          ⟨reply, first, second, rfl, ⟨_, asked, same⟩, tail⟩)
        · exact nomatch impossible
        · cases same
          exact ⟨_, .settled asked nofun, rfl⟩
        · cases same
          cases reply with
          | nil =>
              obtain ⟨outcome, later, rfl⟩ := ih.mp tail
              exact ⟨outcome, .again asked later, rfl⟩
          | cons head rest =>
              obtain ⟨rfl, rfl⟩ := runs_pure_iff.mp tail
              rw [List.append_nil]
              exact ⟨_, .settled asked nofun, rfl⟩
      · rintro ⟨outcome, retried, rfl⟩
        cases retried with
        | settled asked final =>
            cases outcome with
            | error error => exact .inr (.inl ⟨error, ⟨_, asked, rfl⟩, rfl⟩)
            | ok reply =>
                cases reply with
                | nil => exact absurd rfl final
                | cons head rest =>
                    exact .inr (.inr ⟨head :: rest, trace, [], (List.append_nil trace).symm,
                      ⟨_, asked, rfl⟩, runs_pure_iff.mpr ⟨rfl, rfl⟩⟩)
        | again empty later =>
            exact .inr (.inr ⟨[], _, _, rfl, ⟨_, empty, rfl⟩, ih.mpr ⟨outcome, later, rfl⟩⟩)

end EntryPoints

/-! ### Reading the relations -/

section Relations

variable {entry : EntryPoint} {cmd : Cmd} {payload : List UInt8} {trace : Trace}
  {outcome : Except Error (List UInt8)} {reply : List UInt8}

theorem Asked.of_refusal {e : Error} (refusal : entry.refusal cmd payload = some e)
    (asked : Asked entry cmd payload trace outcome) : trace = [] ∧ outcome = .error e := by
  cases asked with
  | refused other =>
      rw [refusal] at other
      cases other
      exact ⟨rfl, rfl⟩
  | exchanged allowed => exact nomatch refusal.symm.trans allowed

theorem Asked.of_allowed (allowed : entry.refusal cmd payload = none)
    (asked : Asked entry cmd payload trace outcome) :
    ∃ known, Exchange cmd payload trace known ∧ outcome = known.bind entry.accept := by
  cases asked with
  | refused refusal => exact nomatch refusal.symm.trans allowed
  | exchanged _ exchange => exact ⟨_, exchange, rfl⟩

/-- Only a command that was not refused gets an accepted reply. -/
theorem Asked.allowed_of_ok {reply : List UInt8}
    (asked : Asked entry cmd payload trace (.ok reply)) : entry.refusal cmd payload = none := by
  cases refusal : entry.refusal cmd payload with
  | none => rfl
  | some e => exact nomatch (asked.of_refusal refusal).2

/-- What an accepted command returns is the reply as it arrived. -/
theorem Asked.exchange (asked : Asked entry cmd payload trace (.ok reply)) :
    Exchange cmd payload trace (.ok reply) := by
  obtain ⟨known, exchange, accepted⟩ := asked.of_allowed asked.allowed_of_ok
  cases known with
  | error e => exact nomatch accepted
  | ok received =>
      rcases entry.accept_cases received with same | ⟨first, refused⟩
      · rw [Except.ok.inj (accepted.trans same)]
        exact exchange
      · exact nomatch accepted.trans refused

/-- A refused query is refused at its first attempt. -/
theorem Retried.of_refusal {attempts : Nat} {e : Error}
    (refusal : EntryPoint.refusal .transceive cmd payload = some e)
    (retried : Retried cmd payload (attempts + 1) trace outcome) :
    trace = [] ∧ outcome = .error e := by
  cases retried with
  | settled asked => exact asked.of_refusal refusal
  | again empty => exact nomatch (empty.of_refusal refusal).2

/-- An exchange attempts its frame once. -/
theorem Exchange.outFrames {known : Except Error (List UInt8)}
    (exchange : Exchange cmd payload trace known) :
    trace.outFrames = [Proto.encode cmd payload] := by
  cases exchange <;> rfl

theorem Asked.outFrames (allowed : entry.refusal cmd payload = none)
    (asked : Asked entry cmd payload trace outcome) :
    trace.outFrames = [Proto.encode cmd payload] := by
  obtain ⟨known, exchange, -⟩ := asked.of_allowed allowed
  exact exchange.outFrames

/-- Every attempt of a query sends the same frame. -/
theorem Retried.outFrames {attempts : Nat}
    (allowed : EntryPoint.refusal .transceive cmd payload = none)
    (retried : Retried cmd payload attempts trace outcome) :
    ∃ count ≤ attempts, trace.outFrames = List.replicate count (Proto.encode cmd payload) := by
  induction retried with
  | exhausted => exact ⟨0, Nat.le_refl 0, rfl⟩
  | settled asked => exact ⟨1, Nat.le_add_left 1 _, asked.outFrames allowed⟩
  | again empty _ ih =>
      obtain ⟨count, bounded, same⟩ := ih
      refine ⟨count + 1, Nat.succ_le_succ bounded, ?_⟩
      rw [Trace.outFrames_append, empty.outFrames allowed, same, List.replicate_succ,
        List.singleton_append]

theorem Exchange.lastReply {known : Except Error (List UInt8)}
    (exchange : Exchange cmd payload trace known) : trace.lastReply = known.toOption := by
  cases exchange <;> rfl

/-- A command that was sent returns the reply of its last transfer if that is accepted. -/
theorem Asked.eq_ok_iff (allowed : entry.refusal cmd payload = none)
    (asked : Asked entry cmd payload trace outcome) :
    outcome = .ok reply ↔ trace.lastReply = some reply ∧ entry.accept reply = .ok reply := by
  obtain ⟨known, exchange, rfl⟩ := asked.of_allowed allowed
  rw [exchange.lastReply]
  cases known with
  | error e => exact iff_of_false nofun fun both => nomatch both.1
  | ok received =>
      change entry.accept received = .ok reply ↔ some received = some reply ∧ _
      constructor
      · intro accepted
        rcases entry.accept_cases received with same | ⟨first, refused⟩
        · have equal : received = reply := Except.ok.inj (same.symm.trans accepted)
          rw [equal] at accepted ⊢
          exact ⟨rfl, accepted⟩
        · exact nomatch refused.symm.trans accepted
      · rintro ⟨equal, accepted⟩
        rw [Option.some.inj equal]
        exact accepted

/-- An attempt that is not repeated returns the reply of its last transfer if that is accepted
and not empty. -/
theorem Asked.eq_ok_iff_of_final (allowed : EntryPoint.refusal .transceive cmd payload = none)
    (asked : Asked .transceive cmd payload trace outcome) (final : outcome ≠ .ok []) :
    outcome = .ok reply ↔ trace.lastReply = some reply ∧ reply ≠ [] ∧
      EntryPoint.accept .transceive reply = .ok reply := by
  rw [asked.eq_ok_iff allowed]
  constructor
  · rintro ⟨last, accepted⟩
    refine ⟨last, ?_, accepted⟩
    rintro rfl
    exact final ((asked.eq_ok_iff allowed).mpr ⟨last, accepted⟩)
  · rintro ⟨last, -, accepted⟩
    exact ⟨last, accepted⟩

/-- A query returns the reply of its last transfer if that is accepted and not empty. -/
theorem Retried.eq_ok_iff {attempts : Nat}
    (allowed : EntryPoint.refusal .transceive cmd payload = none)
    (retried : Retried cmd payload attempts trace outcome) :
    outcome = .ok reply ↔ trace.lastReply = some reply ∧ reply ≠ [] ∧
      EntryPoint.accept .transceive reply = .ok reply := by
  induction retried with
  | exhausted =>
      refine iff_of_false nofun ?_
      rintro ⟨last, -⟩
      exact nomatch last
  | settled asked final => exact asked.eq_ok_iff_of_final allowed final
  | @again attempts first rest outcome empty later ih =>
      by_cases none : rest = []
      · rw [none] at ih
        have unanswered : outcome ≠ .ok reply := fun replied => nomatch (ih.mp replied).1
        rw [none, List.append_nil, ((empty.eq_ok_iff allowed).mp rfl).1]
        refine iff_of_false unanswered ?_
        rintro ⟨last, nonempty, -⟩
        exact nonempty (Option.some.inj last).symm
      · rw [Trace.lastReply_append none]
        exact ih

end Relations

end Elan0c00
