import Elan0c00.Attempts
import Elan0c00.Record
import Elan0c00.ShortWrite

/-! # Replies shorter than declared

A command declares how long its reply is. Of the three queries only `firmware_version` refuses
every shorter reply as such. The magic byte is looked for before the length, so that a count cut
down to one foreign byte is an error of another kind. `finger_info` wants the header of the record
only: a record cut off after it is returned with a part of the user id, and the error about a
shorter one names the header (`refusesShort_iff`, `not_refusesShort_cutSlot`).
-/

namespace Elan0c00

open Interaction Bytes

section Arrivals

variable {entry : EntryPoint} {cmd : Cmd} {payload : List UInt8} {trace : Trace}
  {outcome : Except Error (List UInt8)} {reply : List UInt8}

/-- A reply is read into a buffer of the declared length. -/
theorem Exchange.length_le (exchange : Exchange cmd payload trace (.ok reply)) :
    reply.length ≤ cmd.inLen := by
  cases exchange with
  | silent => exact Nat.zero_le _
  | received _ _ bytes => exact bytes.property

/-- A reply that arrived is accepted or not, by its first byte. -/
theorem Asked.arrived (allowed : entry.refusal cmd payload = none)
    (asked : Asked entry cmd payload trace outcome) (last : trace.lastReply = some reply) :
    outcome = entry.accept reply ∧ reply.length ≤ cmd.inLen := by
  obtain ⟨known, exchange, rfl⟩ := asked.of_allowed allowed
  rw [exchange.lastReply] at last
  cases known with
  | error e => exact nomatch last
  | ok received =>
      obtain rfl := Option.some.inj last
      exact ⟨rfl, exchange.length_le⟩

/-- A query stops at the first reply that is not empty. -/
theorem Retried.arrived {attempts : Nat}
    (allowed : EntryPoint.refusal .transceive cmd payload = none)
    (retried : Retried cmd payload attempts trace outcome)
    (last : trace.lastReply = some reply) (nonempty : reply ≠ []) :
    outcome = EntryPoint.accept .transceive reply ∧ reply.length ≤ cmd.inLen := by
  induction retried with
  | exhausted => exact nomatch last
  | settled asked => exact asked.arrived allowed last
  | @again attempts first rest outcome empty later ih =>
      by_cases none : rest = []
      · rw [none, List.append_nil, ((empty.eq_ok_iff allowed).mp rfl).1] at last
        exact absurd (Option.some.inj last).symm nonempty
      · rw [Trace.lastReply_append none] at last
        exact ih last

theorem Call.Replies.arrived {call : Call}
    (allowed : call.entry.refusal call.cmd call.payload = none)
    (replies : call.Replies trace outcome) (last : trace.lastReply = some reply)
    (nonempty : reply ≠ []) :
    outcome = call.entry.accept reply ∧ reply.length ≤ call.cmd.inLen := by
  unfold Call.Replies at replies
  cases repeated : call.retries with
  | true =>
      rw [if_pos repeated] at replies
      rw [Call.entry_of_retries repeated] at allowed ⊢
      exact replies.arrived allowed last nonempty
  | false =>
      rw [repeated, if_neg nofun] at replies
      exact replies.arrived allowed last

end Arrivals

namespace Call

/-- The call is one of the three that decode a reply. -/
def IsQuery : Call → Prop
  | .firmwareVersion => True
  | .enrolledCount => True
  | .fingerInfo _ => True
  | _ => False

/-- A query is read-only and fits. -/
theorem IsQuery.allowed {call : Call} (query : call.IsQuery) :
    call.entry.refusal call.cmd call.payload = none := by
  cases call with
  | firmwareVersion => decide
  | enrolledCount => decide
  | fingerInfo index =>
      exact EntryPoint.refusal_eq_none_iff.mpr ⟨.inr nofun, Proto.fits_fingerInfo index⟩
  | _ => exact query.elim

/-- The second byte of the reply, where it is there and is a status, is no error. -/
def Ordinary (call : Call) (reply : List UInt8) : Prop :=
  call = .firmwareVersion ∨ ∀ status ∈ reply[1]?, status &&& 0xF0 = 0

/-- What a query must be answered for its length check to be the one that counts: anything for
the version, a whole or a framed reply for the count, and for a slot a whole record or an error
status. -/
def Decisive : Call → List UInt8 → Prop
  | .firmwareVersion, _ => True
  | .enrolledCount, reply => reply.length = 2 ∨ reply.head? = some Proto.frameMagic
  | .fingerInfo _, reply => reply.length = 64 ∨ ∃ status ∈ reply[1]?, status &&& 0xF0 ≠ 0
  | _, _ => False

variable {dev : ElanMoc2} {reply : List UInt8}

variable (dev) in
/-- What the call makes of a reply that arrived. -/
def answer (call : Call) (reply : List UInt8) : Except Error Value :=
  (call.entry.accept reply).bind (call.decode dev)

variable (dev) in
/-- A reply is taken only when it is whole, and a part of one is reported as short of the
whole. -/
structure Strict (call : Call) (reply : List UInt8) : Prop where
  whole : ∀ value, call.answer dev reply = .ok value → reply.length = call.cmd.inLen
  short : reply.length < call.cmd.inLen → call.Ordinary reply →
    call.answer dev reply = .error (.short call.cmd.inLen reply.length)

/-- A query that refuses whatever is shorter than declared is strict. -/
theorem strict_of_short {call : Call} (bounded : reply.length ≤ call.cmd.inLen)
    (short : reply.length < call.cmd.inLen →
      call.answer dev reply = .error (.short call.cmd.inLen reply.length)) :
    call.Strict dev reply where
  whole value returned := by
    apply Nat.le_antisymm bounded
    by_contra fewer
    rw [short (Nat.lt_of_not_le fewer)] at returned
    exact nomatch returned
  short fewer _ := short fewer

theorem strict_firmwareVersion (bounded : reply.length ≤ Proto.getFwVer.inLen) :
    Strict dev .firmwareVersion reply := by
  apply strict_of_short bounded
  intro fewer
  change reply.length < 2 at fewer
  match reply with
  | [] => rfl
  | [_] => rfl
  | _ :: _ :: rest => exact absurd (Nat.le_add_left 2 rest.length) (Nat.not_le_of_lt fewer)

/-- A query for which the frame is checked fails on a reply without it. -/
theorem answer_of_foreign {call : Call} {first : UInt8} {rest : List UInt8}
    (checked : call.entry ≠ .transceiveRaw) (foreign : first ≠ Proto.frameMagic) :
    call.answer dev (first :: rest) = .error (.badMagic first) := by
  unfold answer
  rw [EntryPoint.accept_of_ne checked foreign]
  rfl

theorem answer_of_framed {call : Call} {rest : List UInt8} :
    call.answer dev (Proto.frameMagic :: rest) = call.decode dev (Proto.frameMagic :: rest) := by
  unfold answer
  rw [EntryPoint.accept_magic]
  rfl

/-- The count query is strict but on a single foreign byte. -/
theorem strict_enrolledCount_iff (nonempty : reply ≠ [])
    (bounded : reply.length ≤ Proto.getEnrolledCount.inLen) :
    Strict dev .enrolledCount reply ↔ Decisive .enrolledCount reply := by
  change reply.length ≤ 2 at bounded
  match reply with
  | [] => exact absurd rfl nonempty
  | [first] =>
      constructor
      · intro strict
        refine .inr (congrArg some ?_)
        by_contra foreign
        have short := strict.short (by change 1 < 2; decide) (.inr nofun)
        rw [answer_of_foreign (by decide) foreign] at short
        cases short
      · rintro (whole | framed)
        · cases whole
        · obtain rfl := Option.some.inj framed
          exact strict_of_short bounded fun _ => rfl
  | [first, second] =>
      refine iff_of_true (strict_of_short (Nat.le_refl 2) fun fewer => ?_) (.inl rfl)
      exact absurd fewer (Nat.lt_irrefl 2)
  | _ :: _ :: _ :: rest => exact absurd bounded (by simp)

theorem decode_fingerInfo_of_ordinary {index : UInt8}
    (ordinary : ∀ status, reply[1]? = some status → status &&& 0xF0 = 0) :
    decode dev (.fingerInfo index) reply = (decodeUserId dev.pid index reply).map .info :=
  congrArg (Except.map Value.info) ((decodeFingerInfo_cases dev.pid index reply).2 ordinary)

theorem decode_fingerInfo_of_failing {index status : UInt8} (present : reply[1]? = some status)
    (failing : status &&& 0xF0 ≠ 0) :
    decode dev (.fingerInfo index) reply = .error (.status (Status.fromByte status)) :=
  congrArg (Except.map Value.info)
    ((decodeFingerInfo_cases dev.pid index reply).1 status present failing)

/-- An error status makes a slot query an error whatever the length and the first byte. -/
theorem strict_fingerInfo_of_failing {index status : UInt8} (present : reply[1]? = some status)
    (failing : status &&& 0xF0 ≠ 0) : Strict dev (.fingerInfo index) reply where
  whole value returned := by
    unfold answer at returned
    rcases EntryPoint.accept_cases (entry (.fingerInfo index)) reply with accepted | ⟨_, refused⟩
    · rw [accepted, Except.bind, decode_fingerInfo_of_failing present failing] at returned
      cases returned
    · rw [refused] at returned
      cases returned
  short := by
    rintro - (impossible | ordinary)
    · exact nomatch impossible
    · exact absurd (ordinary status present) failing

/-- A part of a record is never reported as short of the whole one. -/
theorem not_strict_fingerInfo {index : UInt8} (nonempty : reply ≠ []) (fewer : reply.length < 64)
    (good : ∀ status, reply[1]? = some status → status &&& 0xF0 = 0) :
    ¬ Strict dev (.fingerInfo index) reply := by
  intro strict
  have short := strict.short fewer (.inr good)
  cases reply with
  | nil => exact nonempty rfl
  | cons first rest =>
      by_cases framed : first = Proto.frameMagic
      · subst framed
        have result := @decode_fingerInfo_of_ordinary dev _ index good
        rw [answer_of_framed, result, decodeUserId] at short
        split at short
        · have same : Proto.userIdOffset dev.pid = 64 := by
            injection short with short
            injection short
          rcases Proto.userIdOffset_cases dev.pid with two | three
          · exact absurd (two.symm.trans same) (by decide)
          · exact absurd (three.symm.trans same) (by decide)
        · cases short
      · rw [answer_of_foreign (by rintro ⟨⟩) framed] at short
        cases short

/-- A slot query is strict on whole records and on refusals, and on nothing else. -/
theorem strict_fingerInfo_iff {index : UInt8} (nonempty : reply ≠ [])
    (bounded : reply.length ≤ Proto.fingerInfo.inLen) :
    Strict dev (.fingerInfo index) reply ↔ Decisive (.fingerInfo index) reply := by
  constructor
  · intro strict
    by_contra neither
    obtain ⟨partly, ordinary⟩ := not_or.mp neither
    refine not_strict_fingerInfo nonempty (Nat.lt_of_le_of_ne bounded partly) ?_ strict
    intro status present
    by_contra failing
    exact ordinary ⟨status, present, failing⟩
  · rintro (whole | ⟨status, present, failing⟩)
    · exact strict_of_short bounded fun fewer => absurd whole (Nat.ne_of_lt fewer)
    · exact strict_fingerInfo_of_failing present failing

/-- **What a query is strict on.** -/
theorem strict_iff {call : Call} (query : call.IsQuery) (nonempty : reply ≠ [])
    (bounded : reply.length ≤ call.cmd.inLen) :
    call.Strict dev reply ↔ call.Decisive reply := by
  cases call with
  | firmwareVersion => exact iff_of_true (strict_firmwareVersion bounded) trivial
  | enrolledCount => exact strict_enrolledCount_iff nonempty bounded
  | fingerInfo index => exact strict_fingerInfo_iff nonempty bounded
  | _ => exact query.elim

end Call

namespace Finished

variable {dev : ElanMoc2} {finished : Finished dev} {reply : List UInt8}

/-- The nonempty reply a finished call got; there is one at most, at its end. -/
def Got (finished : Finished dev) (reply : List UInt8) : Prop :=
  finished.trace.lastReply = some reply ∧ reply ≠ []

/-- Success needs the whole reply to have arrived, and a part of it is reported as short of the
whole. -/
structure RefusesShort (finished : Finished dev) : Prop where
  whole : ∀ value, finished.result = .ok (.ok value) →
    ∃ reply, finished.Got reply ∧ reply.length = finished.call.cmd.inLen
  short : ∀ reply, finished.Got reply → reply.length < finished.call.cmd.inLen →
    finished.call.Ordinary reply →
      finished.result = .ok (.error (.short finished.call.cmd.inLen reply.length))

theorem Got.result (got : finished.Got reply) (query : finished.call.IsQuery) :
    finished.result = .ok (finished.call.answer dev reply) ∧
      reply.length ≤ finished.call.cmd.inLen := by
  obtain ⟨outcome, replies, same⟩ := finished.replies
  obtain ⟨rfl, bounded⟩ := replies.arrived query.allowed got.1 got.2
  exact ⟨same, bounded⟩

/-- No query decodes an empty reply. -/
theorem decode_nil {call : Call} (query : call.IsQuery) :
    ∃ e, call.decode dev [] = .error e := by
  cases call with
  | firmwareVersion => exact ⟨_, rfl⟩
  | enrolledCount => exact ⟨_, rfl⟩
  | fingerInfo index =>
      rcases Proto.userIdOffset_cases dev.pid with two | three
      · exact ⟨_, congrArg (Except.map Value.info) (if_pos (by rw [two]; decide))⟩
      · exact ⟨_, congrArg (Except.map Value.info) (if_pos (by rw [three]; decide))⟩
  | _ => exact query.elim

/-- A query that succeeds got a reply. -/
theorem exists_got {value : Value} (query : finished.call.IsQuery)
    (returned : finished.result = .ok (.ok value)) : ∃ reply, finished.Got reply := by
  obtain ⟨outcome, replies, same⟩ := finished.replies
  cases outcome with
  | error e => exact nomatch same.symm.trans returned
  | ok reply =>
      refine ⟨reply, ((replies.eq_ok_iff query.allowed).mp rfl).1, ?_⟩
      rintro rfl
      obtain ⟨e, failed⟩ := @decode_nil dev _ query
      have returned' : Except.ok (finished.call.decode dev []) = .ok (.ok value) :=
        same.symm.trans returned
      rw [failed] at returned'
      cases returned'

/-- A query refuses short replies when it is strict on what it got. -/
theorem refusesShort_iff_strict (query : finished.call.IsQuery) :
    finished.RefusesShort ↔ ∀ reply, finished.Got reply → finished.call.Strict dev reply := by
  constructor
  · intro refuses reply got
    obtain ⟨same, -⟩ := got.result query
    constructor
    · intro value returned
      obtain ⟨other, also, whole⟩ := refuses.whole value (same.trans (congrArg _ returned))
      rw [Option.some.inj (got.1.symm.trans also.1)]
      exact whole
    · intro fewer ordinary
      exact Except.ok.inj (same.symm.trans (refuses.short reply got fewer ordinary))
  · intro strict
    constructor
    · intro value returned
      obtain ⟨reply, got⟩ := exists_got query returned
      obtain ⟨same, -⟩ := got.result query
      exact ⟨reply, got, (strict reply got).whole value (Except.ok.inj (same.symm.trans returned))⟩
    · intro reply got fewer ordinary
      obtain ⟨same, -⟩ := got.result query
      exact same.trans (congrArg _ ((strict reply got).short fewer ordinary))

end Finished

variable {dev : ElanMoc2}

/-- **Short replies.** A query refuses short replies exactly when the reply it gets, if it gets
one that is not empty, is decisive. -/
theorem refusesShort_iff (finished : Finished dev) (query : finished.call.IsQuery) :
    finished.RefusesShort ↔ ∀ reply, finished.Got reply → finished.call.Decisive reply := by
  rw [Finished.refusesShort_iff_strict query]
  exact forall₂_congr fun reply got => Call.strict_iff query got.2 (got.result query).2

/-- A slot query answered at its first attempt. -/
def answeredSlot (dev : ElanMoc2) (index : UInt8)
    (reply : {bytes : List UInt8 // bytes.length ≤ Proto.fingerInfo.inLen})
    (framed : reply.val.head? = some Proto.frameMagic) : Finished dev where
  call := .fingerInfo index
  trace := [Bus.sentWhole (Proto.encode Proto.fingerInfo [index]),
    Bus.received Proto.fingerInfo reply]
  result := .ok (Call.decode dev (.fingerInfo index) reply.val)
  runs := by
    have allowed : EntryPoint.refusal .transceive Proto.fingerInfo [index] = none :=
      EntryPoint.refusal_eq_none_iff.mpr ⟨.inr nofun, Proto.fits_fingerInfo index⟩
    have exchange : Exchange Proto.fingerInfo [index] _ (.ok reply.val) :=
      .received (by decide) ⟨_, Nat.le_refl _⟩ reply
    exact (Call.runs_perform_iff (.fingerInfo index)).mpr
      ⟨_, FirstReply.retried allowed framed (.now exchange), rfl⟩

/-- The sensor refuses the slot with the two bytes `40 ff`. -/
def rejectedSlot : Finished ⟨0x0c00, 0, true⟩ := answeredSlot _ 4 ⟨[0x40, 0xff], by decide⟩ rfl

theorem refusesShort_rejectedSlot : rejectedSlot.RefusesShort := by
  refine (refusesShort_iff rejectedSlot trivial).mpr ?_
  rintro reply ⟨last, -⟩
  obtain rfl : [0x40, 0xff] = reply := Option.some.inj last
  exact .inr ⟨0xff, rfl, by decide⟩

/-- The sensor sends the first three bytes of a record. -/
def cutSlot : Finished ⟨0x0c00, 0, true⟩ := answeredSlot _ 0 ⟨[0x40, 0, 0x46], by decide⟩ rfl

/-- They are returned as the record of the user id `46`. -/
theorem not_refusesShort_cutSlot : ¬ cutSlot.RefusesShort := by
  intro refuses
  obtain ⟨reply, ⟨last, -⟩, whole⟩ := refuses.whole (.info { index := 0, userId := [0x46] }) rfl
  obtain rfl : [0x40, 0, 0x46] = reply := Option.some.inj last
  exact absurd whole (by decide)

end Elan0c00
