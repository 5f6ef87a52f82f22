import Elan0c00.Session

/-! # Partial transfers

An OUT transfer may succeed with a part of the frame only. The library does not look at the
number of bytes taken: a call that sent a partial frame fails exactly when its last transfer
or its last reply makes it fail anyway (`shortWrite_fails_iff`), and `abort` returns `Ok`
after one byte of three (`abort_accepts_shortWrite`).
-/

namespace Elan0c00

open Interaction Bytes

namespace Trace

/-- The OUT transfer succeeded without taking the whole buffer. -/
def IsShort : Event Answer → Prop
  | ⟨.writeBulk _ buf _, .ok taken⟩ => taken.val < buf.length
  | _ => False

/-- Some frame was sent in part. -/
def ShortWrite (trace : Trace) : Prop := ∃ event ∈ trace, IsShort event

end Trace

namespace Call

/-- A nonempty reply without the magic byte, on a path that insists on it. -/
def Unframed (call : Call) (reply : List UInt8) : Prop :=
  call.entry ≠ .transceiveRaw ∧ ∃ first ∈ reply.head?, first ≠ Proto.frameMagic

/-- A reply that is too short for the call or carries an error status. -/
def Undecodable (dev : ElanMoc2) : Call → List UInt8 → Prop
  | .firmwareVersion, reply => reply.length < 2
  | .enrolledCount, reply => reply.length < 2
  | .fingerInfo _, reply =>
      (∃ status ∈ reply[1]?, status &&& 0xF0 ≠ 0) ∨ reply.length < Proto.userIdOffset dev.pid
  | _, _ => False

/-- The call fails whatever was sent: its last transfer failed, or the last reply is empty on
a query, is not framed or is not what the call decodes. -/
def FailsAnyway (dev : ElanMoc2) (call : Call) (trace : Trace) : Prop :=
  ∀ reply ∈ trace.lastReply,
    (call.retries = true ∧ reply = []) ∨ call.Unframed reply ∨ call.Undecodable dev reply

theorem accept_eq_ok_iff {call : Call} {reply : List UInt8} :
    call.entry.accept reply = .ok reply ↔ ¬ call.Unframed reply := by
  unfold Unframed
  cases reply with
  | nil => exact iff_of_true rfl (by simp)
  | cons first rest =>
      by_cases raw : call.entry = .transceiveRaw
      · rw [raw, EntryPoint.accept_raw]
        simp
      · by_cases magic : first = Proto.frameMagic
        · rw [magic, EntryPoint.accept_magic]
          simp
        · rw [EntryPoint.accept_of_ne raw magic]
          simp [raw, magic]

theorem decodeUserId_isError_iff {pid : UInt16} {index : UInt8} {reply : List UInt8} :
    (∃ e, decodeUserId pid index reply = .error e) ↔
      reply.length < Proto.userIdOffset pid := by
  unfold decodeUserId
  split
  · exact iff_of_true ⟨_, rfl⟩ ‹_›
  · exact iff_of_false nofun ‹_›

theorem decodeFingerInfo_isError_iff {pid : UInt16} {index : UInt8} {reply : List UInt8} :
    (∃ e, decodeFingerInfo pid index reply = .error e) ↔
      (∃ status ∈ reply[1]?, status &&& 0xF0 ≠ 0) ∨ reply.length < Proto.userIdOffset pid := by
  match reply with
  | [] => simp [decodeFingerInfo, decodeUserId_isError_iff]
  | [_] => simp [decodeFingerInfo, decodeUserId_isError_iff]
  | first :: status :: rest =>
      have status_iff := Status.isOk_fromByte status
      simp only [decodeFingerInfo]
      split
      · have ordinary := status_iff.mp ‹_›
        simp [decodeUserId_isError_iff, ordinary]
      · have failing : status &&& 0xF0 ≠ 0 := fun ordinary => ‹¬ _› (status_iff.mpr ordinary)
        exact iff_of_true ⟨_, rfl⟩ (.inl ⟨status, rfl, failing⟩)

theorem decode_isError_iff {dev : ElanMoc2} {call : Call} {reply : List UInt8} :
    (∃ e, call.decode dev reply = .error e) ↔ call.Undecodable dev reply := by
  have map_isError {α : Type} (wrap : α → Value) (known : Except Error α) :
      (∃ e, known.map wrap = .error e) ↔ ∃ e, known = .error e := by
    cases known <;> simp [Except.map]
  cases call with
  | transceive => exact iff_of_false nofun id
  | transceiveRaw => exact iff_of_false nofun id
  | transceiveDestructive => exact iff_of_false nofun id
  | abort => exact iff_of_false nofun id
  | firmwareVersion =>
      refine (map_isError _ _).trans ?_
      match reply with
      | [] => simp [decodeVersion, Undecodable]
      | [_] => simp [decodeVersion, Undecodable]
      | _ :: _ :: _ => simp [decodeVersion, Undecodable]
  | enrolledCount =>
      refine (map_isError _ _).trans ?_
      match reply with
      | [] => simp [decodeCount, Undecodable]
      | [_] => simp [decodeCount, Undecodable]
      | _ :: _ :: _ => simp [decodeCount, Undecodable]
  | fingerInfo index => exact (map_isError _ _).trans decodeFingerInfo_isError_iff

/-- A call that sent something goes on with the last reply unless that is empty on a query or
not framed. -/
theorem Replies.eq_ok_iff {call : Call} {trace : Trace} {outcome : Except Error (List UInt8)}
    {reply : List UInt8} (allowed : call.entry.refusal call.cmd call.payload = none)
    (replies : call.Replies trace outcome) :
    outcome = .ok reply ↔ trace.lastReply = some reply ∧
      ¬ (call.retries = true ∧ reply = []) ∧ ¬ call.Unframed reply := by
  unfold Replies at replies
  rw [← accept_eq_ok_iff]
  cases repeated : call.retries with
  | true =>
      rw [if_pos repeated] at replies
      rw [entry_of_retries repeated] at allowed ⊢
      rw [replies.eq_ok_iff allowed]
      simp only [true_and, ne_eq]
  | false =>
      rw [repeated, if_neg nofun] at replies
      rw [replies.eq_ok_iff allowed]
      simp only [reduceCtorEq, false_and, not_false_eq_true, true_and]

end Call

variable {dev : ElanMoc2}

/-- A call that transferred something fails just when its last transfer or reply says so. -/
theorem Finished.fails_iff (finished : Finished dev) (active : finished.trace ≠ []) :
    (∃ e, finished.result = .ok (.error e)) ↔
      finished.call.FailsAnyway dev finished.trace := by
  obtain ⟨outcome, replies, same⟩ := finished.replies
  have allowed : finished.call.entry.refusal finished.call.cmd finished.call.payload = none := by
    cases refusal : finished.call.entry.refusal finished.call.cmd finished.call.payload with
    | none => rfl
    | some e => exact absurd (replies.of_refusal refusal).1 active
  rw [same]
  constructor
  · rintro ⟨e, failed⟩ reply last
    by_contra accepted
    rw [not_or, not_or] at accepted
    have returned := (replies.eq_ok_iff allowed).mpr ⟨last, accepted.1, accepted.2.1⟩
    rw [returned] at failed
    exact accepted.2.2 (Call.decode_isError_iff.mp ⟨e, Except.ok.inj failed⟩)
  · intro failing
    cases outcome with
    | error e => exact ⟨e, rfl⟩
    | ok reply =>
        obtain ⟨last, kept, framed⟩ := (replies.eq_ok_iff allowed).mp rfl
        rcases failing reply last with empty | unframed | undecodable
        · exact absurd empty kept
        · exact absurd unframed framed
        · obtain ⟨e, failed⟩ := Call.decode_isError_iff.mpr undecodable
          exact ⟨e, congrArg Except.ok failed⟩

/-- **Short writes.** A call that sent a frame in part returns an error exactly when it fails
anyway. -/
theorem shortWrite_fails_iff (finished : Finished dev) :
    (finished.trace.ShortWrite → ∃ e, finished.result = .ok (.error e)) ↔
      ¬ finished.trace.ShortWrite ∨ finished.call.FailsAnyway dev finished.trace := by
  rw [imp_iff_not_or]
  by_cases short : finished.trace.ShortWrite
  · have active : finished.trace ≠ [] := by
      obtain ⟨event, member, -⟩ := short
      exact List.ne_nil_of_mem member
    rw [finished.fails_iff active]
  · exact iff_of_true (.inl short) (.inl short)

/-- `abort` after one byte of its frame, answered `40 00`. -/
def shortAbort : Finished ⟨0x0c00, 0, true⟩ where
  call := .abort
  trace := [Bus.sent [0x40, 0xff, 0x02] ⟨1, by decide⟩,
    Bus.received Proto.abort ⟨[0x40, 0x00], by decide⟩]
  result := .ok (.ok .unit)
  runs := by
    have allowed : EntryPoint.refusal .transceive Proto.abort [] = none := by decide
    have exchange := @Exchange.received Proto.abort [] (by decide) ⟨1, by decide⟩
      ⟨[0x40, 0x00], by decide⟩
    exact (Call.runs_perform_iff .abort).mpr ⟨_, .exchanged allowed exchange, rfl⟩

/-- The call succeeds though two bytes of its frame never left. -/
theorem abort_accepts_shortWrite :
    shortAbort.trace.ShortWrite ∧ ¬ ∃ e, shortAbort.result = .ok (.error e) := by
  refine ⟨⟨_, List.mem_cons_self, ?_⟩, ?_⟩
  · change 1 < 3
    decide
  · rintro ⟨e, failed⟩
    exact nomatch failed

end Elan0c00
