import Elan0c00.Call

/-! # The record of a slot

A `finger_info` reply of an occupied slot is a record of 64 bytes: the magic byte, a status,
on `0c5e` one more byte, the user id and zeros. `fingerInfo_decodes` says that the record is
decoded to the user id it was made of, and what any other reply is decoded to.
-/

namespace Elan0c00

open Interaction Bytes

namespace Proto

/-- The reply that carries a user id. -/
def record (pid : UInt16) (status extra : UInt8) (userId : List UInt8) : List UInt8 :=
  (frameMagic :: status :: ((if pid = pid0c5e then [extra] else []) ++ userId)).rightpad
    fingerInfo.inLen 0

variable {pid : UInt16} {status extra : UInt8} {userId : List UInt8}

theorem record_eq_cons : ∃ rest, record pid status extra userId = frameMagic :: status :: rest :=
  ⟨_, rfl⟩

/-- The user id stands at the offset, followed by zeros. -/
theorem drop_record :
    ∃ zeros, (record pid status extra userId).drop (userIdOffset pid) =
      userId ++ List.replicate zeros 0 := by
  unfold record userIdOffset List.rightpad
  by_cases wide : pid = pid0c5e
  · rw [if_pos wide, if_pos wide]
    exact ⟨_, rfl⟩
  · rw [if_neg wide, if_neg wide]
    exact ⟨_, rfl⟩

/-- The record fills the whole reply when the user id fits. -/
theorem length_record (fits : userId.length ≤ fingerInfo.inLen - userIdOffset pid) :
    (record pid status extra userId).length = fingerInfo.inLen := by
  apply length_rightpad_of_le
  unfold userIdOffset at fits
  change _ ≤ 64
  change _ ≤ 64 - _ at fits
  rw [List.length_cons, List.length_cons, List.length_append]
  split
  · rw [if_pos ‹_›] at fits
    change 1 + _ + 2 ≤ 64
    omega
  · rw [if_neg ‹_›] at fits
    change 0 + _ + 2 ≤ 64
    omega

/-- A record is decoded to the user id it carries. -/
theorem decodeFingerInfo_record (index : UInt8) (ordinary : status &&& 0xF0 = 0)
    (trimmed : NoTrailing 0 userId)
    (fits : userId.length ≤ fingerInfo.inLen - userIdOffset pid) :
    decodeFingerInfo pid index (record pid status extra userId) =
      .ok { index := index, userId := userId } := by
  have long : ¬ (record pid status extra userId).length < userIdOffset pid := by
    rw [length_record fits]
    rcases userIdOffset_cases pid with two | three
    · rw [two]
      decide
    · rw [three]
      decide
  have accepted : (Status.fromByte status).isOk = true := (Status.isOk_fromByte status).mpr ordinary
  have userIdDecoded : decodeUserId pid index (record pid status extra userId) =
      .ok { index := index, userId := userId } := by
    obtain ⟨zeros, field⟩ : ∃ zeros, (record pid status extra userId).drop (userIdOffset pid) =
        userId ++ List.replicate zeros 0 := drop_record
    unfold decodeUserId
    rw [if_neg long, field, trimEnd_append_replicate, trimEnd_eq_self trimmed]
  obtain ⟨rest, shape⟩ : ∃ rest, record pid status extra userId = frameMagic :: status :: rest :=
    record_eq_cons
  rw [shape] at userIdDecoded ⊢
  exact (if_pos accepted).trans userIdDecoded

end Proto

/-- The transfers of a query up to its first nonempty reply, with fewer empty ones before it
than there are attempts. -/
inductive FirstReply (cmd : Cmd) (payload reply : List UInt8) : Nat → Trace → Prop where
  | now {attempts : Nat} {trace : Trace} (exchange : Exchange cmd payload trace (.ok reply)) :
      FirstReply cmd payload reply (attempts + 1) trace
  | later {attempts : Nat} {first rest : Trace} (empty : Exchange cmd payload first (.ok []))
      (later : FirstReply cmd payload reply attempts rest) :
      FirstReply cmd payload reply (attempts + 1) (first ++ rest)

theorem FirstReply.retried {cmd : Cmd} {payload reply : List UInt8} {attempts : Nat}
    {trace : Trace} (allowed : EntryPoint.refusal .transceive cmd payload = none)
    (framed : reply.head? = some Proto.frameMagic)
    (arrived : FirstReply cmd payload reply attempts trace) :
    Retried cmd payload attempts trace (.ok reply) := by
  induction arrived with
  | now exchange =>
      cases reply with
      | nil => exact nomatch framed
      | cons first rest =>
          obtain rfl : first = Proto.frameMagic := Option.some.inj framed
          have asked := Asked.exchanged allowed exchange
          rw [Except.bind, EntryPoint.accept_magic] at asked
          exact .settled asked nofun
  | later empty _ ih => exact .again (.exchanged allowed empty) ih

/-- A framed reply that comes in time is what `fingerInfo` decodes. -/
theorem runs_fingerInfo_of_firstReply {dev : ElanMoc2} {index : UInt8} {reply : List UInt8}
    {trace : Trace} (framed : reply.head? = some Proto.frameMagic)
    (arrived : FirstReply Proto.fingerInfo [index] reply Proto.maxRetries trace)
    (result : Except Fault (Except Error FingerInfo)) :
    (dev.fingerInfo index).run.Runs trace result ↔
      result = .ok (decodeFingerInfo dev.pid index reply) := by
  have allowed : EntryPoint.refusal .transceive Proto.fingerInfo [index] = none :=
    EntryPoint.refusal_eq_none_iff.mpr ⟨.inr nofun, Proto.fits_fingerInfo index⟩
  have run : (dev.fingerInfo index).run.Runs trace
      (.ok (decodeFingerInfo dev.pid index reply)) :=
    runs_fingerInfo_iff.mpr ⟨_, arrived.retried allowed framed, rfl⟩
  exact run.result_iff

/-- What is decoded of a reply that is not a record: the error status of its second byte, or
its shortness, or the bytes from the offset on without the zeros at their end. -/
theorem decodeFingerInfo_cases (pid : UInt16) (index : UInt8) (reply : List UInt8) :
    (∀ status, reply[1]? = some status → status &&& 0xF0 ≠ 0 →
      decodeFingerInfo pid index reply = .error (.status (Status.fromByte status))) ∧
    ((∀ status, reply[1]? = some status → status &&& 0xF0 = 0) →
      decodeFingerInfo pid index reply = decodeUserId pid index reply) := by
  match reply with
  | [] => exact ⟨nofun, fun _ => rfl⟩
  | [_] => exact ⟨nofun, fun _ => rfl⟩
  | first :: second :: rest =>
      constructor
      · intro status present failing
        obtain rfl : second = status := Option.some.inj present
        have refused : ¬ (Status.fromByte second).isOk = true :=
          fun accepted => failing ((Status.isOk_fromByte second).mp accepted)
        exact if_neg refused
      · intro ordinary
        exact if_pos ((Status.isOk_fromByte second).mpr (ordinary second rfl))

/-- **The record of a slot.** If the first nonempty reply comes in time and is the record of
a user id, `fingerInfo` returns that user id. Of every other reply that begins with the magic
byte it returns, without a panic, the error status of the second byte, else that the reply is
too short, else the one way to read the rest as a user id and zeros. -/
theorem fingerInfo_decodes (dev : ElanMoc2) (index : UInt8) :
    (∀ (status extra : UInt8) (userId : List UInt8) (trace : Trace), status &&& 0xF0 = 0 →
      userId.length ≤ 64 - Proto.userIdOffset dev.pid → userId.getLast? ≠ some 0 →
      FirstReply Proto.fingerInfo [index] (Proto.record dev.pid status extra userId)
        Proto.maxRetries trace →
      ∀ result, (dev.fingerInfo index).run.Runs trace result ↔
        result = .ok (.ok { index := index, userId := userId })) ∧
    (∀ (reply : List UInt8) (trace : Trace), 1 ≤ reply.length → reply.length ≤ 64 →
      reply.head? = some 0x40 →
      FirstReply Proto.fingerInfo [index] reply Proto.maxRetries trace →
      ∃ outcome, (∀ result, (dev.fingerInfo index).run.Runs trace result ↔ result = .ok outcome) ∧
        (∀ status, reply[1]? = some status → status &&& 0xF0 ≠ 0 →
          outcome = .error (.status (Status.fromByte status))) ∧
        ((∀ status, reply[1]? = some status → status &&& 0xF0 = 0) →
          (reply.length < Proto.userIdOffset dev.pid →
            outcome = .error (.short (Proto.userIdOffset dev.pid) reply.length)) ∧
          (Proto.userIdOffset dev.pid ≤ reply.length →
            ∃ userId, outcome = .ok { index := index, userId := userId } ∧
              userId.getLast? ≠ some 0 ∧
              (∃ zeros, userId ++ List.replicate zeros 0 =
                reply.drop (Proto.userIdOffset dev.pid)) ∧
              ∀ other : List UInt8, other.getLast? ≠ some 0 →
                (∃ zeros, other ++ List.replicate zeros 0 =
                  reply.drop (Proto.userIdOffset dev.pid)) → other = userId))) := by
  refine ⟨?_, ?_⟩
  · intro status extra userId trace ordinary fits trimmed arrived result
    rw [runs_fingerInfo_of_firstReply rfl arrived,
      Proto.decodeFingerInfo_record index ordinary trimmed fits]
  · intro reply trace _ _ framed arrived
    obtain ⟨failing, decoded⟩ := decodeFingerInfo_cases dev.pid index reply
    refine ⟨_, runs_fingerInfo_of_firstReply framed arrived, failing, ?_⟩
    intro ordinary
    rw [decoded ordinary]
    refine ⟨fun short => if_pos short, ?_⟩
    intro long
    refine ⟨_, if_neg (Nat.not_lt.mpr long), noTrailing_trimEnd _, ?_, ?_⟩
    · obtain ⟨zeros, split⟩ : ∃ zeros, reply.drop (Proto.userIdOffset dev.pid) =
          trimEnd 0 (reply.drop (Proto.userIdOffset dev.pid)) ++ List.replicate zeros 0 :=
        exists_append_replicate _
      exact ⟨zeros, split.symm⟩
    · rintro other trimmed ⟨zeros, split⟩
      exact eq_trimEnd_of_append_replicate trimmed split.symm

/-- A user id with a NUL inside, on `0c5e`, after one empty reply. -/
theorem fingerInfo_decodes_second_attempt :
    (ElanMoc2.fingerInfo ⟨0x0c5e, 0, true⟩ 3).run.Runs
      [Bus.sent [0x40, 0xff, 0x12, 3] ⟨4, Nat.le_refl 4⟩,
        Bus.received Proto.fingerInfo ⟨[], Nat.zero_le 64⟩,
        Bus.sent [0x40, 0xff, 0x12, 3] ⟨4, Nat.le_refl 4⟩,
        Bus.received Proto.fingerInfo
          ⟨Proto.record 0x0c5e 0 7 [0x46, 0, 0x31], Nat.le_refl 64⟩]
      (.ok (.ok { index := 3, userId := [0x46, 0, 0x31] })) := by
  have empty := @Exchange.received Proto.fingerInfo [3] (by decide) ⟨4, Nat.le_refl 4⟩
    ⟨[], Nat.zero_le 64⟩
  have answered := @Exchange.received Proto.fingerInfo [3] (by decide) ⟨4, Nat.le_refl 4⟩
    ⟨Proto.record 0x0c5e 0 7 [0x46, 0, 0x31], Nat.le_refl 64⟩
  exact ((fingerInfo_decodes ⟨0x0c5e, 0, true⟩ 3).1 0 7 [0x46, 0, 0x31] _ rfl (by decide)
    (by decide) (.later empty (.now answered)) _).mpr rfl

end Elan0c00
