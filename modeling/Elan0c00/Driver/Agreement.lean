import Elan0c00.Driver.DeletePrint
import Elan0c00.Record

/-! # The two decoders of a user id

The library and the driver take the user id out of a `finger_info` reply in different ways.
`Driver.decoders_agree` says that they agree: where the reply holds the header the library
returns what the patched helper returns, without the NULs at its end, and the delete frames
built of the two are the same; where it does not, the library fails and the helper returns
the empty user id.
-/

namespace Elan0c00.Driver

open Interaction Bytes

/-- The device type the driver gives to a product. -/
def DevType.ofPid (pid : UInt16) : DevType :=
  if pid = Proto.pid0c5e then .dev0C5E else .allDev

/-- Both sides skip the same header. -/
theorem offset_ofPid (pid : UInt16) :
    (DevType.ofPid pid).offset.toNat = Proto.userIdOffset pid := by
  unfold DevType.ofPid Proto.userIdOffset
  split
  · rfl
  · rfl

/-- In a reply of a record's length at most, the user id is all that follows the header. -/
theorem userId_eq_drop {dev : DevType} {response : GBytes}
    (fits : response.contents.length ≤ 64) :
    response.userId dev = response.contents.drop dev.offset.toNat := by
  apply List.take_of_length_le
  rw [List.length_drop]
  cases dev with
  | allDev =>
      change _ - 2 ≤ 62
      omega
  | dev0C5E =>
      change _ - 3 ≤ 61
      omega

/-- NULs at the end of a user id do not show in the frame. -/
theorem fillDelete_trimEnd {bufferOut userId : List UInt8} (prepared : Prepared bufferOut)
    (fits : userId.length ≤ 68) (fingerId : UInt8) :
    fillDelete bufferOut fingerId (trimEnd 0 userId) (UInt64.ofNat (trimEnd 0 userId).length) =
      .ok (deleteFrame bufferOut fingerId userId) := by
  have shorter : (trimEnd 0 userId).length ≤ 68 := by
    obtain ⟨count, split⟩ : ∃ count, userId = trimEnd 0 userId ++ List.replicate count 0 :=
      exists_append_replicate userId
    rw [split, List.length_append] at fits
    exact Nat.le_trans (Nat.le_add_right _ _) fits
  have filled := @fillDelete_of_le bufferOut (trimEnd 0 userId) fingerId prepared.length shorter []
  rw [List.append_nil] at filled
  rw [filled, deleteFrame_eq_rightpad prepared, deleteFrame_eq_rightpad prepared,
    rightpad_trimEnd fits]

/-- **The two decoders.** For a reply of at most 64 bytes that begins with the magic byte and
whose status, if it is there, is ordinary: if it holds the header, `fingerInfo` returns the
bytes of the patched helper without the NULs at their end, and in a prepared buffer the two
user ids give the same delete frame; if not, `fingerInfo` fails and the helper returns no
byte. -/
theorem decoders_agree (dev : ElanMoc2) (index : UInt8) (response : GBytes) (reply : List UInt8)
    (trace : Trace) (holds : response.data = some reply) (fits : reply.length ≤ 64)
    (framed : reply.head? = some 0x40)
    (ordinary : ∀ status, reply[1]? = some status → status &&& 0xF0 = 0)
    (arrived : FirstReply Proto.fingerInfo [index] reply Proto.maxRetries trace) :
    ∃ userId outLen, getUserIdString (DevType.ofPid dev.pid) response = .ok (userId, outLen) ∧
      (Proto.userIdOffset dev.pid ≤ reply.length → ∃ info : FingerInfo,
        (∀ result, (dev.fingerInfo index).run.Runs trace result ↔ result = .ok (.ok info)) ∧
        info.userId = trimEnd 0 (userId.take outLen.toNat) ∧
        ∀ bufferOut fingerId, Prepared bufferOut → ∃ frame, frame.length = 72 ∧
          fillDelete bufferOut fingerId info.userId (UInt64.ofNat info.userId.length) =
            .ok frame ∧
          fillDelete bufferOut fingerId userId outLen = .ok frame) ∧
      (reply.length < Proto.userIdOffset dev.pid →
        (∀ result, (dev.fingerInfo index).run.Runs trace result ↔
          result = .ok (.error (.short (Proto.userIdOffset dev.pid) reply.length))) ∧
        outLen = 0) := by
  have contents := GBytes.contents_of_data holds
  have skipped := offset_ofPid dev.pid
  have field : response.userId (DevType.ofPid dev.pid) =
      reply.drop (Proto.userIdOffset dev.pid) := by
    rw [userId_eq_drop (by rw [contents]; exact fits), contents, skipped]
  have decoded := (decodeFingerInfo_cases dev.pid index reply).2 ordinary
  have runs := @runs_fingerInfo_of_firstReply dev index reply trace framed arrived
  rw [decoded] at runs
  refine ⟨_, _, getUserIdString_eq, ?_, ?_⟩
  · intro whole
    have long : ¬ reply.length < Proto.userIdOffset dev.pid := Nat.not_lt.mpr whole
    rw [decodeUserId, if_neg long, ← field] at runs
    refine ⟨_, runs, ?_, ?_⟩
    · rw [GBytes.toNat_length_userId, List.take_left]
    · intro bufferOut fingerId prepared
      have bounded : (response.userId (DevType.ofPid dev.pid)).length ≤ 68 :=
        Nat.le_trans GBytes.length_userId_le (by decide)
      exact ⟨_, length_deleteFrame prepared bounded fingerId,
        fillDelete_trimEnd prepared bounded fingerId,
        fillDelete_of_le prepared.length bounded [0]⟩
  · intro short
    rw [decodeUserId, if_pos short] at runs
    refine ⟨runs, ?_⟩
    rw [field, List.drop_eq_nil_of_le (Nat.le_of_lt short)]
    rfl

/-- A reply of a 0c5e with one NUL in its user id and two at its end. -/
def wideReply : List UInt8 := [0x40, 0, 7, 0x46, 0, 0x31, 0, 0]

theorem decoders_agree_wideReply :
    ∃ userId outLen, getUserIdString (DevType.ofPid 0x0c5e) ⟨some wideReply, by decide⟩ =
        .ok (userId, outLen) ∧
      ∃ info : FingerInfo, info.userId = trimEnd 0 (userId.take outLen.toNat) ∧
        (ElanMoc2.fingerInfo ⟨0x0c5e, 0, true⟩ 2).run.Runs
          [Bus.sentWhole [0x40, 0xff, 0x12, 2],
            Bus.received Proto.fingerInfo ⟨wideReply, by decide⟩] (.ok (.ok info)) := by
  have exchange : Exchange Proto.fingerInfo [2] _ (.ok wideReply) :=
    .received (by decide) ⟨_, Nat.le_refl _⟩ ⟨wideReply, by decide⟩
  have ordinary : ∀ status, wideReply[1]? = some status → status &&& 0xF0 = 0 := by
    rintro _ ⟨⟩
    rfl
  obtain ⟨userId, outLen, returned, whole, -⟩ := decoders_agree ⟨0x0c5e, 0, true⟩ 2
    ⟨some wideReply, by decide⟩ wideReply _ rfl (by decide) rfl ordinary (.now exchange)
  obtain ⟨info, runs, trimmed, -⟩ := whole (by decide)
  exact ⟨userId, outLen, returned, info, trimmed, (runs _).mpr rfl⟩

end Elan0c00.Driver
