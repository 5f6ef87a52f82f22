import Elan0c00.Driver.DeletePrint

/-! # The print made from a reply

The driver makes a print of a `finger_info` reply; a user id that begins with `FP` is kept up
to its first NUL only, every other one whole. Deleting that print later and deleting the finger
at once, as the enroll path does, send the same frame exactly when nothing but NULs was cut off
(`Driver.created_deletes_alike_iff`).
-/

namespace Elan0c00.Driver

open Bytes

/-- `"FP"`. -/
def libfprintPrefix : List UInt8 := [0x46, 0x50]

/-- `g_str_has_prefix`, of a prefix without a NUL. -/
def gStrHasPrefix (str strPrefix : List UInt8) : Bool := strPrefix.isPrefixOf str

/-- `strnlen`: the number of bytes before the first NUL, `maxLen` at most. -/
def strnlen (str : List UInt8) (maxLen : UInt64) : UInt64 :=
  UInt64.ofNat ((str.take maxLen.toNat).takeWhile fun b => b ≠ 0).length

/-- The creation of a print from a reply, up to `elanmoc2_print_new_with_user_id`. -/
def createPrint (printNew : UInt8 → UInt64 → List UInt8 → PrintData) (dev : DevType)
    (fingerId : UInt8) (fingerInfoResp : GBytes) : Except Fault PrintData := do
  let (userId, userIdLen) ← getUserIdString dev fingerInfoResp
  let userIdLen := if gStrHasPrefix userId libfprintPrefix then strnlen userId userIdLen
    else userIdLen
  return printNew fingerId userIdLen userId

/-- What is assumed of `elanmoc2_print_new_with_user_id`: it stores the number of the slot and
just the bytes it was given. -/
def StoresUserId (printNew : UInt8 → UInt64 → List UInt8 → PrintData) : Prop :=
  ∀ fingerId len userId, len.toNat ≤ userId.length →
    (printNew fingerId len userId).fingerId = fingerId ∧
      (printNew fingerId len userId).userId = userId.take len.toNat

/-- The bytes of a user id that a print keeps. -/
def keptUserId (userId : List UInt8) : List UInt8 :=
  if libfprintPrefix <+: userId then userId.takeWhile fun b => b ≠ 0 else userId

section Created

variable {printNew : UInt8 → UInt64 → List UInt8 → PrintData} {dev : DevType} {fingerId : UInt8}
  {response : GBytes} {userId : List UInt8}

/-- The NUL behind a user id is no part of the prefix. -/
theorem gStrHasPrefix_iff :
    gStrHasPrefix (userId ++ [0]) libfprintPrefix = true ↔ libfprintPrefix <+: userId := by
  have trimmed : NoTrailing 0 libfprintPrefix := by decide
  unfold gStrHasPrefix
  rw [List.isPrefixOf_iff_prefix]
  exact prefix_append_replicate_iff trimmed 1

theorem prefix_keptUserId (userId : List UInt8) : keptUserId userId <+: userId := by
  unfold keptUserId
  split
  · exact List.takeWhile_prefix _
  · exact List.prefix_rfl

/-- The length a print is made with is that of what is kept. -/
theorem toNat_keptLength (addressable : userId.length < UInt64.size) :
    (if gStrHasPrefix (userId ++ [0]) libfprintPrefix then
        strnlen (userId ++ [0]) (UInt64.ofNat userId.length)
      else UInt64.ofNat userId.length).toNat = (keptUserId userId).length := by
  have length : (UInt64.ofNat userId.length).toNat = userId.length :=
    UInt64.toNat_ofNat_of_lt' addressable
  have shorter : (keptUserId userId).length < UInt64.size :=
    Nat.lt_of_le_of_lt (prefix_keptUserId userId).length_le addressable
  unfold keptUserId at shorter ⊢
  by_cases named : libfprintPrefix <+: userId
  · rw [if_pos named] at shorter ⊢
    rw [if_pos (gStrHasPrefix_iff.mpr named), strnlen, length, List.take_left]
    exact UInt64.toNat_ofNat_of_lt' shorter
  · rw [if_neg named, if_neg fun found => named (gStrHasPrefix_iff.mp found)]
    exact length

/-- **The print** of a reply has the number of the slot and what is kept of the user id. -/
theorem createPrint_eq (stores : StoresUserId printNew) :
    ∃ print, createPrint printNew dev fingerId response = .ok print ∧
      print.fingerId = fingerId ∧ print.userId = keptUserId (response.userId dev) := by
  have kept := @toNat_keptLength (response.userId dev)
    (Nat.lt_of_le_of_lt GBytes.length_userId_le (by decide))
  have inside : keptUserId (response.userId dev) <+: response.userId dev ++ [0] :=
    (prefix_keptUserId _).trans (List.prefix_append _ _)
  unfold createPrint
  simp only [getUserIdString_eq]
  refine ⟨_, rfl, ?_⟩
  obtain ⟨numbered, copied⟩ := stores fingerId _ (response.userId dev ++ [0])
    (by rw [kept]; exact inside.length_le)
  rw [kept, ← List.prefix_iff_eq_take.mp inside] at copied
  exact ⟨numbered, copied⟩

/-- Nothing but NULs is cut off a user id that does not begin with `FP`, or has only NULs from
its first NUL on. -/
theorem trimEnd_keptUserId_iff :
    trimEnd 0 userId = trimEnd 0 (keptUserId userId) ↔
      ¬ libfprintPrefix <+: userId ∨ ∀ b ∈ userId.dropWhile fun b => b ≠ 0, b = 0 := by
  unfold keptUserId
  by_cases named : libfprintPrefix <+: userId
  · rw [if_pos named, trimEnd_takeWhile_iff]
    constructor
    · exact .inr
    · exact fun either => either.resolve_left (not_not_intro named)
  · rw [if_neg named]
    exact iff_of_true rfl (.inl named)

end Created

/-- **The two deletes.** The frame that deletes a finger by the reply and the frame that
deletes the print made of the reply are the same exactly when the user id in the reply does not
begin with `FP` or has only NULs from its first NUL on. -/
theorem created_deletes_alike_iff (printNew : UInt8 → UInt64 → List UInt8 → PrintData)
    (stores : StoresUserId printNew) (dev : DevType) (response : GBytes) (slot : UInt8)
    (bufferOut : List UInt8) (prepared : Prepared bufferOut) :
    ∃ print frame other, createPrint printNew dev slot response = .ok print ∧
      enrollAttemptDelete dev slot (some response) (some bufferOut) = .ok (some frame) ∧
      deletePrintFrame print (some bufferOut) = .ok (some other) ∧
      (frame = other ↔ ¬ libfprintPrefix <+: response.userId dev ∨
        ∀ b ∈ (response.userId dev).dropWhile fun b => b ≠ 0, b = 0) := by
  obtain ⟨print, created, numbered, kept⟩ :
      ∃ print, createPrint printNew dev slot response = .ok print ∧
        print.fingerId = slot ∧ print.userId = keptUserId (response.userId dev) :=
    createPrint_eq stores
  have fits : (response.userId dev).length ≤ 68 :=
    Nat.le_trans GBytes.length_userId_le (by decide)
  have fits' : print.userId.length ≤ 68 := by
    rw [kept]
    exact Nat.le_trans (prefix_keptUserId _).length_le fits
  refine ⟨print, _, _, created, enrollAttemptDelete_eq prepared.length,
    deletePrintFrame_eq prepared.length, ?_⟩
  rw [List.take_of_length_le fits', deleteFrame_eq_iff prepared fits fits', numbered, kept,
    trimEnd_keptUserId_iff]
  exact and_iff_right rfl

/-- A print as the assumption describes it. -/
def storedPrint (fingerId : UInt8) (len : UInt64) (userId : List UInt8) : PrintData where
  fingerId := fingerId
  userId := userId.take len.toNat
  addressable := by
    rw [List.length_take]
    exact Nat.lt_of_le_of_lt (Nat.min_le_left _ _) len.toNat_lt_size

theorem storesUserId_storedPrint : StoresUserId storedPrint := fun _ _ _ _ => ⟨rfl, rfl⟩

/-- A reply with the user id `FP1` and NULs. -/
def namedReply : GBytes := ⟨some [0x40, 0, 0x46, 0x50, 0x31, 0, 0], by decide⟩

theorem created_deletes_alike_namedReply :
    ∃ print frame other, createPrint storedPrint .allDev 2 namedReply = .ok print ∧
      enrollAttemptDelete .allDev 2 (some namedReply) (some deleteRequest) = .ok (some frame) ∧
      deletePrintFrame print (some deleteRequest) = .ok (some other) ∧ frame = other := by
  obtain ⟨print, frame, other, created, sent, sent', same_iff⟩ :=
    created_deletes_alike_iff storedPrint storesUserId_storedPrint .allDev namedReply 2
      deleteRequest prepared_deleteRequest
  have blanks : ∀ b ∈ (namedReply.userId .allDev).dropWhile fun b => b ≠ 0, b = 0 := by
    intro b member
    change b ∈ List.replicate 2 0 at member
    exact List.eq_of_mem_replicate member
  exact ⟨print, frame, other, created, sent, sent', same_iff.mpr (.inr blanks)⟩

/-- A reply with a byte after the first NUL of a user id that begins with `FP`. -/
def splitReply : GBytes := ⟨some [0x40, 0, 0x46, 0x50, 0, 0x31], by decide⟩

/-- The enroll path deletes with that byte, the delete of the print without it. -/
theorem splitReply_deletes_differ :
    ∃ print frame other, createPrint storedPrint .allDev 2 splitReply = .ok print ∧
      enrollAttemptDelete .allDev 2 (some splitReply) (some deleteRequest) = .ok (some frame) ∧
      deletePrintFrame print (some deleteRequest) = .ok (some other) ∧
      frame ≠ other := by
  refine ⟨_, _, _, rfl, enrollAttemptDelete_eq rfl, deletePrintFrame_eq rfl, ?_⟩
  decide

end Elan0c00.Driver
