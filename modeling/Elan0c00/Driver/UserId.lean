import Elan0c00.Bytes.Access

/-! # The user id in the C driver

The helper that takes the user id out of a `finger_info` reply, and the enroll state that
deletes a finger by it, over buffers whose accesses are checked. The patched helper returns
the bytes after the header and a NUL (`Driver.getUserIdString_eq`), and the delete copies no
more than both buffers hold (`Driver.enrollAttemptDelete_eq`), whatever the sensor sent
(`Driver.enrollAttemptDelete_safe`). The helper as it was computed the same length where the
reply holds the header, copied out of bounds where it does not, and wrote its NUL out of
bounds in any case (`Driver.getUserIdStringUnpatched_faults`).
-/

namespace Elan0c00.Driver

open Bytes

/-- A reply as the driver holds it. Its data may be NULL, and its size is a `gsize`. -/
structure GBytes where
  data : Option (List UInt8)
  addressable : (data.getD []).length < UInt64.size

namespace GBytes

def contents (response : GBytes) : List UInt8 := response.data.getD []

/-- `g_bytes_get_size`. -/
def size (response : GBytes) : UInt64 := UInt64.ofNat response.contents.length

theorem contents_of_data {response : GBytes} {reply : List UInt8}
    (holds : response.data = some reply) : response.contents = reply := by
  unfold contents
  rw [holds]
  rfl

theorem toNat_size (response : GBytes) : response.size.toNat = response.contents.length :=
  UInt64.toNat_ofNat_of_lt' response.addressable

end GBytes

inductive DevType where
  | allDev
  | dev0C5E
  deriving DecidableEq, Repr

/-- The length of the header of a `finger_info` reply. -/
def DevType.offset : DevType → UInt64
  | .allDev => 2
  | .dev0C5E => 3

/-- `elanmoc2_get_user_id_max_length`. -/
def DevType.userIdMaxLength : DevType → UInt64
  | .allDev => 64 - 2
  | .dev0C5E => 64 - 3

/-- The macro `MIN` on two `gsize`. -/
def gMin (a b : UInt64) : UInt64 := if a < b then a else b

/-- The length of the user id in a reply, compared before it is subtracted. -/
def maxLen (dev : DevType) (response : GBytes) : UInt64 :=
  if response.data.isSome ∧ response.size > dev.offset then
    gMin dev.userIdMaxLength (response.size - dev.offset)
  else 0

/-- `elanmoc2_get_user_id_string` with its `out_len`. -/
def getUserIdString (dev : DevType) (response : GBytes) : Except Fault (List UInt8 × UInt64) := do
  let outLen := maxLen dev response
  let userId := List.replicate (outLen + 1).toNat 0
  if outLen > 0 then do
    let userId ← memcpy userId 0 response.data dev.offset.toNat outLen.toNat
    return (userId, outLen)
  else return (userId, outLen)

/-- `cmd_delete.out_len`. -/
def deleteOutLen : UInt64 := 72

/-- The number of bytes of a user id that go into the frame of a delete. -/
def userIdBytes (userIdLen : UInt64) : UInt64 := gMin (deleteOutLen - 4) userIdLen

/-- Write the number of a finger and its user id into the frame of a delete. -/
def fillDelete (bufferOut : List UInt8) (fingerId : UInt8) (userId : List UInt8)
    (userIdLen : UInt64) : Except Fault (List UInt8) := do
  let copied := userIdBytes userIdLen
  require (bufferOut.length ≥ (4 + copied).toNat)
  let bufferOut ← write bufferOut 3 (0xf0 ||| (fingerId + 5))
  if copied > 0 then memcpy bufferOut 4 (some userId) 0 copied.toNat else return bufferOut

/-- The state `ENROLL_ATTEMPT_DELETE`: the frame it sends, or `none` where it goes on to the
next state because there was no buffer to be had. -/
def enrollAttemptDelete (dev : DevType) (printIndex : UInt8) (bufferIn : Option GBytes)
    (prepared : Option (List UInt8)) : Except Fault (Option (List UInt8)) := do
  match bufferIn with
  | none => .error .assertion
  | some response => do
      let (userId, userIdLen) ← getUserIdString dev response
      match prepared with
      | none => return none
      | some bufferOut => do
          let frame ← fillDelete bufferOut printIndex userId userIdLen
          return some frame

/-- The length as it was: the subtraction may wrap. -/
def maxLenUnpatched (dev : DevType) (response : GBytes) : UInt32 :=
  (gMin dev.userIdMaxLength (response.size - dev.offset)).toUInt32

/-- The helper as it was, as far as its `memcpy`. -/
def copyUnpatched (dev : DevType) (response : GBytes) : Except Fault (List UInt8) :=
  let maxLen := (maxLenUnpatched dev response).toNat
  memcpy (List.replicate maxLen 0) 0 response.data dev.offset.toNat maxLen

/-- `elanmoc2_get_user_id_string` as it was. An array of no bytes stands for one that was
never allocated. -/
def getUserIdStringUnpatched (dev : DevType) (response : GBytes) : Except Fault (List UInt8) := do
  let userId ← copyUnpatched dev response
  write userId (maxLenUnpatched dev response).toNat 0

theorem toNat_gMin (a b : UInt64) : (gMin a b).toNat = min a.toNat b.toNat := by
  unfold gMin
  by_cases below : a < b
  · rw [if_pos below]
    exact (Nat.min_eq_left (Nat.le_of_lt (UInt64.lt_iff_toNat_lt.mp below))).symm
  · rw [if_neg below]
    exact (Nat.min_eq_right (Nat.le_of_not_lt fun less =>
      below (UInt64.lt_iff_toNat_lt.mpr less))).symm

theorem gt_zero_iff (a : UInt64) : a > 0 ↔ 0 < a.toNat := UInt64.lt_iff_toNat_lt

variable {dev : DevType} {response : GBytes}

namespace GBytes

/-- The user id in a reply: what follows the header, as far as it goes. -/
def userId (dev : DevType) (response : GBytes) : List UInt8 :=
  (response.contents.drop dev.offset.toNat).take dev.userIdMaxLength.toNat

theorem length_userId : (response.userId dev).length =
    min dev.userIdMaxLength.toNat (response.contents.length - dev.offset.toNat) := by
  unfold userId
  rw [List.length_take, List.length_drop]

theorem length_userId_le : (response.userId dev).length ≤ 62 := by
  rw [length_userId]
  cases dev with
  | allDev => exact Nat.min_le_left ..
  | dev0C5E => exact Nat.le_trans (Nat.min_le_left ..) (by decide)

theorem toNat_length_userId :
    (UInt64.ofNat (response.userId dev).length).toNat = (response.userId dev).length :=
  UInt64.toNat_ofNat_of_lt' (Nat.lt_of_le_of_lt length_userId_le (by decide))

/-- The user id is as much of what follows the header as its own length says. -/
theorem take_userId (response : GBytes) :
    (response.contents.drop dev.offset.toNat).take (response.userId dev).length =
      response.userId dev := by
  rw [length_userId, ← List.length_drop, ← List.take_eq_take_min]
  rfl

/-- A reply longer than a header has data. -/
theorem exists_data {position : Nat} (inside : position < response.contents.length) :
    response.data = some response.contents := by
  unfold contents at inside ⊢
  cases data : response.data with
  | some bytes => rfl
  | none =>
      rw [data] at inside
      exact absurd inside (Nat.not_lt_zero _)

end GBytes

/-- Subtracting the header from a reply that holds it does not wrap. -/
theorem toNat_size_sub (whole : dev.offset.toNat ≤ response.contents.length) :
    (response.size - dev.offset).toNat = response.contents.length - dev.offset.toNat := by
  have ordered : dev.offset ≤ response.size := by
    rw [UInt64.le_iff_toNat_le, response.toNat_size]
    exact whole
  rw [UInt64.toNat_sub_of_le _ _ ordered, response.toNat_size]

/-- Subtracting the header from a shorter reply wraps beyond every length in use. -/
theorem userIdMaxLength_le_size_sub (short : response.contents.length < dev.offset.toNat) :
    dev.userIdMaxLength.toNat ≤ (response.size - dev.offset).toNat := by
  rw [UInt64.toNat_sub, response.toNat_size]
  cases dev with
  | allDev =>
      change response.contents.length < 2 at short
      change 62 ≤ (2 ^ 64 - 2 + response.contents.length) % 2 ^ 64
      omega
  | dev0C5E =>
      change response.contents.length < 3 at short
      change 61 ≤ (2 ^ 64 - 3 + response.contents.length) % 2 ^ 64
      omega

/-- The patched length is that of the user id. -/
theorem toNat_maxLen : (maxLen dev response).toNat = (response.userId dev).length := by
  rw [GBytes.length_userId]
  unfold maxLen
  by_cases longer : dev.offset.toNat < response.contents.length
  · have guard : response.data.isSome ∧ response.size > dev.offset := by
      refine ⟨?_, ?_⟩
      · rw [GBytes.exists_data longer]
        rfl
      · rw [gt_iff_lt, UInt64.lt_iff_toNat_lt, response.toNat_size]
        exact longer
    rw [if_pos guard, toNat_gMin, toNat_size_sub (Nat.le_of_lt longer)]
  · have unguarded : ¬ (response.data.isSome ∧ response.size > dev.offset) := by
      rintro ⟨-, larger⟩
      rw [gt_iff_lt, UInt64.lt_iff_toNat_lt, response.toNat_size] at larger
      exact longer larger
    have empty : response.contents.length - dev.offset.toNat = 0 := by omega
    rw [if_neg unguarded, empty, Nat.min_zero]
    rfl

/-- **The patched helper** returns the user id of the reply and a NUL, and its length. -/
theorem getUserIdString_eq : getUserIdString dev response =
    .ok (response.userId dev ++ [0], UInt64.ofNat (response.userId dev).length) := by
  have length : maxLen dev response = UInt64.ofNat (response.userId dev).length := by
    rw [← toNat_maxLen, UInt64.ofNat_toNat]
  have bounded := @GBytes.length_userId_le dev response
  have succ : (maxLen dev response + 1).toNat = (response.userId dev).length + 1 := by
    rw [UInt64.toNat_add, toNat_maxLen]
    change ((response.userId dev).length + 1) % 2 ^ 64 = _
    omega
  unfold getUserIdString
  simp only [succ]
  by_cases empty : response.userId dev = []
  · have zero : ¬ maxLen dev response > 0 := by
      rw [gt_zero_iff, toNat_maxLen, empty]
      exact Nat.lt_irrefl 0
    rw [if_neg zero, length, empty]
    rfl
  · have positive : 0 < (response.userId dev).length := List.length_pos_iff.mpr empty
    have copied : maxLen dev response > 0 := by
      rw [gt_zero_iff, toNat_maxLen]
      exact positive
    have readable : dev.offset.toNat + (response.userId dev).length ≤ response.contents.length := by
      rw [GBytes.length_userId] at positive ⊢
      omega
    have data := GBytes.exists_data (Nat.lt_of_lt_of_le (Nat.lt_add_of_pos_right positive) readable)
    rw [if_pos copied, data, toNat_maxLen, memcpy_replicate readable 1 0, response.take_userId,
      length]
    rfl

theorem toNat_userIdBytes (userIdLen : UInt64) :
    (userIdBytes userIdLen).toNat = min 68 userIdLen.toNat := by
  unfold userIdBytes
  rw [toNat_gMin]
  rfl

/-- A frame of the command's length has room for the bytes that are copied. -/
theorem toNat_room_le {bufferOut : List UInt8} (prepared : bufferOut.length = deleteOutLen.toNat)
    (userIdLen : UInt64) : (4 + userIdBytes userIdLen).toNat ≤ bufferOut.length := by
  have copied := toNat_userIdBytes userIdLen
  rw [prepared, UInt64.toNat_add, copied]
  change (4 + min 68 userIdLen.toNat) % 2 ^ 64 ≤ 72
  omega

/-- The prepared frame with the number of a finger and a user id written over it. -/
def deleteFrame (bufferOut : List UInt8) (fingerId : UInt8) (userId : List UInt8) : List UInt8 :=
  bufferOut.take 3 ++ (0xf0 ||| (fingerId + 5)) :: (userId ++ bufferOut.drop (4 + userId.length))

/-- A prepared frame is filled with as much of a user id as fits. -/
theorem fillDelete_eq {bufferOut userId : List UInt8} {fingerId : UInt8} {userIdLen : UInt64}
    (prepared : bufferOut.length = deleteOutLen.toNat)
    (readable : min 68 userIdLen.toNat ≤ userId.length) :
    fillDelete bufferOut fingerId userId userIdLen =
      .ok (deleteFrame bufferOut fingerId (userId.take (min 68 userIdLen.toNat))) := by
  have long : bufferOut.length = 72 := prepared
  have copied := toNat_userIdBytes userIdLen
  have asserted : bufferOut.length ≥ (4 + userIdBytes userIdLen).toNat :=
    toNat_room_le prepared userIdLen
  have front : (bufferOut.take 3 ++ [0xf0 ||| (fingerId + 5)]).length = 4 := by
    rw [List.length_append, List.length_take, List.length_singleton]
    omega
  have numbered : bufferOut.set 3 (0xf0 ||| (fingerId + 5)) =
      (bufferOut.take 3 ++ [0xf0 ||| (fingerId + 5)]) ++ bufferOut.drop 4 := by
    rw [List.set_eq_take_append_cons_drop, if_pos (by omega), List.append_assoc]
    rfl
  unfold fillDelete
  simp only [require_eq_ok asserted, write_eq_ok (by omega : 3 < bufferOut.length), numbered]
  change (if userIdBytes userIdLen > 0 then memcpy _ 4 (some userId) 0 _ else .ok _) = _
  by_cases empty : min 68 userIdLen.toNat = 0
  · have zero : ¬ userIdBytes userIdLen > 0 := by
      rw [gt_zero_iff, copied, empty]
      exact Nat.lt_irrefl 0
    rw [if_neg zero, empty, List.take_zero, deleteFrame, List.append_assoc]
    rfl
  · have positive : userIdBytes userIdLen > 0 := by
      rw [gt_zero_iff, copied]
      exact Nat.pos_of_ne_zero empty
    have size : (userId.take (min 68 userIdLen.toNat)).length = min 68 userIdLen.toNat := by
      rw [List.length_take]
      exact Nat.min_eq_left readable
    rw [if_pos positive, copied, memcpy_eq_ok (by omega), List.drop_zero, deleteFrame, size,
      List.take_left' front, ← List.drop_drop, List.drop_left' front, List.drop_drop]
    · simp only [List.append_assoc, List.cons_append, List.nil_append]
    · rw [List.length_append, front, List.length_drop]
      omega

/-- A user id that fits is copied whole, and nothing of what follows it. -/
theorem fillDelete_of_le {bufferOut userId : List UInt8} {fingerId : UInt8}
    (prepared : bufferOut.length = deleteOutLen.toNat) (fits : userId.length ≤ 68)
    (rest : List UInt8) :
    fillDelete bufferOut fingerId (userId ++ rest) (UInt64.ofNat userId.length) =
      .ok (deleteFrame bufferOut fingerId userId) := by
  have length : (UInt64.ofNat userId.length).toNat = userId.length :=
    UInt64.toNat_ofNat_of_lt' (Nat.lt_of_le_of_lt fits (by decide))
  have whole : min 68 userId.length = userId.length := Nat.min_eq_right fits
  have filled := @fillDelete_eq bufferOut (userId ++ rest) fingerId
    (UInt64.ofNat userId.length) prepared
    (by rw [length, whole, List.length_append]; exact Nat.le_add_right _ _)
  rw [length, whole, List.take_left] at filled
  exact filled

/-- **The state** sends the frame of the finger and the user id in the reply. -/
theorem enrollAttemptDelete_eq {printIndex : UInt8} {bufferOut : List UInt8}
    (prepared : bufferOut.length = deleteOutLen.toNat) :
    enrollAttemptDelete dev printIndex (some response) (some bufferOut) =
      .ok (some (deleteFrame bufferOut printIndex (response.userId dev))) := by
  have fits : (response.userId dev).length ≤ 68 :=
    Nat.le_trans GBytes.length_userId_le (by decide)
  unfold enrollAttemptDelete
  simp only [getUserIdString_eq]
  change (fillDelete _ _ _ _ >>= fun frame => pure (some frame)) = _
  rw [fillDelete_of_le prepared fits]
  rfl

/-! ### The helper as it was -/

theorem toNat_maxLenUnpatched : (maxLenUnpatched dev response).toNat =
    min dev.userIdMaxLength.toNat (response.size - dev.offset).toNat := by
  have small : dev.userIdMaxLength.toNat < 2 ^ 32 := by
    cases dev with
    | allDev => decide
    | dev0C5E => decide
  unfold maxLenUnpatched
  rw [UInt64.toNat_toUInt32, toNat_gMin]
  exact Nat.mod_eq_of_lt (Nat.lt_of_le_of_lt (Nat.min_le_left ..) small)

/-- Where the reply holds the header the two lengths agree. -/
theorem toNat_maxLenUnpatched_of_whole (whole : dev.offset.toNat ≤ response.contents.length) :
    (maxLenUnpatched dev response).toNat = (response.userId dev).length := by
  rw [toNat_maxLenUnpatched, toNat_size_sub whole, GBytes.length_userId]

theorem offset_pos (dev : DevType) : 0 < dev.offset.toNat := by
  cases dev with
  | allDev => decide
  | dev0C5E => decide

theorem copyUnpatched_of_whole (whole : dev.offset.toNat ≤ response.contents.length) :
    copyUnpatched dev response = .ok (response.userId dev) := by
  have data := GBytes.exists_data (Nat.lt_of_lt_of_le (offset_pos dev) whole)
  have readable : dev.offset.toNat + (response.userId dev).length ≤ response.contents.length := by
    rw [GBytes.length_userId]
    omega
  have copy := memcpy_replicate readable 0 (0 : UInt8)
  rw [response.take_userId, Nat.add_zero, List.replicate_zero, List.append_nil] at copy
  unfold copyUnpatched
  rw [toNat_maxLenUnpatched_of_whole whole, data]
  exact copy

/-- The copy leaves the reply exactly where that is shorter than the header. -/
theorem copyUnpatched_fails_iff :
    (∃ fault, copyUnpatched dev response = .error fault) ↔
      response.contents.length < dev.offset.toNat := by
  constructor
  · rintro ⟨fault, failed⟩
    by_contra long
    rw [copyUnpatched_of_whole (Nat.le_of_not_lt long)] at failed
    exact nomatch failed
  · intro short
    have length : (maxLenUnpatched dev response).toNat = dev.userIdMaxLength.toNat := by
      rw [toNat_maxLenUnpatched]
      exact Nat.min_eq_left (userIdMaxLength_le_size_sub short)
    unfold copyUnpatched
    apply memcpy_fails
    exact Nat.lt_of_lt_of_le short (Nat.le_add_right ..)

/-- It never returned inside its buffers: without a fault in the copy, the NUL is out of
bounds. -/
theorem getUserIdStringUnpatched_faults (dev : DevType) (response : GBytes) :
    ∃ fault, getUserIdStringUnpatched dev response = .error fault := by
  unfold getUserIdStringUnpatched
  by_cases short : response.contents.length < dev.offset.toNat
  · obtain ⟨fault, failed⟩ := copyUnpatched_fails_iff.mpr short
    rw [failed]
    exact ⟨fault, rfl⟩
  · have whole := Nat.le_of_not_lt short
    rw [copyUnpatched_of_whole whole, toNat_maxLenUnpatched_of_whole whole]
    exact ⟨_, write_eq_error (Nat.le_refl _) 0⟩

/-! ### Every reply -/

/-- A C string holds the user id of a reply: the bytes after the header, at most as many as
the device type allows, and a NUL. -/
structure HoldsUserId (dev : DevType) (response : GBytes) (userId : List UInt8)
    (outLen : UInt64) : Prop where
  size : userId.length = outLen.toNat + 1
  terminated : userId[outLen.toNat]? = some 0
  length : outLen.toNat = if response.contents.length > dev.offset.toNat then
    min dev.userIdMaxLength.toNat (response.contents.length - dev.offset.toNat) else 0
  copied : userId.take outLen.toNat =
    (response.contents.drop dev.offset.toNat).take outLen.toNat

theorem holdsUserId : HoldsUserId dev response (response.userId dev ++ [0])
    (UInt64.ofNat (response.userId dev).length) := by
  have length := @GBytes.toNat_length_userId dev response
  refine ⟨?_, ?_, ?_, ?_⟩
  · rw [length, List.length_append, List.length_singleton]
  · rw [length, List.getElem?_concat_length]
  · rw [length, GBytes.length_userId]
    by_cases longer : response.contents.length > dev.offset.toNat
    · rw [if_pos longer]
    · rw [if_neg longer]
      omega
  · rw [length, List.take_left, response.take_userId]

/-- **Every reply is safe.** For a reply of any length and a prepared frame of the command's
length, no access of the patched helper or of the state leaves its buffer; the helper returns
the user id, and the state sends as much of it as fits. The length as it was computed is the
same where the reply holds the header, and the copy was out of bounds just where it does
not. -/
theorem enrollAttemptDelete_safe (dev : DevType) (response : GBytes) (printIndex : UInt8)
    (bufferOut : List UInt8) (prepared : bufferOut.length = deleteOutLen.toNat) :
    (∃ userId outLen, getUserIdString dev response = .ok (userId, outLen) ∧
      HoldsUserId dev response userId outLen ∧
      (userIdBytes outLen).toNat = min 68 outLen.toNat ∧
      bufferOut.length ≥ (4 + userIdBytes outLen).toNat ∧
      enrollAttemptDelete dev printIndex (some response) (some bufferOut) =
        .ok (some (deleteFrame bufferOut printIndex (userId.take (userIdBytes outLen).toNat))) ∧
      enrollAttemptDelete dev printIndex (some response) none = .ok none ∧
      (response.contents.length ≥ dev.offset.toNat →
        (maxLenUnpatched dev response).toNat = outLen.toNat)) ∧
    ((∃ fault, copyUnpatched dev response = .error fault) ↔
      response.contents.length < dev.offset.toNat) := by
  have length := @GBytes.toNat_length_userId dev response
  have copied := toNat_userIdBytes (UInt64.ofNat (response.userId dev).length)
  have fits : (userIdBytes (UInt64.ofNat (response.userId dev).length)).toNat =
      (response.userId dev).length := by
    have bounded := @GBytes.length_userId_le dev response
    omega
  refine ⟨⟨_, _, getUserIdString_eq, holdsUserId, copied, ?_, ?_, ?_, ?_⟩, copyUnpatched_fails_iff⟩
  · exact toNat_room_le prepared _
  · rw [fits, List.take_left]
    exact enrollAttemptDelete_eq prepared
  · unfold enrollAttemptDelete
    simp only [getUserIdString_eq]
    rfl
  · intro whole
    rw [length]
    exact toNat_maxLenUnpatched_of_whole whole

/-- A reply of two bytes on a 0c5e, which the header does not fit into. -/
def shortReply : GBytes := ⟨some [0x40, 0xff], by decide⟩

theorem enrollAttemptDelete_safe_shortReply :
    ∃ userId outLen, getUserIdString .dev0C5E shortReply = .ok (userId, outLen) ∧
      HoldsUserId .dev0C5E shortReply userId outLen ∧
      enrollAttemptDelete .dev0C5E 2 (some shortReply) (some (List.replicate 72 0)) =
        .ok (some (deleteFrame (List.replicate 72 0) 2
          (userId.take (userIdBytes outLen).toNat))) ∧
      ∃ fault, copyUnpatched .dev0C5E shortReply = .error fault := by
  obtain ⟨⟨userId, outLen, returned, holds, -, -, sent, -, -⟩, copies⟩ :=
    enrollAttemptDelete_safe .dev0C5E shortReply 2 (List.replicate 72 0) rfl
  exact ⟨userId, outLen, returned, holds, sent, copies.mpr (by decide)⟩

end Elan0c00.Driver
