import Elan0c00.Bytes.Padding
import Elan0c00.Driver.UserId

/-! # The frame of a delete

Deleting a stored print takes the number of the finger and the user id out of the print and
writes them into a prepared request. `Driver.deletePrintFrame_eq` says which request that is, and
`Driver.deleteFrame_determines` what it tells of the print: the number of the finger up to
multiples of 16, and the first 68 bytes of the user id up to NULs at their end.
-/

namespace Elan0c00.Driver

open Bytes

/-- What a print stores as `(y@ay)`. The length of the user id is a `gsize`. -/
structure PrintData where
  fingerId : UInt8
  userId : List UInt8
  addressable : userId.length < UInt64.size

/-- Data carried through the delete SSM. -/
structure DeleteData where
  fingerId : UInt8
  userId : List UInt8
  userIdLen : UInt64

/-- `ELANMOC2_DELETE_USER_ID_CAP`, the size of the array for the user id. -/
def deleteUserIdCap : UInt64 := 68

/-- The part of `elanmoc2_delete_print` that fills the data of the SSM. -/
def deleteData (print : PrintData) : Except Fault DeleteData := do
  let len := UInt64.ofNat print.userId.length
  let userIdLen := gMin len deleteUserIdCap
  let cleared := List.replicate deleteUserIdCap.toNat 0
  if userIdLen > 0 then do
    let userId ← memcpy cleared 0 (some print.userId) 0 userIdLen.toNat
    return { fingerId := print.fingerId, userId := userId, userIdLen := userIdLen }
  else return { fingerId := print.fingerId, userId := cleared, userIdLen := userIdLen }

/-- The state `DELETE_SEND`: the frame it sends, or `none` where it goes on to the next state
because there was no buffer to be had. The copy is made even if it is of no bytes. -/
def deleteSend (data : DeleteData) (prepared : Option (List UInt8)) :
    Except Fault (Option (List UInt8)) := do
  match prepared with
  | none => return none
  | some bufferOut => do
      let copied := userIdBytes data.userIdLen
      require (bufferOut.length ≥ (4 + copied).toNat)
      let bufferOut ← write bufferOut 3 (0xf0 ||| (data.fingerId + 5))
      let frame ← memcpy bufferOut 4 (some data.userId) 0 copied.toNat
      return some frame

/-- The frame that a delete of a stored print puts on the wire. -/
def deletePrintFrame (print : PrintData) (prepared : Option (List UInt8)) :
    Except Fault (Option (List UInt8)) := do
  let data ← deleteData print
  deleteSend data prepared

/-- A buffer as `elanmoc2_prepare_cmd` prepares it for a delete: of the command's length, and
zero after the four bytes of the header. -/
structure Prepared (bufferOut : List UInt8) : Prop where
  length : bufferOut.length = deleteOutLen.toNat
  blank : bufferOut.drop 4 = List.replicate 68 0

section Frames

variable {print : PrintData} {data : DeleteData} {bufferOut : List UInt8}

/-- The user id is cut to the size of the array and followed by zeros. -/
theorem deleteData_eq : deleteData print = .ok
    { fingerId := print.fingerId
      userId := (print.userId.take 68).rightpad 68 0
      userIdLen := UInt64.ofNat (min print.userId.length 68) } := by
  have len : (UInt64.ofNat print.userId.length).toNat = print.userId.length :=
    UInt64.toNat_ofNat_of_lt' print.addressable
  have clipped : (gMin (UInt64.ofNat print.userId.length) deleteUserIdCap).toNat =
      min print.userId.length 68 := by
    rw [toNat_gMin, len]
    rfl
  have same : gMin (UInt64.ofNat print.userId.length) deleteUserIdCap =
      UInt64.ofNat (min print.userId.length 68) := by
    rw [← clipped, UInt64.ofNat_toNat]
  unfold deleteData
  simp only [gt_zero_iff, clipped]
  by_cases empty : min print.userId.length 68 = 0
  · have none : print.userId = [] := List.length_eq_zero_iff.mp (by omega)
    rw [if_neg (by omega), same, none]
    rfl
  · have readable : 0 + min print.userId.length 68 ≤ print.userId.length := by
      omega
    have total : List.replicate deleteUserIdCap.toNat (0 : UInt8) =
        List.replicate (min print.userId.length 68 + (68 - min print.userId.length 68)) 0 := by
      congr 1
      change 68 = _
      omega
    have padded : (print.userId.drop 0).take (min print.userId.length 68) ++
          List.replicate (68 - min print.userId.length 68) 0 =
        (print.userId.take 68).rightpad 68 0 := by
      unfold List.rightpad
      rw [List.drop_zero, List.length_take, Nat.min_comm, ← List.take_eq_take_min]
    rw [if_pos (Nat.pos_of_ne_zero empty), total, memcpy_replicate readable, padded, same]
    rfl

/-- A copy of no bytes changes nothing. -/
theorem memcpy_zero {destination source : List UInt8} {target : Nat}
    (inside : target ≤ destination.length) :
    memcpy destination target (some source) 0 0 = .ok destination := by
  rw [memcpy_eq_ok (Nat.zero_le _) inside, List.take_zero, List.append_nil, Nat.add_zero,
    List.take_append_drop]

/-- The state writes what the enroll state writes for the same finger and user id. -/
theorem deleteSend_eq_fillDelete (long : 4 ≤ bufferOut.length) :
    deleteSend data (some bufferOut) =
      some <$> fillDelete bufferOut data.fingerId data.userId data.userIdLen := by
  unfold deleteSend fillDelete
  simp only
  cases require (bufferOut.length ≥ (4 + userIdBytes data.userIdLen).toNat) with
  | error fault => rfl
  | ok _ =>
      simp only [write_eq_ok (by omega : 3 < bufferOut.length)]
      change (memcpy _ 4 (some data.userId) 0 _ >>= fun frame => pure (some frame)) =
        some <$> (if userIdBytes data.userIdLen > 0 then memcpy _ 4 (some data.userId) 0 _
          else .ok _)
      by_cases empty : (userIdBytes data.userIdLen).toNat = 0
      · have none : ¬ userIdBytes data.userIdLen > 0 := by
          rw [gt_zero_iff, empty]
          exact Nat.lt_irrefl 0
        rw [if_neg none, empty, memcpy_zero (by rw [List.length_set]; exact long)]
        rfl
      · rw [if_pos ((gt_zero_iff _).mpr (Nat.pos_of_ne_zero empty))]
        rfl

/-- **The delete** sends the frame of the finger and of as much of its user id as the array
holds. -/
theorem deletePrintFrame_eq (prepared : bufferOut.length = deleteOutLen.toNat) :
    deletePrintFrame print (some bufferOut) =
      .ok (some (deleteFrame bufferOut print.fingerId (print.userId.take 68))) := by
  have long : 4 ≤ bufferOut.length := by
    rw [prepared]
    decide
  have stored : (print.userId.take 68).length = min 68 print.userId.length := List.length_take
  have copied : min 68 (UInt64.ofNat (min print.userId.length 68)).toNat =
      (print.userId.take 68).length := by
    rw [stored, UInt64.toNat_ofNat_of_lt' (Nat.lt_of_le_of_lt (Nat.min_le_right _ _) (by decide))]
    omega
  have filled := @fillDelete_eq bufferOut ((print.userId.take 68).rightpad 68 0) print.fingerId
    (UInt64.ofNat (min print.userId.length 68)) prepared (by
      rw [copied]
      unfold List.rightpad
      rw [List.length_append]
      exact Nat.le_add_right _ _)
  have kept : ((print.userId.take 68).rightpad 68 0).take (print.userId.take 68).length =
      print.userId.take 68 := List.take_left
  rw [copied, kept] at filled
  unfold deletePrintFrame
  rw [deleteData_eq]
  change deleteSend _ (some bufferOut) = _
  rw [deleteSend_eq_fillDelete long, filled]
  rfl

/-- In a prepared buffer the user id is followed by zeros. -/
theorem deleteFrame_eq_rightpad (prepared : Prepared bufferOut) (fingerId : UInt8)
    (userId : List UInt8) :
    deleteFrame bufferOut fingerId userId =
      bufferOut.take 3 ++ (0xf0 ||| (fingerId + 5)) :: userId.rightpad 68 0 := by
  unfold deleteFrame List.rightpad
  rw [← List.drop_drop, prepared.blank, List.drop_replicate]

theorem length_deleteFrame (prepared : Prepared bufferOut) {userId : List UInt8}
    (fits : userId.length ≤ 68) (fingerId : UInt8) :
    (deleteFrame bufferOut fingerId userId).length = 72 := by
  have length : bufferOut.length = 72 := prepared.length
  rw [deleteFrame_eq_rightpad prepared, List.length_append, List.length_take,
    List.length_cons, length_rightpad_of_le fits]
  omega

theorem or_f0 : ∀ n < 256, 0xf0 ||| n = 240 + n % 16 := by
  decide +kernel

/-- Of the number of the finger the lower half of the byte is left. -/
theorem slotByte_eq_iff {first second : UInt8} :
    0xf0 ||| (first + 5) = 0xf0 ||| (second + 5) ↔ first.toNat % 16 = second.toNat % 16 := by
  have value : ∀ fingerId : UInt8,
      (0xf0 ||| (fingerId + 5)).toNat = 240 + (fingerId.toNat + 5) % 16 := by
    intro fingerId
    rw [UInt8.toNat_or, UInt8.toNat_add]
    change 0xf0 ||| ((fingerId.toNat + 5) % 256) = _
    rw [or_f0 _ (Nat.mod_lt _ (by decide))]
    omega
  rw [← UInt8.toNat_inj, value, value]
  omega

/-- Two frames are the same when the fingers agree up to multiples of 16 and the user ids up
to NULs at their end. -/
theorem deleteFrame_eq_iff (prepared : Prepared bufferOut) {userId other : List UInt8}
    (fits : userId.length ≤ 68) (fits' : other.length ≤ 68) {first second : UInt8} :
    deleteFrame bufferOut first userId = deleteFrame bufferOut second other ↔
      first.toNat % 16 = second.toNat % 16 ∧ trimEnd 0 userId = trimEnd 0 other := by
  rw [deleteFrame_eq_rightpad prepared, deleteFrame_eq_rightpad prepared,
    List.append_cancel_left_eq, List.cons.injEq, slotByte_eq_iff,
    rightpad_eq_rightpad_iff fits fits']

/-- The user id cut to what the array holds. -/
theorem length_take_cap (userId : List UInt8) : (userId.take 68).length ≤ 68 := by
  rw [List.length_take]
  exact Nat.min_le_left ..

end Frames

/-- **Delete frames.** Two prints are deleted by the same frame exactly when the numbers of
their fingers agree up to multiples of 16 and the first 68 bytes of their user ids up to NULs
at the end. So the frame tells the finger, if the numbers are below 16, and the user id up to
NULs at its end, if it has at most 68 bytes. -/
theorem deleteFrame_determines (bufferOut : List UInt8) (prepared : Prepared bufferOut)
    (first second : PrintData) :
    ∃ frame other, deletePrintFrame first (some bufferOut) = .ok (some frame) ∧
      deletePrintFrame second (some bufferOut) = .ok (some other) ∧
      frame.length = 72 ∧ other.length = 72 ∧
      (frame = other ↔ first.fingerId.toNat % 16 = second.fingerId.toNat % 16 ∧
        trimEnd 0 (first.userId.take 68) = trimEnd 0 (second.userId.take 68)) ∧
      (frame = other → first.fingerId.toNat < 16 → second.fingerId.toNat < 16 →
        first.userId.length ≤ 68 → second.userId.length ≤ 68 →
        first.fingerId = second.fingerId ∧
          trimEnd 0 first.userId = trimEnd 0 second.userId) := by
  have frames_iff := @deleteFrame_eq_iff bufferOut prepared _ _ (length_take_cap first.userId)
    (length_take_cap second.userId) first.fingerId second.fingerId
  refine ⟨_, _, deletePrintFrame_eq prepared.length, deletePrintFrame_eq prepared.length,
    length_deleteFrame prepared (length_take_cap _) _,
    length_deleteFrame prepared (length_take_cap _) _, frames_iff, ?_⟩
  intro same low low' fits fits'
  obtain ⟨fingers, userIds⟩ := frames_iff.mp same
  rw [List.take_of_length_le fits, List.take_of_length_le fits'] at userIds
  rw [Nat.mod_eq_of_lt low, Nat.mod_eq_of_lt low'] at fingers
  exact ⟨UInt8.toNat_inj.mp fingers, userIds⟩

/-- A zeroed buffer with the header of the delete. -/
def deleteRequest : List UInt8 := [0x40, 0xff, 0x13, 0] ++ List.replicate 68 0

theorem prepared_deleteRequest : Prepared deleteRequest := ⟨rfl, rfl⟩

/-- A finger that a user enrolled as the first one, and a print with a number out of range. -/
theorem deleteFrame_determines_collision :
    ∃ frame other,
      deletePrintFrame ⟨0, [0x46, 0x50], by decide⟩ (some deleteRequest) = .ok (some frame) ∧
      deletePrintFrame ⟨16, [0x46, 0x50, 0], by decide⟩ (some deleteRequest) = .ok (some other) ∧
      frame = other := by
  obtain ⟨frame, other, sent, sent', -, -, same_iff, -⟩ := deleteFrame_determines deleteRequest
    prepared_deleteRequest ⟨0, [0x46, 0x50], by decide⟩ ⟨16, [0x46, 0x50, 0], by decide⟩
  exact ⟨frame, other, sent, sent', same_iff.mpr ⟨rfl, by decide⟩⟩

/-- Two prints with one user id, for the fingers 0 and 16, are deleted by one frame, and so are
two prints of one finger whose user ids differ after 68 bytes. -/
theorem deletePrintFrame_collides :
    (∃ frame, deletePrintFrame ⟨0, [0x46, 0x50], by decide⟩ (some deleteRequest) =
        .ok (some frame) ∧
      deletePrintFrame ⟨16, [0x46, 0x50], by decide⟩ (some deleteRequest) = .ok (some frame)) ∧
    (∃ frame, deletePrintFrame ⟨0, List.replicate 69 1, by decide⟩ (some deleteRequest) =
        .ok (some frame) ∧
      deletePrintFrame ⟨0, List.replicate 68 1, by decide⟩ (some deleteRequest) =
        .ok (some frame)) := by
  have prepared := prepared_deleteRequest.length
  constructor
  · exact ⟨_, deletePrintFrame_eq prepared, deletePrintFrame_eq prepared⟩
  · exact ⟨_, deletePrintFrame_eq prepared, deletePrintFrame_eq prepared⟩

end Elan0c00.Driver
