import Elan0c00.Elanctl

/-! # The text of a user id

A user id is shown as its text or in hexadecimal. The text has as many bytes as the user id,
the hexadecimal form twice as many, and each form determines the bytes it was made of; so
two user ids of one length that are shown alike are the same
(`FingerInfo.userId_eq_of_display`). Neither form has a control character in it
(`FingerInfo.isControl_userIdDisplay`), and a slot line of `info` says which user id it shows
(`slotLine_identifies`).
-/

namespace Elan0c00

theorem hexDigit_inj : ∀ m < 16, ∀ n < 16, hexDigit m = hexDigit n → m = n := by
  decide

theorem hexDigit_utf8Size : ∀ n < 16, (hexDigit n).utf8Size = 1 := by
  decide

theorem isControl_hexDigit : ∀ n < 16, isControl (hexDigit n) = false := by
  decide

theorem isControl_hexByte {b : UInt8} {c : Char} (digit : c ∈ hexByte b) : isControl c = false := by
  have bounded := b.toNat_lt
  rcases List.mem_cons.mp digit with rfl | rest
  · exact isControl_hexDigit _ (by omega)
  · rw [List.mem_singleton.mp rest]
    exact isControl_hexDigit _ (by omega)

theorem hexByte_inj {b c : UInt8} (same : hexByte b = hexByte c) : b = c := by
  obtain ⟨high, rest⟩ := List.cons.inj same
  have low := (List.cons.inj rest).1
  have bounded := b.toNat_lt
  have bounded' := c.toNat_lt
  have highs : b.toNat / 16 = c.toNat / 16 := hexDigit_inj _ (by omega) _ (by omega) high
  have lows : b.toNat % 16 = c.toNat % 16 := hexDigit_inj _ (by omega) _ (by omega) low
  apply UInt8.toNat_inj.mp
  omega

/-- The hexadecimal form determines the bytes. -/
theorem flatMap_hexByte_inj {first second : List UInt8}
    (same : first.flatMap hexByte = second.flatMap hexByte) : first = second := by
  induction first generalizing second with
  | nil =>
      cases second with
      | nil => rfl
      | cons c second => exact nomatch same
  | cons b first ih =>
      cases second with
      | nil => exact nomatch same
      | cons c second =>
          obtain ⟨heads, tails⟩ := List.append_inj same rfl
          rw [hexByte_inj heads, ih tails]

/-- The hexadecimal form of a user id has two bytes for each of its bytes. -/
theorem size_ofList_hex (bytes : List UInt8) :
    (String.ofList (bytes.flatMap hexByte)).toByteArray.size = 2 * bytes.length := by
  rw [String.toByteArray_ofList, List.utf8Encode, List.size_toByteArray]
  induction bytes with
  | nil => rfl
  | cons b bytes ih =>
      have bounded := b.toNat_lt
      have high := hexDigit_utf8Size (b.toNat / 16) (by omega)
      have low := hexDigit_utf8Size (b.toNat % 16) (by omega)
      rw [List.flatMap_cons, List.flatMap_append, List.length_append, ih]
      simp [hexByte, high, low]
      omega

namespace FingerInfo

/-- Text is its own bytes, everything else is hexadecimal. -/
theorem userIdDisplay_cases (info : FingerInfo) :
    info.userIdDisplay.toByteArray = ⟨info.userId.toArray⟩ ∨
      info.userIdDisplay = String.ofList (info.userId.flatMap hexByte) := by
  unfold userIdDisplay
  cases decoded : String.fromUTF8? ⟨info.userId.toArray⟩ with
  | none => exact .inr rfl
  | some s =>
      have bytes : s.toByteArray = ⟨info.userId.toArray⟩ := by
        unfold String.fromUTF8? at decoded
        split at decoded
        · obtain rfl := Option.some.inj decoded
          rfl
        · exact nomatch decoded
      simp only
      split
      · exact .inl bytes
      · exact .inr rfl

/-- **Displays.** User ids of one length that are shown alike are the same. -/
theorem userId_eq_of_display {info other : FingerInfo}
    (same : info.userIdDisplay = other.userIdDisplay)
    (lengths : info.userId.length = other.userId.length) : info.userId = other.userId := by
  have sizes : ∀ first second : FingerInfo,
      first.userIdDisplay.toByteArray = ⟨first.userId.toArray⟩ →
        second.userIdDisplay = String.ofList (second.userId.flatMap hexByte) →
          first.userIdDisplay = second.userIdDisplay →
            first.userId.length = second.userId.length → first.userId = second.userId := by
    intro first second text hex alike long
    have size : first.userId.length = 2 * second.userId.length := by
      rw [← size_ofList_hex, ← hex, ← alike, text]
      rfl
    have empty : second.userId.length = 0 := by omega
    rw [List.length_eq_zero_iff.mp empty, List.length_eq_zero_iff.mp (long.trans empty)]
  rcases info.userIdDisplay_cases with text | hex
  · rcases other.userIdDisplay_cases with text' | hex'
    · rw [same, text'] at text
      exact congrArg (fun bytes => bytes.data.toList) text.symm
    · exact sizes info other text hex' same lengths
  · rcases other.userIdDisplay_cases with text' | hex'
    · exact (sizes other info text' hex same.symm lengths.symm).symm
    · rw [hex, hex'] at same
      exact flatMap_hexByte_inj (String.ofList_injective same)

/-- Text is shown only without control characters, and hexadecimal digits are none. -/
theorem isControl_userIdDisplay (info : FingerInfo) {c : Char}
    (shown : c ∈ info.userIdDisplay.toList) : isControl c = false := by
  have hex : c ∈ (String.ofList (info.userId.flatMap hexByte)).toList → isControl c = false := by
    intro digit
    rw [String.toList_ofList] at digit
    obtain ⟨b, -, inside⟩ := List.mem_flatMap.mp digit
    exact isControl_hexByte inside
  unfold userIdDisplay at shown
  split at shown
  · split at shown
    · have printable := List.all_eq_true.mp ‹_› c shown
      rw [Bool.not_eq_true'] at printable
      exact printable
    · exact hex shown
  · exact hex shown

end FingerInfo

/-- **Slot lines.** User ids of one length that are shown alike are the same, so that slot
lines that are alike show one slot with one user id; and no user id puts a control character
into its line. -/
theorem slotLine_identifies :
    (∀ info other : FingerInfo, info.userIdDisplay = other.userIdDisplay →
      info.userId.length = other.userId.length → info.userId = other.userId) ∧
    (∀ (i j : UInt8) (info other : FingerInfo),
      Elanctl.slotLine i (.ok info) = Elanctl.slotLine j (.ok other) →
        i = j ∧ info.userId = other.userId) ∧
    ∀ (info : FingerInfo) (c : Char), c ∈ info.userIdDisplay.toList → isControl c = false := by
  refine ⟨fun _ _ => FingerInfo.userId_eq_of_display, ?_,
    fun info _ => info.isControl_userIdDisplay⟩
  intro i j info other same
  obtain ⟨slots, shown, lengths⟩ := Line.slot.inj same
  exact ⟨slots, FingerInfo.userId_eq_of_display shown lengths⟩

/-- The text `0102` and the bytes 01 and 02 are shown alike; their lengths tell them
apart. -/
example : (FingerInfo.userIdDisplay ⟨0, [0x30, 0x31, 0x30, 0x32]⟩).toList =
    (String.ofList ([0x01, 0x02].flatMap hexByte)).toList := by decide

end Elan0c00
