import Elan0c00.Bytes.Access
import Elan0c00.Bytes.Chunks
import Mathlib.Data.List.Forall2

/-! # The descriptors of an interface

The class-specific bytes of an interface are descriptors one behind the other, each beginning
with its own length and its type. `decodeHidDescriptor` walks over them and reports those of the
HID type. It walks over any bytes without a fault, and of well-formed descriptors and an
unfinished tail it reports exactly the HID ones (`decodeHidDescriptor_concatenated`).
-/

namespace Elan0c00

open Bytes

/-- What is printed of a HID descriptor. The offset it was found at is not printed. -/
structure HidReport where
  offset : Nat
  bcdMajor : UInt8
  bcdMinor : UInt8
  country : UInt8
  numDesc : UInt8
  subordinateType : UInt8
  len : UInt16
  deriving DecidableEq, Repr

/-- `u16::from_le_bytes`. -/
def u16FromLeBytes (low high : UInt8) : UInt16 := high.toUInt16 <<< 8 ||| low.toUInt16

/-- What is printed of `d`. -/
def hidReport (offset : Nat) (d : List UInt8) : Except Fault HidReport := do
  let bcdMajor ← index d 3
  let bcdMinor ← index d 2
  let country ← index d 4
  let numDesc ← index d 5
  let subordinateType ← index d 6
  let low ← index d 7
  let high ← index d 8
  return { offset, bcdMajor, bcdMinor, country, numDesc, subordinateType
           len := u16FromLeBytes low high }

/-- The loop of `decode_hid_descriptor` from the position `i` on. -/
def decodeHidFrom (extra : List UInt8) (i : Nat) : Except Fault (List HidReport) :=
  if _ : i + 2 ≤ extra.length then do
    let len ← index extra i
    let dtype ← index extra (i + 1)
    if _ : len.toNat = 0 ∨ i + len.toNat > extra.length then return []
    else do
      let reported ←
        if dtype = 0x21 ∧ len.toNat ≥ 9 then do
          let d ← slice extra i (i + len.toNat)
          let report ← hidReport i d
          pure [report]
        else pure []
      let rest ← decodeHidFrom extra (i + len.toNat)
      return reported ++ rest
  else return []
termination_by extra.length - i

def decodeHidDescriptor (extra : List UInt8) : Except Fault (List HidReport) :=
  decodeHidFrom extra 0

/-- The length that a buffer begins with, if it has the byte of a length and the one of a type
and the length is `least` at least and not more than there is. -/
def prefixedSize (least : Nat) (buffer : List UInt8) : Option Nat :=
  (buffer.head?.map UInt8.toNat).filter fun n =>
    2 ≤ buffer.length ∧ least ≤ n ∧ n ≤ buffer.length

theorem prefixedSize_eq_some_iff {least n : Nat} {buffer : List UInt8} :
    prefixedSize least buffer = some n ↔
      ∃ first, buffer[0]? = some first ∧ first.toNat = n ∧ 2 ≤ buffer.length ∧ least ≤ n ∧
        n ≤ buffer.length := by
  unfold prefixedSize
  rw [Option.filter_eq_some_iff, Option.map_eq_some_iff, List.head?_eq_getElem?,
    decide_eq_true_iff]
  constructor
  · rintro ⟨⟨first, here, same⟩, bounds⟩
    exact ⟨first, here, same, bounds⟩
  · rintro ⟨first, here, same, bounds⟩
    exact ⟨⟨first, here, same⟩, bounds⟩

/-- Descriptors that begin with their length, from `least` on. -/
def lengthPrefixed (least : Nat) (positive : 0 < least) : Splitter UInt8 where
  size := prefixedSize least
  positive sized := by
    obtain ⟨first, _, _, _, enough, _⟩ := prefixedSize_eq_some_iff.mp sized
    exact Nat.lt_of_lt_of_le positive enough
  inside sized := by
    obtain ⟨first, _, _, _, _, inside⟩ := prefixedSize_eq_some_iff.mp sized
    exact inside

/-- Complete descriptors: their length counts its own byte and the one of the type. -/
abbrev descriptors : Splitter UInt8 := lengthPrefixed 2 Nat.two_pos

/-- What the loop takes for descriptors. -/
abbrev entries : Splitter UInt8 := lengthPrefixed 1 Nat.one_pos

/-! ### The walk -/

/-- The bytes of a descriptor of the HID type that is long enough to be reported. -/
def IsHid (bytes : List UInt8) : Prop := bytes[1]? = some 0x21 ∧ 9 ≤ bytes.length

instance (bytes : List UInt8) : Decidable (IsHid bytes) :=
  inferInstanceAs (Decidable (_ ∧ _))

/-- A report has the fields of a descriptor. -/
structure HidReport.Reads (report : HidReport) (bytes : List UInt8) : Prop where
  bcdMinor : bytes[2]? = some report.bcdMinor
  bcdMajor : bytes[3]? = some report.bcdMajor
  country : bytes[4]? = some report.country
  numDesc : bytes[5]? = some report.numDesc
  subordinateType : bytes[6]? = some report.subordinateType
  len : ∃ low high, bytes[7]? = some low ∧ bytes[8]? = some high ∧
    report.len.toNat = low.toNat + 256 * high.toNat

section Walk

variable {least : Nat} {positive : 0 < least} {extra : List UInt8} {i n : Nat}

/-- A descriptor begins at a position if its length is there, not too small and not more than
is left. -/
theorem lengthPrefixed_drop_iff :
    (lengthPrefixed least positive).size (extra.drop i) = some n ↔
      ∃ first, extra[i]? = some first ∧ first.toNat = n ∧ i + 2 ≤ extra.length ∧ least ≤ n ∧
        i + n ≤ extra.length := by
  refine prefixedSize_eq_some_iff.trans ?_
  simp only [List.getElem?_drop, List.length_drop, Nat.add_zero]
  constructor
  · rintro ⟨first, here, rfl, two, enough, inside⟩
    exact ⟨first, here, rfl, by omega, enough, by omega⟩
  · rintro ⟨first, here, rfl, two, enough, inside⟩
    exact ⟨first, here, rfl, by omega, enough, by omega⟩

theorem isHid_take_iff (inside : i + n ≤ extra.length) :
    IsHid ((extra.drop i).take n) ↔ extra[i + 1]? = some 0x21 ∧ 9 ≤ n := by
  have length : ((extra.drop i).take n).length = n := by
    rw [List.length_take, List.length_drop]
    omega
  have second : 1 < n → ((extra.drop i).take n)[1]? = extra[i + 1]? := by
    intro long
    rw [List.getElem?_take_of_lt long, List.getElem?_drop]
  unfold IsHid
  rw [length]
  constructor
  · rintro ⟨hidType, long⟩
    rw [second (by omega)] at hidType
    exact ⟨hidType, long⟩
  · rintro ⟨hidType, long⟩
    rw [second (by omega)]
    exact ⟨hidType, long⟩

/-- Where no entry begins the loop ends. -/
theorem decodeHidFrom_of_none (stuck : entries.size (extra.drop i) = none) :
    decodeHidFrom extra i = .ok [] := by
  rw [decodeHidFrom]
  split
  next two =>
    have here : extra[i]? = some extra[i] := List.getElem?_eq_getElem _
    have next : extra[i + 1]? = some extra[i + 1] := List.getElem?_eq_getElem _
    rw [index_eq_ok here, index_eq_ok next]
    by_cases stop : extra[i].toNat = 0 ∨ i + extra[i].toNat > extra.length
    · exact dif_pos stop
    · have sized : entries.size (extra.drop i) = some extra[i].toNat :=
        lengthPrefixed_drop_iff.mpr ⟨_, here, rfl, two, by omega, by omega⟩
      exact nomatch stuck.symm.trans sized
  next => rfl

/-- An entry is reported if it is one of the HID type, and the loop goes on behind it. -/
theorem decodeHidFrom_of_some (sized : entries.size (extra.drop i) = some n) :
    decodeHidFrom extra i = (do
      let reported ←
        if IsHid ((extra.drop i).take n) then do
          let report ← hidReport i ((extra.drop i).take n)
          pure [report]
        else pure []
      let rest ← decodeHidFrom extra (i + n)
      return reported ++ rest) := by
  obtain ⟨first, here, rfl, two, enough, inside⟩ := lengthPrefixed_drop_iff.mp sized
  have next : extra[i + 1]? = some extra[i + 1] := List.getElem?_eq_getElem _
  have hid : (extra[i + 1] = 0x21 ∧ first.toNat ≥ 9) ↔
      IsHid ((extra.drop i).take first.toNat) := by
    rw [isHid_take_iff inside, next, Option.some.injEq]
  have stop : ¬ (first.toNat = 0 ∨ i + first.toNat > extra.length) := by
    omega
  have sliced : slice extra i (i + first.toNat) = .ok ((extra.drop i).take first.toNat) := by
    rw [slice_eq_ok (Nat.le_add_right _ _) inside, List.drop_take, Nat.add_sub_cancel_left]
  rw [decodeHidFrom, dif_pos two, index_eq_ok here, index_eq_ok next]
  change (if _ : first.toNat = 0 ∨ i + first.toNat > extra.length then _ else _) = _
  rw [dif_neg stop, if_congr hid rfl rfl, sliced]
  rfl

theorem toNat_u16FromLeBytes (low high : UInt8) :
    (u16FromLeBytes low high).toNat = low.toNat + 256 * high.toNat := by
  have bound := low.toNat_lt
  have bound' := high.toNat_lt
  have shifted : (high.toUInt16 <<< 8).toNat = high.toNat <<< 8 := by
    rw [UInt16.toNat_shiftLeft, UInt8.toNat_toUInt16, Nat.shiftLeft_eq]
    change high.toNat * 2 ^ 8 % 2 ^ 16 = _
    rw [Nat.shiftLeft_eq]
    omega
  unfold u16FromLeBytes
  rw [UInt16.toNat_or, shifted, UInt8.toNat_toUInt16, ← Nat.shiftLeft_add_eq_or_of_lt bound,
    Nat.shiftLeft_eq]
  omega

/-- A descriptor of nine bytes has all the fields. -/
theorem hidReport_eq_ok {d : List UInt8} (long : 9 ≤ d.length) (offset : Nat) :
    ∃ report, hidReport offset d = .ok report ∧ report.offset = offset ∧ report.Reads d := by
  match d, long with
  | _ :: _ :: _ :: _ :: _ :: _ :: _ :: low :: high :: _, _ =>
      exact ⟨_, rfl, rfl, rfl, rfl, rfl, rfl, rfl, low, high, rfl, rfl,
        toNat_u16FromLeBytes low high⟩

/-- **The loop** reports the entries of the HID type, in their order. -/
theorem decodeHidFrom_reports (extra : List UInt8) (i : Nat) :
    ∃ reports, decodeHidFrom extra i = .ok reports ∧
      List.Forall₂ (fun report entry => report.offset = entry.1 ∧ report.Reads entry.2) reports
        ((entries.chunksFrom extra i).filter fun entry => IsHid entry.2) := by
  induction i using Splitter.chunksFrom.induct entries extra with
  | case1 i stuck =>
      rw [Splitter.chunksFrom_of_none stuck]
      exact ⟨[], decodeHidFrom_of_none stuck, .nil⟩
  | case2 i n sized ih =>
      obtain ⟨rest, decoded, reads⟩ := ih
      rw [decodeHidFrom_of_some sized, Splitter.chunksFrom_of_some sized, decoded]
      by_cases hid : IsHid ((extra.drop i).take n)
      · obtain ⟨report, reported, fields⟩ := hidReport_eq_ok hid.2 i
        rw [if_pos hid, reported, List.filter_cons_of_pos (by simpa using hid)]
        exact ⟨report :: rest, rfl, .cons fields reads⟩
      · rw [if_neg hid, List.filter_cons_of_neg (by simpa using hid)]
        exact ⟨rest, rfl, reads⟩

/-- What is reported, in terms of the entries there are: their fields and where they begin. -/
theorem decodeHidDescriptor_reports (extra : List UInt8) :
    ∃ reports, decodeHidDescriptor extra = .ok reports ∧
      List.Forall₂ HidReport.Reads reports
        (((entries.chunksFrom extra 0).map Prod.snd).filter fun bytes => IsHid bytes) ∧
      reports.map HidReport.offset =
        ((entries.chunksFrom extra 0).filter fun entry => IsHid entry.2).map Prod.fst := by
  obtain ⟨reports, decoded, found⟩ := decodeHidFrom_reports extra 0
  refine ⟨reports, decoded, ?_, ?_⟩
  · rw [List.filter_map, List.forall₂_map_right_iff]
    exact found.imp fun _ _ both => both.2
  · rw [← List.forall₂_eq_eq_eq, List.forall₂_map_left_iff, List.forall₂_map_right_iff]
    exact found.imp fun _ _ both => both.1

end Walk

/-! ### Well-formed descriptors -/

/-- A descriptor: its first byte is its length. -/
structure UsbDescriptor where
  bytes : List UInt8
  two_le : 2 ≤ bytes.length
  headed : bytes.head?.map UInt8.toNat = some bytes.length

/-- Bytes that begin with no descriptor: too few, or of length zero, or not all there. -/
def Unfinished (tail : List UInt8) : Prop :=
  tail.length < 2 ∨ tail.head? = some 0 ∨
    ∃ first, tail.head? = some first ∧ tail.length < first.toNat

theorem Unfinished.size_eq_none {tail : List UInt8} (unfinished : Unfinished tail) :
    entries.size tail = none := by
  rw [Option.eq_none_iff_forall_not_mem]
  intro n sized
  obtain ⟨first, here, rfl, two, enough, inside⟩ := prefixedSize_eq_some_iff.mp sized
  rw [← List.head?_eq_getElem?] at here
  rcases unfinished with short | zero | ⟨other, here', long⟩
  · omega
  · cases here.symm.trans zero
    exact absurd enough (by decide)
  · cases here.symm.trans here'
    omega

/-- A descriptor is taken whole, whatever follows it. -/
theorem UsbDescriptor.size_append (descriptor : UsbDescriptor) (rest : List UInt8) :
    entries.size (descriptor.bytes ++ rest) = some descriptor.bytes.length := by
  obtain ⟨first, here, length⟩ := Option.map_eq_some_iff.mp descriptor.headed
  have two := descriptor.two_le
  refine prefixedSize_eq_some_iff.mpr ⟨first, ?_, length, ?_, by omega, ?_⟩
  · rw [List.getElem?_append_left (by omega), ← List.head?_eq_getElem?]
    exact here
  · rw [List.length_append]
    omega
  · rw [List.length_append]
    omega

/-- **HID descriptors.** Of well-formed descriptors and an unfinished tail, the HID descriptors
that are long enough are reported, each once and in order, with their own fields. Any bytes at
all are walked over to the end, without a fault. -/
theorem decodeHidDescriptor_concatenated (written : List UsbDescriptor) (tail : List UInt8)
    (unfinished : Unfinished tail) :
    (∃ reports,
      decodeHidDescriptor ((written.map UsbDescriptor.bytes).flatten ++ tail) = .ok reports ∧
      List.Forall₂ (fun report descriptor => report.Reads descriptor.bytes) reports
        (written.filter fun descriptor => IsHid descriptor.bytes)) ∧
    ∀ extra, ∃ reports, decodeHidDescriptor extra = .ok reports := by
  constructor
  · have whole : ∀ record ∈ written.map UsbDescriptor.bytes, ∀ rest,
        entries.size (record ++ rest) = some record.length := by
      intro record member rest
      obtain ⟨descriptor, _, rfl⟩ := List.mem_map.mp member
      exact descriptor.size_append rest
    have taken : (entries.chunksFrom ((written.map UsbDescriptor.bytes).flatten ++ tail) 0).map
        Prod.snd = written.map UsbDescriptor.bytes :=
      Splitter.chunksFrom_flatten whole unfinished.size_eq_none []
    obtain ⟨reports, decoded, reads, _⟩ := decodeHidDescriptor_reports
      ((written.map UsbDescriptor.bytes).flatten ++ tail)
    rw [taken, List.filter_map, List.forall₂_map_right_iff] at reads
    exact ⟨reports, decoded, reads⟩
  · intro extra
    obtain ⟨reports, decoded, _⟩ := decodeHidDescriptor_reports extra
    exact ⟨reports, decoded⟩

/-- The HID descriptor of the sensor. -/
def sensorHid : UsbDescriptor := ⟨[9, 0x21, 0x10, 1, 0, 1, 0x22, 0x15, 0], by decide, rfl⟩

/-- It is reported behind a descriptor of another type and before a tail that is cut off. -/
theorem decodeHidDescriptor_concatenated_sensor :
    ∃ report, decodeHidDescriptor
        [3, 0x30, 1, 9, 0x21, 0x10, 1, 0, 1, 0x22, 0x15, 0, 9, 0x21, 0x10] = .ok [report] ∧
      report.len.toNat = 21 := by
  obtain ⟨⟨reports, decoded, reads⟩, -⟩ := decodeHidDescriptor_concatenated
    [⟨[3, 0x30, 1], by decide, rfl⟩, sensorHid] [9, 0x21, 0x10] (.inr (.inr ⟨9, rfl, by decide⟩))
  obtain ⟨report, rest, fields, none, rfl⟩ := List.forall₂_cons_right_iff.mp
    (reads : List.Forall₂ (fun report descriptor => HidReport.Reads report descriptor.bytes)
      reports [sensorHid])
  cases none
  obtain ⟨low, high, here, next, len⟩ := fields.len
  cases here
  cases next
  exact ⟨report, decoded, len⟩

end Elan0c00
