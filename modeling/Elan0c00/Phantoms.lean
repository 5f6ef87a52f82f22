import Elan0c00.Probe

/-! # Malformed descriptors

A length of zero ends the walk of `decodeHidDescriptor`, and so does one that is more than there
is. A length of one does not, though a descriptor has two bytes at least: the walk goes on at
the byte of the type. `noPhantoms_iff` says for which bytes that makes it report something which
is no descriptor.
-/

namespace Elan0c00

open Bytes

/-- A byte that is no length of a complete descriptor. -/
def Malformed (extra : List UInt8) (p : Nat) : Prop :=
  ∃ bLength, extra[p]? = some bLength ∧ (bLength.toNat < 2 ∨ extra.length < p + bLength.toNat)

/-- A complete descriptor of the HID type, long enough to be reported. -/
def HidAt (extra : List UInt8) (p : Nat) : Prop :=
  ∃ bLength, extra[p]? = some bLength ∧ extra[p + 1]? = some 0x21 ∧ 9 ≤ bLength.toNat ∧
    p + bLength.toNat ≤ extra.length

/-- Whatever is reported begins behind complete descriptors only, and before any malformed
one that comes behind complete descriptors. -/
def NoPhantoms (extra : List UInt8) : Prop :=
  ∃ reports, decodeHidDescriptor extra = .ok reports ∧ ∀ report ∈ reports,
    descriptors.Reaches extra 0 report.offset ∧
    ∀ p, descriptors.Reaches extra 0 p → Malformed extra p → report.offset < p

/-- Behind complete descriptors there is a length of one, and from the byte after it on the
lengths lead to something that looks like a HID descriptor. -/
def LedAstray (extra : List UInt8) : Prop :=
  ∃ p hid, descriptors.Reaches extra 0 p ∧ extra[p]? = some 1 ∧
    entries.Reaches extra (p + 1) hid ∧ HidAt extra hid

section Phantoms

variable {extra : List UInt8} {p n : Nat}

theorem descriptors_refines_entries : descriptors.Refines entries := by
  intro buffer n sized
  obtain ⟨first, here, length, two, enough, inside⟩ := prefixedSize_eq_some_iff.mp sized
  exact prefixedSize_eq_some_iff.mpr
    ⟨first, here, length, two, Nat.le_of_succ_le enough, inside⟩

theorem Malformed.size_eq_none (malformed : Malformed extra p) :
    descriptors.size (extra.drop p) = none := by
  rw [Option.eq_none_iff_forall_not_mem]
  intro n sized
  obtain ⟨first, here, rfl, two, enough, inside⟩ := lengthPrefixed_drop_iff.mp sized
  obtain ⟨bLength, here', bad⟩ := malformed
  cases here.symm.trans here'
  omega

theorem HidAt.size_eq (hid : HidAt extra p) :
    ∃ n, descriptors.size (extra.drop p) = some n ∧ p + n ≤ extra.length ∧
      extra[p + 1]? = some 0x21 ∧ 9 ≤ n := by
  obtain ⟨bLength, here, hidType, long, inside⟩ := hid
  exact ⟨_, lengthPrefixed_drop_iff.mpr ⟨bLength, here, rfl, by omega, by omega, inside⟩,
    inside, hidType, long⟩

/-- An entry that is no complete descriptor is of length one. -/
theorem eq_one_of_entry (stuck : descriptors.size (extra.drop p) = none)
    (sized : entries.size (extra.drop p) = some n) : n = 1 ∧ extra[p]? = some 1 := by
  obtain ⟨first, here, rfl, two, enough, inside⟩ := lengthPrefixed_drop_iff.mp sized
  have one : first.toNat = 1 := by
    by_contra other
    exact nomatch stuck.symm.trans
      (lengthPrefixed_drop_iff.mpr ⟨first, here, rfl, two, by omega, inside⟩)
  exact ⟨one, here.trans (congrArg some (UInt8.toNat_inj.mp one))⟩

/-- The reports stand at the HID descriptors that entries lead to. -/
theorem reported_iff : ∃ reports, decodeHidDescriptor extra = .ok reports ∧
    ∀ p, p ∈ reports.map HidReport.offset ↔ entries.Reaches extra 0 p ∧ HidAt extra p := by
  obtain ⟨reports, decoded, _, offsets⟩ := decodeHidDescriptor_reports extra
  refine ⟨reports, decoded, ?_⟩
  intro p
  rw [offsets, List.mem_map]
  constructor
  · rintro ⟨⟨_, chunk⟩, member, rfl⟩
    obtain ⟨found, hid⟩ := List.mem_filter.mp member
    obtain ⟨reached, n, sized, rfl⟩ := Splitter.mem_chunksFrom_iff.mp found
    obtain ⟨first, here, rfl, _, _, inside⟩ := lengthPrefixed_drop_iff.mp sized
    obtain ⟨hidType, long⟩ := (isHid_take_iff inside).mp (of_decide_eq_true hid)
    exact ⟨reached, first, here, hidType, long, inside⟩
  · rintro ⟨reached, hid⟩
    obtain ⟨n, sized, inside, looks⟩ := hid.size_eq
    refine ⟨(p, (extra.drop p).take n), List.mem_filter.mpr ⟨?_, ?_⟩, rfl⟩
    · exact Splitter.mem_chunksFrom_iff.mpr
        ⟨reached, n, descriptors_refines_entries _ n sized, rfl⟩
    · exact decide_eq_true ((isHid_take_iff inside).mpr looks)

/-- A walk that is led astray reports a phantom. -/
theorem LedAstray.not_noPhantoms (astray : LedAstray extra) : ¬ NoPhantoms extra := by
  rintro ⟨reports, decoded, genuine⟩
  obtain ⟨p, hid, reached, one, going, found⟩ := astray
  obtain ⟨reports', decoded', reported⟩ := @reported_iff extra
  cases decoded.symm.trans decoded'
  have step : entries.Step extra p (p + 1) := by
    obtain ⟨bLength, _, _, long, inside⟩ := found
    have behind := going.le
    exact ⟨1, lengthPrefixed_drop_iff.mpr ⟨1, one, rfl, by omega, Nat.le_refl 1, by omega⟩, rfl⟩
  have there : entries.Reaches extra 0 hid :=
    (descriptors_refines_entries.reaches reached).trans (.head step going)
  obtain ⟨report, member, rfl⟩ := List.mem_map.mp ((reported hid).mpr ⟨there, found⟩)
  have before := (genuine report member).2 p reached ⟨1, one, .inl (by decide)⟩
  exact absurd going.le (by omega)

/-- An offset behind complete descriptors is before every malformed descriptor behind such. -/
theorem HidAt.lt_of_malformed {hid : Nat} (found : HidAt extra hid)
    (reached : descriptors.Reaches extra 0 hid) (reached' : descriptors.Reaches extra 0 p)
    (malformed : Malformed extra p) : hid < p := by
  obtain ⟨n, sized, _⟩ := found.size_eq
  have apart : hid ≠ p := by
    rintro rfl
    cases malformed.size_eq_none.symm.trans sized
  rcases reached.total reached' with ahead | behind
  · exact Nat.lt_of_le_of_ne ahead.le apart
  · exact absurd (behind.eq_of_none malformed.size_eq_none) apart

end Phantoms

/-- **Phantoms.** There are none, exactly unless the walk is led astray by a length of one. -/
theorem noPhantoms_iff (extra : List UInt8) : NoPhantoms extra ↔ ¬ LedAstray extra := by
  constructor
  · intro genuine astray
    exact astray.not_noPhantoms genuine
  · intro straight
    obtain ⟨reports, decoded, reported⟩ := @reported_iff extra
    refine ⟨reports, decoded, ?_⟩
    intro report member
    obtain ⟨led, found⟩ := (reported report.offset).mp (List.mem_map.mpr ⟨report, member, rfl⟩)
    have reached : descriptors.Reaches extra 0 report.offset := by
      rcases descriptors_refines_entries.reaches_or led with
        reached | ⟨p, n, reached, stuck, sized, going⟩
      · exact reached
      · obtain ⟨rfl, one⟩ := eq_one_of_entry stuck sized
        exact absurd ⟨p, report.offset, reached, one, going, found⟩ straight
    refine ⟨reached, ?_⟩
    intro p reached' malformed
    exact found.lt_of_malformed reached reached' malformed

/-- A length of one before the bytes of the sensor's HID descriptor. -/
theorem sensorHid_shifted : ¬ NoPhantoms (1 :: sensorHid.bytes) := by
  refine LedAstray.not_noPhantoms ⟨0, 1, .refl, rfl, .refl, 9, rfl, rfl, ?_, ?_⟩
  · decide
  · decide

end Elan0c00
