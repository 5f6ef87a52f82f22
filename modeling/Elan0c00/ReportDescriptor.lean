import Elan0c00.Bytes.Access
import Elan0c00.Bytes.Chunks
import Elan0c00.Bytes.LittleEndian
import Mathlib.Data.List.Forall2

/-! # The items of a report descriptor

A report descriptor is a sequence of short items: a byte that names the item and says how many
bytes of data follow, none, one, two or four. `decodeReportDescriptor` walks over them and prints
each with its data as a number. `decodeReportDescriptor_tiles` says that nothing is lost: what is
printed for any bytes makes up these bytes, and what is printed for short items are these items.
-/

namespace Elan0c00

open Bytes

/-- What is printed of an item. -/
structure ReportItem where
  tyS : String
  name : String
  b : UInt8
  val : UInt32
  deriving DecidableEq, Repr

/-- The number of bytes of data that the first byte of an item declares. -/
def declaredSize (b : UInt8) : Nat :=
  match b &&& 0x03 with
  | 3 => 4
  | n => n.toNat

def tyNames : List String := ["Main", "Global", "Local", "Reserved"]

def itemName (ty tag : UInt8) : String :=
  match ty, tag with
  | 1, 0x0 => "Usage Page"
  | 1, 0x1 => "Logical Minimum"
  | 1, 0x2 => "Logical Maximum"
  | 1, 0x7 => "Report Size"
  | 1, 0x8 => "Report ID"
  | 1, 0x9 => "Report Count"
  | 2, 0x0 => "Usage"
  | 0, 0x8 => "Input"
  | 0, 0x9 => "Output"
  | 0, 0xB => "Feature"
  | 0, 0xA => "Collection"
  | 0, 0xC => "End Collection"
  | _, _ => "?"

/-- What is printed of an item that begins with `b`, with the data that was sliced out. -/
def reportItem (b : UInt8) (data : List UInt8) : Except Fault ReportItem := do
  let ty := (b >>> 2) &&& 0x03
  let tag := b >>> 4
  let val : UInt32 := data.reverse.foldl (fun a x => (a <<< 8) ||| x.toUInt32) 0
  let tyS ← index tyNames ty.toNat
  return { tyS, name := itemName ty tag, b, val }

/-- The loop of `decode_report_descriptor` from the position `i` on. -/
def decodeReportFrom (d : List UInt8) (i : Nat) : Except Fault (List ReportItem) :=
  if _ : i < d.length then do
    let b ← index d i
    let size := declaredSize b
    let data ← slice d (i + 1) (min (i + 1 + size) d.length)
    let item ← reportItem b data
    let rest ← decodeReportFrom d (i + (1 + size))
    return item :: rest
  else return []
termination_by d.length - i

def decodeReportDescriptor (d : List UInt8) : Except Fault (List ReportItem) :=
  decodeReportFrom d 0

/-- Short items; the data of the last one may be cut off. -/
def shortItems : Splitter UInt8 where
  size buffer := buffer.head?.map fun b => min (1 + declaredSize b) buffer.length
  positive sized := by
    obtain ⟨b, here, rfl⟩ := Option.map_eq_some_iff.mp sized
    have nonempty := List.length_pos_of_mem (List.mem_of_mem_head? here)
    omega
  inside sized := by
    obtain ⟨b, _, rfl⟩ := Option.map_eq_some_iff.mp sized
    exact Nat.min_le_right _ _

/-! ### The walk -/

/-- An item has the first byte of these bytes, the texts for it, and the rest as its value. -/
structure ReportItem.Reads (item : ReportItem) (bytes : List UInt8) : Prop where
  first : bytes.head? = some item.b
  val : item.val.toNat = Nat.ofDigits 256 (bytes.tail.map UInt8.toNat)
  tyS : tyNames[((item.b >>> 2) &&& 0x03).toNat]? = some item.tyS
  name : item.name = itemName ((item.b >>> 2) &&& 0x03) (item.b >>> 4)

section Walk

variable {d : List UInt8} {i n : Nat}

theorem toNat_and_three_le (b : UInt8) : (b &&& 0x03).toNat ≤ 3 := by
  rw [UInt8.toNat_and]
  exact Nat.and_le_right

theorem declaredSize_le (b : UInt8) : declaredSize b ≤ 4 := by
  unfold declaredSize
  split
  · exact Nat.le_refl 4
  · exact Nat.le_succ_of_le (toNat_and_three_le b)

/-- An item with at most four bytes of data is printed with the value of all of them. -/
theorem reportItem_eq_ok {data : List UInt8} (short : data.length ≤ 4) (b : UInt8) :
    ∃ item, reportItem b data = .ok item ∧ item.Reads (b :: data) := by
  have named : ((b >>> 2) &&& 0x03).toNat < tyNames.length :=
    Nat.lt_succ_of_le (toNat_and_three_le (b >>> 2))
  have tyS := List.getElem?_eq_getElem named
  unfold reportItem
  simp only [index_eq_ok tyS, List.foldl_reverse]
  exact ⟨_, rfl, rfl, toNat_fromLe short, tyS, rfl⟩

theorem shortItems_drop_iff :
    shortItems.size (d.drop i) = some n ↔
      ∃ b, d[i]? = some b ∧ min (1 + declaredSize b) (d.length - i) = n := by
  change (d.drop i).head?.map (fun b => min (1 + declaredSize b) (d.drop i).length) = some n ↔ _
  rw [List.head?_drop, List.length_drop, Option.map_eq_some_iff]

/-- There is an item wherever there is a byte. -/
theorem shortItems_eq_nil {buffer : List UInt8} (stuck : shortItems.size buffer = none) :
    buffer = [] :=
  List.head?_eq_none_iff.mp (Option.map_eq_none_iff.mp stuck)

/-- Behind the end nothing is read. -/
theorem decodeReportFrom_of_le (behind : d.length ≤ i) : decodeReportFrom d i = .ok [] := by
  rw [decodeReportFrom, dif_neg (Nat.not_lt_of_le behind)]
  rfl

/-- An item is printed with as much of its data as there is, and the loop goes on behind it. -/
theorem decodeReportFrom_of_some (sized : shortItems.size (d.drop i) = some n) :
    ∃ b data, (d.drop i).take n = b :: data ∧ data.length ≤ declaredSize b ∧
      (d.drop (i + n) ≠ [] → data.length = declaredSize b) ∧
      decodeReportFrom d i = (do
        let item ← reportItem b data
        let rest ← decodeReportFrom d (i + n)
        return item :: rest) := by
  obtain ⟨b, here, taken⟩ := shortItems_drop_iff.mp sized
  obtain ⟨inside, _⟩ := List.getElem?_eq_some_iff.mp here
  have begins : d.drop i = b :: d.drop (i + 1) := by
    rw [List.drop_eq_getElem?_toList_append, here]
    rfl
  have first : n = n - 1 + 1 := by
    omega
  have length : ((d.drop (i + 1)).take (n - 1)).length = n - 1 := by
    rw [List.length_take, List.length_drop]
    omega
  have sliced : slice d (i + 1) (min (i + 1 + declaredSize b) d.length) =
      .ok ((d.drop (i + 1)).take (n - 1)) := by
    rw [slice_eq_ok (by omega) (Nat.min_le_right _ _), List.drop_take]
    congr 2
    omega
  have onward : decodeReportFrom d (i + (1 + declaredSize b)) = decodeReportFrom d (i + n) := by
    by_cases whole : 1 + declaredSize b ≤ d.length - i
    · rw [← taken, Nat.min_eq_left whole]
    · rw [decodeReportFrom_of_le (by omega), decodeReportFrom_of_le (by omega)]
  refine ⟨b, (d.drop (i + 1)).take (n - 1), ?_, ?_, ?_, ?_⟩
  · rw [begins, first, List.take_succ_cons, Nat.add_sub_cancel]
  · rw [length]
    omega
  · intro more
    have behind := List.drop_eq_nil_iff.not.mp more
    rw [length]
    omega
  · rw [decodeReportFrom, dif_pos inside, index_eq_ok here]
    change (slice d (i + 1) _ >>= fun data => _) = _
    rw [sliced, onward]
    rfl

/-- **The loop** prints the short items there are, in their order. -/
theorem decodeReportFrom_items (d : List UInt8) (i : Nat) :
    ∃ items, decodeReportFrom d i = .ok items ∧
      List.Forall₂ ReportItem.Reads items ((shortItems.chunksFrom d i).map Prod.snd) := by
  induction i using Splitter.chunksFrom.induct shortItems d with
  | case1 i stuck =>
      rw [Splitter.chunksFrom_of_none stuck]
      exact ⟨[], decodeReportFrom_of_le (List.drop_eq_nil_iff.mp (shortItems_eq_nil stuck)), .nil⟩
  | case2 i n sized ih =>
      obtain ⟨rest, decoded, reads⟩ := ih
      obtain ⟨b, data, chunk, short, -, step⟩ := decodeReportFrom_of_some sized
      obtain ⟨item, printed, fields⟩ := reportItem_eq_ok (Nat.le_trans short (declaredSize_le b)) b
      rw [step, printed, decoded, Splitter.chunksFrom_of_some sized, chunk]
      exact ⟨item :: rest, rfl, .cons fields reads⟩

end Walk

/-! ### Writing back -/

/-- The first byte of an item and so many bytes of its value. -/
def ReportItem.bytes (item : ReportItem) (count : Nat) : List UInt8 :=
  item.b :: leBytes count item.val

/-- The bytes that items declare to have. -/
def declaredBytes (items : List ReportItem) : List UInt8 :=
  items.flatMap fun item => item.bytes (declaredSize item.b)

/-- The items make up the bytes: each has all the data it declares, except that the last one has
what remains, if that is less. -/
def Tiles (items : List ReportItem) (d : List UInt8) : Prop :=
  (items = [] ∧ d = []) ∨
    ∃ front last count, items = front ++ [last] ∧
      d = declaredBytes front ++ last.bytes count ∧
      count = min (declaredSize last.b) (d.length - (declaredBytes front).length - 1)

section WritingBack

variable {item : ReportItem} {items : List ReportItem} {d data : List UInt8}

theorem ReportItem.length_bytes (item : ReportItem) (count : Nat) :
    (item.bytes count).length = count + 1 :=
  congrArg Nat.succ (length_leBytes count item.val)

/-- Writing back what was read gives the bytes that it was read from. -/
theorem ReportItem.Reads.bytes_eq {b : UInt8} (reads : item.Reads (b :: data)) :
    item.bytes data.length = b :: data := by
  have value : leBytes data.length item.val = data := leBytes_eq reads.val
  unfold ReportItem.bytes
  rw [value, Option.some.inj reads.first]

theorem declaredBytes_cons (item : ReportItem) (items : List ReportItem) :
    declaredBytes (item :: items) =
      item.bytes (declaredSize item.b) ++ declaredBytes items := by
  unfold declaredBytes
  rw [List.flatMap_cons]

/-- One item may lack data. -/
theorem Tiles.single {count : Nat} (fits : count ≤ declaredSize item.b) :
    Tiles [item] (item.bytes count) := by
  refine .inr ⟨[], item, count, rfl, rfl, ?_⟩
  rw [item.length_bytes]
  exact (Nat.min_eq_right fits).symm

/-- An item with all its data goes before others. -/
theorem Tiles.cons (tiles : Tiles items d) :
    Tiles (item :: items) (item.bytes (declaredSize item.b) ++ d) := by
  rcases tiles with ⟨rfl, rfl⟩ | ⟨front, last, count, rfl, rfl, remains⟩
  · rw [List.append_nil]
    exact .single (Nat.le_refl _)
  · refine .inr ⟨item :: front, last, count, rfl, ?_, ?_⟩
    · rw [declaredBytes_cons, List.append_assoc]
    · rw [declaredBytes_cons]
      simp only [List.length_append, Nat.add_sub_add_left] at remains ⊢
      exact remains

/-- What is printed from a position on makes up what is left there. -/
theorem tiles_chunksFrom (i : Nat)
    (reads : List.Forall₂ ReportItem.Reads items ((shortItems.chunksFrom d i).map Prod.snd)) :
    Tiles items (d.drop i) := by
  induction i using Splitter.chunksFrom.induct shortItems d generalizing items with
  | case1 i stuck =>
      rw [Splitter.chunksFrom_of_none stuck] at reads
      cases reads
      exact .inl ⟨rfl, shortItems_eq_nil stuck⟩
  | case2 i n sized ih =>
      obtain ⟨b, data, chunk, short, whole, -⟩ := decodeReportFrom_of_some sized
      rw [Splitter.chunksFrom_of_some sized, chunk] at reads
      obtain ⟨item, rest, fields, others, rfl⟩ := List.forall₂_cons_right_iff.mp reads
      have split : d.drop i = (b :: data) ++ d.drop (i + n) := by
        rw [← chunk, ← List.drop_drop, List.take_append_drop]
      obtain rfl : item.b = b := (Option.some.inj fields.first).symm
      rw [split, ← fields.bytes_eq]
      by_cases more : d.drop (i + n) = []
      · have stuck : shortItems.size (d.drop (i + n)) = none := by
          rw [more]
          rfl
        rw [Splitter.chunksFrom_of_none stuck] at others
        cases others
        rw [more, List.append_nil]
        exact .single short
      · rw [whole more]
        exact .cons (ih others)

end WritingBack

/-- A short item with all the data it declares. -/
structure ShortItem where
  b : UInt8
  data : List UInt8
  sized : data.length = declaredSize b

def ShortItem.bytes (short : ShortItem) : List UInt8 := short.b :: short.data

/-- A short item is taken whole, whatever follows it. -/
theorem ShortItem.size_append (short : ShortItem) (rest : List UInt8) :
    shortItems.size (short.bytes ++ rest) = some short.bytes.length := by
  have length : short.bytes.length = declaredSize short.b + 1 := congrArg Nat.succ short.sized
  have declared : shortItems.size (short.bytes ++ rest) =
      some (min (1 + declaredSize short.b) (short.bytes ++ rest).length) := rfl
  rw [declared, List.length_append, length]
  congr 1
  omega

/-- **Report descriptors.** Any bytes at all are decoded without a fault into items that make
them up, of which only the last one can lack data; and short items written one behind the other
are decoded into these items, in order, with their values. -/
theorem decodeReportDescriptor_tiles :
    (∀ d, ∃ items, decodeReportDescriptor d = .ok items ∧ Tiles items d) ∧
    ∀ written : List ShortItem, ∃ items,
      decodeReportDescriptor (written.map ShortItem.bytes).flatten = .ok items ∧
      List.Forall₂ (fun item short => item.Reads short.bytes) items written := by
  constructor
  · intro d
    obtain ⟨items, decoded, reads⟩ := decodeReportFrom_items d 0
    exact ⟨items, decoded, tiles_chunksFrom 0 reads⟩
  · intro written
    have whole : ∀ record ∈ written.map ShortItem.bytes, ∀ rest,
        shortItems.size (record ++ rest) = some record.length := by
      intro record member rest
      obtain ⟨short, _, rfl⟩ := List.mem_map.mp member
      exact short.size_append rest
    have taken : (shortItems.chunksFrom ((written.map ShortItem.bytes).flatten ++ []) 0).map
        Prod.snd = written.map ShortItem.bytes := Splitter.chunksFrom_flatten whole rfl []
    obtain ⟨items, decoded, reads⟩ :=
      decodeReportFrom_items (written.map ShortItem.bytes).flatten 0
    rw [List.append_nil] at taken
    rw [taken, List.forall₂_map_right_iff] at reads
    exact ⟨items, decoded, reads⟩

end Elan0c00
