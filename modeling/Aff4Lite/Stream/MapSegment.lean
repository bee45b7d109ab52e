import Aff4Lite.Stream.MapStreamProperties

/-!
The map segment as a container stores it: packed records, one after the other. What
`initMap` reads out of such a segment is the list of records, whatever the fresh buffer
held before.
-/

set_option autoImplicit false

namespace Aff4Lite.Stream

open Lib

def MapEntryPoint.toBytes (record : MapEntryPoint) : Bytes :=
  toLE 8 record.offset.toNat ++ (toLE 8 record.length.toNat ++
    (toLE 8 record.streamOffset.toNat ++ toLE 4 record.streamID.toNat))

@[simp] theorem MapEntryPoint.length_toBytes (record : MapEntryPoint) :
    record.toBytes.length = sizeofMapEntryPoint := by
  simp [toBytes, sizeofMapEntryPoint]

private theorem MapEntryPoint.ofBytes_toBytes (record : MapEntryPoint) :
    MapEntryPoint.ofBytes record.toBytes = record := by
  have eight : ∀ (value : Nat) (rest : Bytes), (toLE 8 value ++ rest).drop 8 = rest :=
    fun value rest => List.drop_left' (length_toLE 8 value)
  have offset := wordLE_append (by decide) record.offset
  have length := wordLE_append (by decide) record.length
  have streamOffset := wordLE_append (by decide) record.streamOffset
  have streamID := wordLE_append (by decide) record.streamID []
  rw [List.append_nil] at streamID
  have second : record.toBytes.drop 8 = toLE 8 record.length.toNat ++
      (toLE 8 record.streamOffset.toNat ++ toLE 4 record.streamID.toNat) := eight _ _
  have third : record.toBytes.drop 16 =
      toLE 8 record.streamOffset.toNat ++ toLE 4 record.streamID.toNat := by
    rw [show 16 = 8 + 8 from rfl, ← List.drop_drop, second, eight]
  have fourth : record.toBytes.drop 24 = toLE 4 record.streamID.toNat := by
    rw [show 24 = 16 + 8 from rfl, ← List.drop_drop, third, eight]
  rw [ofBytes, second, third, fourth]
  unfold toBytes
  rw [offset, length, streamOffset, streamID]

def Segment.full (bytes : Bytes) (fits : bytes.length < 2 ^ 32) : Segment where
  size := BitVec.ofNat 64 bytes.length
  bytes := bytes
  within := by
    rw [BitVec.toNat_ofNat, Nat.mod_eq_of_lt (by omega)]
  oneTransfer := fits

private theorem length_records {records : List MapEntryPoint}
    (fits : sizeofMapEntryPoint * records.length < 2 ^ 32) :
    (records.flatMap MapEntryPoint.toBytes).length < 2 ^ 32 := by
  rwa [length_flatMap_of_width MapEntryPoint.length_toBytes]

def Segment.ofRecords (records : List MapEntryPoint)
    (fits : sizeofMapEntryPoint * records.length < 2 ^ 32) : Segment :=
  Segment.full (records.flatMap MapEntryPoint.toBytes) (length_records fits)

private theorem Segment.size_ofRecords (records : List MapEntryPoint)
    (fits : sizeofMapEntryPoint * records.length < 2 ^ 32) :
    (Segment.ofRecords records fits).size.toNat = sizeofMapEntryPoint * records.length := by
  have total := length_flatMap_of_width MapEntryPoint.length_toBytes records
  rw [ofRecords, full, BitVec.toNat_ofNat, total, Nat.mod_eq_of_lt (by omega)]

theorem Segment.recordCount_ofRecords (records : List MapEntryPoint)
    (fits : sizeofMapEntryPoint * records.length < 2 ^ 32) :
    (Segment.ofRecords records fits).recordCount = records.length := by
  rw [recordCount, size_ofRecords, Nat.mul_div_cancel_left _ (by decide)]

theorem Segment.size_ofRecords_ne {records : List MapEntryPoint} (filled : records ≠ [])
    (fits : sizeofMapEntryPoint * records.length < 2 ^ 32) :
    (Segment.ofRecords records fits).size ≠ 0 := by
  intro empty
  have total := Segment.size_ofRecords records fits
  have positive := Nat.mul_pos (show 0 < sizeofMapEntryPoint by decide)
    (List.length_pos_iff.mpr filled)
  rw [empty] at total
  exact absurd total.symm (Nat.ne_of_gt positive)

theorem Segment.not_overruns_ofRecords (records : List MapEntryPoint)
    (fits : sizeofMapEntryPoint * records.length < 2 ^ 32) :
    ¬(Segment.ofRecords records fits).overruns := by
  have total := length_flatMap_of_width MapEntryPoint.length_toBytes records
  rw [not_overruns_iff, recordCount_ofRecords]
  exact total.le

theorem Segment.records_ofRecords (records : List MapEntryPoint)
    (fits : sizeofMapEntryPoint * records.length < 2 ^ 32) (heap : Nat → UInt8) :
    (Segment.ofRecords records fits).records heap = records := by
  have total := length_flatMap_of_width MapEntryPoint.length_toBytes records
  unfold Segment.records
  rw [recordCount_ofRecords]
  apply List.ext_getElem?
  intro index
  rw [List.getElem?_map]
  by_cases below : index < records.length
  · have found := List.getElem?_eq_getElem below
    have inside : sizeofMapEntryPoint * index + sizeofMapEntryPoint ≤
        (records.flatMap MapEntryPoint.toBytes).length := by
      rw [total, ← Nat.mul_succ]
      exact Nat.mul_le_mul_left _ below
    rw [List.getElem?_range below, found]
    simp only [ofRecords, full, Option.map_some]
    rw [map_store heap inside, slice_flatMap MapEntryPoint.length_toBytes found,
      MapEntryPoint.ofBytes_toBytes]
  · rw [List.getElem?_eq_none (by simpa using below), List.getElem?_eq_none (not_lt.mp below)]
    rfl

/-- `std::sort` by insertion, which is stable. -/
def PointSort.insertion : PointSort where
  sort := List.insertionSort fun left right => left.offset ≤ right.offset
  perm := fun points => List.perm_insertionSort _ points
  sorted := by
    intro points
    have total : Std.Total fun left right : MapEntryPoint => left.offset ≤ right.offset :=
      ⟨fun left right => BitVec.le_total left.offset right.offset⟩
    have trans : IsTrans MapEntryPoint fun left right => left.offset ≤ right.offset :=
      ⟨fun _ _ _ first second => BitVec.le_trans first second⟩
    exact List.pairwise_insertionSort _ points

/-- A volume that stores one map, whose lines all name image streams. -/
def Parent.ofRecords (idx : Segment) (records : List MapEntryPoint)
    (fits : sizeofMapEntryPoint * records.length < 2 ^ 32) : Parent Bytes where
  getSegment name :=
    if name = text "/idx" then some idx
    else if name = text "/map" then some (Segment.ofRecords records fits)
    else none
  getImageStream := some
  resolver := none
  rdfModel := none
  createUnknownStream := lexiconUnknown
  createUnknownStreamFor := id

private theorem mapM_ok {α β ε : Type} (items : List α) (function : α → β) :
    items.mapM (fun item => (.ok (function item) : Except ε β)) = .ok (items.map function) := by
  induction items with
  | nil => rfl
  | cons head tail ih => simp [List.mapM_cons, ih, bind, Except.bind, pure, Except.pure]

theorem initStreamVector_ofRecords (idx : Segment) (records : List MapEntryPoint)
    (fits : sizeofMapEntryPoint * records.length < 2 ^ 32) :
    initStreamVector (Parent.ofRecords idx records fits) [] none =
      .ok ((nonEmptyLines idx.bytes).map some) := by
  have resolved : resolveLine (Parent.ofRecords idx records fits) none =
      fun line => .ok (some line) := by
    funext line
    simp [resolveLine, Parent.ofRecords]
  have present : (Parent.ofRecords idx records fits).getSegment ([] ++ text "/idx") = some idx :=
    rfl
  rw [initStreamVector, present]
  dsimp only
  rw [resolved]
  exact mapM_ok _ _

theorem create_ofRecords {idx : Segment} {records : List MapEntryPoint}
    {fits : sizeofMapEntryPoint * records.length < 2 ^ 32} (filled : records ≠ []) {size : U64}
    {mapGapStream : Option Bytes} {order : PointSort} (heap : Nat → UInt8)
    {build : MapBuild Bytes} (built : build = buildMap lexiconUnknown
      ((nonEmptyLines idx.bytes).map some) mapGapStream (order.sort records))
    (nonempty : build.size size ≠ 0) :
    MapStream.create (Parent.ofRecords idx records fits) [] size none mapGapStream order heap =
      .ok ⟨false, build.size size, build.streams,
        fillTail ((nonEmptyLines idx.bytes).map some).length build size⟩ := by
  refine create_of_records (initStreamVector_ofRecords idx records fits)
    (show _ = some (Segment.ofRecords records fits) from rfl)
    (Segment.size_ofRecords_ne filled fits) (Segment.not_overruns_ofRecords records fits) ?_ ?_
    nonempty
  · rw [Segment.recordCount_ofRecords]
    unfold sizeofMapEntryPoint at fits
    omega
  · rw [Segment.records_ofRecords]
    exact built

def twoLines : Segment := .full (text "a\nb") (by decide)

def overlappingRecords : List MapEntryPoint := [⟨0, 100, 0, 0⟩, ⟨50, 10, 0, 1⟩]

def unsortedRecords : List MapEntryPoint := [⟨50, 10, 0, 1⟩, ⟨8, 32, 5, 0⟩]

theorem create_overlapping :
    MapStream.create (Parent.ofRecords twoLines overlappingRecords (by decide)) [] 0 none
        (some (text "gap")) .insertion (fun _ => 0) =
      .ok ⟨false, 60, [some (text "a"), some (text "b"), some (text "gap")],
        ⟨[(0, ⟨0, 100, 0, 0⟩), (50, ⟨50, 10, 0, 1⟩), (100, ⟨100, -50, 100, 2⟩)], by decide⟩⟩ := by
  have nonempty : (buildMap lexiconUnknown ((nonEmptyLines twoLines.bytes).map some)
      (some (text "gap")) (PointSort.insertion.sort overlappingRecords)).size 0 ≠ 0 := by decide
  exact create_ofRecords (List.cons_ne_nil _ _) (fun _ => 0) rfl nonempty

theorem create_unsorted :
    MapStream.create (Parent.ofRecords twoLines unsortedRecords (by decide)) [] 0 none
        (some (text "gap")) .insertion (fun _ => 0) =
      .ok ⟨false, 60, [some (text "a"), some (text "b"), some (text "gap")],
        ⟨[(0, ⟨0, 8, 0, 2⟩), (8, ⟨8, 32, 5, 0⟩), (40, ⟨40, 10, 40, 2⟩), (50, ⟨50, 10, 0, 1⟩)],
          by decide⟩⟩ := by
  have nonempty : (buildMap lexiconUnknown ((nonEmptyLines twoLines.bytes).map some)
      (some (text "gap")) (PointSort.insertion.sort unsortedRecords)).size 0 ≠ 0 := by decide
  exact create_ofRecords (List.cons_ne_nil _ _) (fun _ => 0) rfl nonempty

end Aff4Lite.Stream
