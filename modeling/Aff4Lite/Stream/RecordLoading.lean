import Aff4Lite.Stream.BevvyIndex
import Aff4Lite.Stream.MapSegment

/-!
# Loading a segment of records

`initMap` and the constructor of `BevvyIndex` size their buffer by the whole records of a
segment and read the whole segment into it. What the read returns is not looked at.
-/

set_option autoImplicit false

namespace Aff4Lite.Stream

open Lib Zip Containers

/-- `size()` of a segment, and what `read(buffer, size(), 0)` places in the buffer: any number
of bytes up to the count asked for, and none where it fails. -/
structure SegmentRead where
  size : U64
  bytes : Bytes
  within : bytes.length ≤ size.toNat

namespace SegmentRead

/-- `streamSize / sizeof(Record)` -/
def recordCount (segment : SegmentRead) (width : Nat) : Nat := segment.size.toNat / width

/-- The bytes of `new Record[size]`. -/
def allocated (segment : SegmentRead) (width : Nat) : Nat := width * segment.recordCount width

/-- The bytes that stand for a record in the buffer. -/
def recordBytes (segment : SegmentRead) (width : Nat) (heap : Nat → UInt8) (index : Nat) : Bytes :=
  firstCells (fun position => store heap 0 segment.bytes (width * index + position)) width

def Whole (segment : SegmentRead) (width index : Nat) : Prop :=
  width * index + width ≤ segment.bytes.length

private theorem recordBytes_whole {segment : SegmentRead} {width index : Nat}
    (whole : segment.Whole width index) (heap : Nat → UInt8) :
    segment.recordBytes width heap index = slice segment.bytes (width * index) width :=
  map_store heap whole

private theorem fits_iff {segment : SegmentRead} {width : Nat} :
    segment.size.toNat ≤ segment.allocated width ↔ width ∣ segment.size.toNat := by
  unfold allocated recordCount
  constructor
  · intro fits
    exact Dvd.intro _ (Nat.le_antisymm (Nat.mul_div_le _ _) fits)
  · rintro divides
    rw [Nat.mul_div_cancel' divides]

private theorem whole_iff {segment : SegmentRead} {width count : Nat} :
    (∀ index < count, segment.Whole width index) ↔ width * count ≤ segment.bytes.length := by
  unfold Whole
  constructor
  · intro whole
    cases count with
    | zero => exact Nat.zero_le _
    | succ last =>
        rw [Nat.mul_succ]
        exact whole last (Nat.lt_succ_self _)
  · intro enough index below
    have inside := Nat.mul_le_mul_left width (Nat.succ_le_of_lt below)
    rw [Nat.mul_succ] at inside
    exact le_trans inside enough

/-! ## `MapStream::initMap` -/

/-- The points that `initMap` inserts, in the order of the segment. With 2^32 records or more
its first loop does not end. -/
def mapPoints (segment : SegmentRead) (heap : Nat → UInt8) : List MapEntryPoint :=
  if 2 ^ 32 ≤ segment.recordCount sizeofMapEntryPoint then []
  else
    (List.range (segment.recordCount sizeofMapEntryPoint)).map fun index =>
      .ofBytes (segment.recordBytes sizeofMapEntryPoint heap index)

def ofSegment (segment : Segment) : SegmentRead := ⟨segment.size, segment.bytes, segment.within⟩

theorem initMap_mapPoints {Stream : Type} {parent : Parent Stream} {resource : Bytes}
    {length : U64} {streams : List (Option Stream)} {mapGapStream : Option Stream}
    {order : PointSort} {heap : Nat → UInt8} {segment : Segment} {stream : MapStream Stream}
    (present : parent.getSegment (resource ++ text "/map") = some segment)
    (nonempty : segment.size ≠ 0)
    (ended : initMap parent resource length streams mapGapStream order heap = .ok stream) :
    stream.map = fillTail streams.length (buildMap parent.createUnknownStream streams mapGapStream
      (order.sort ((ofSegment segment).mapPoints heap))) length := by
  unfold initMap at ended
  rw [present] at ended
  dsimp only at ended
  rw [if_neg nonempty] at ended
  split at ended
  · cases ended
  · split at ended
    · cases ended
    · rename_i counted
      cases ended
      have points : (ofSegment segment).mapPoints heap = segment.records heap :=
        if_neg counted
      rw [points]

/-- The read fits the buffer, and every inserted point is made of bytes that were read. -/
structure InitMapWithin (segment : SegmentRead) : Prop where
  asked : segment.size.toNat ≤ segment.allocated sizeofMapEntryPoint
  points : ∀ heap index point, (segment.mapPoints heap)[index]? = some point →
    segment.Whole sizeofMapEntryPoint index ∧
      point = .ofBytes (slice segment.bytes (sizeofMapEntryPoint * index) sizeofMapEntryPoint)

private theorem mapPoints_some_iff {segment : SegmentRead} {heap : Nat → UInt8} {index : Nat}
    {point : MapEntryPoint} :
    (segment.mapPoints heap)[index]? = some point ↔
      segment.recordCount sizeofMapEntryPoint < 2 ^ 32 ∧
        index < segment.recordCount sizeofMapEntryPoint ∧
        point = .ofBytes (segment.recordBytes sizeofMapEntryPoint heap index) := by
  unfold mapPoints
  split
  · rename_i endless
    simp only [List.getElem?_nil, reduceCtorEq, false_iff]
    omega
  · rename_i counted
    rw [List.getElem?_map, Option.map_eq_some_iff]
    constructor
    · rintro ⟨found, member, rfl⟩
      obtain ⟨below, rfl⟩ := List.getElem?_eq_some_iff.mp member
      rw [List.length_range] at below
      exact ⟨by omega, below, by rw [List.getElem_range]⟩
    · rintro ⟨_, below, rfl⟩
      exact ⟨index, List.getElem?_range below, rfl⟩

private theorem initMapWithin_iff (segment : SegmentRead) :
    segment.InitMapWithin ↔
      sizeofMapEntryPoint ∣ segment.size.toNat ∧
        (2 ^ 32 ≤ segment.recordCount sizeofMapEntryPoint ∨
          segment.bytes.length = segment.size.toNat) := by
  have within := segment.within
  constructor
  · intro loads
    have divides := fits_iff.mp loads.asked
    refine ⟨divides, ?_⟩
    by_cases endless : 2 ^ 32 ≤ segment.recordCount sizeofMapEntryPoint
    · exact .inl endless
    · have whole : ∀ index < segment.recordCount sizeofMapEntryPoint,
          segment.Whole sizeofMapEntryPoint index := fun index below =>
        (loads.points (fun _ => 0) index _
          (mapPoints_some_iff.mpr ⟨by omega, below, rfl⟩)).1
      have enough := whole_iff.mp whole
      unfold recordCount at enough
      rw [Nat.mul_div_cancel' divides] at enough
      exact .inr (Nat.le_antisymm within enough)
  · rintro ⟨divides, loaded⟩
    refine ⟨fits_iff.mpr divides, fun heap index point found => ?_⟩
    obtain ⟨counted, below, rfl⟩ := mapPoints_some_iff.mp found
    have all := loaded.resolve_left (by omega)
    have enough : sizeofMapEntryPoint * segment.recordCount sizeofMapEntryPoint ≤
        segment.bytes.length := by
      unfold recordCount
      rw [Nat.mul_div_cancel' divides, all]
    have whole := whole_iff.mpr enough index below
    exact ⟨whole, by rw [recordBytes_whole whole]⟩

/-! ## `BevvyIndex` -/

/-- The index that the constructor of `BevvyIndex` leaves, its segments being there. -/
def bevvyIndex (segment : SegmentRead) (bevvyID : U32) (dataChunkOffset : U64)
    (heap : Nat → UInt8) : BevvyIndex :=
  if segment.size > 0 then
    ⟨bevvyID, dataChunkOffset, segment.size / BitVec.ofNat 64 ImageStreamPoint.sizeof,
      some (store heap 0 segment.bytes)⟩
  else ⟨bevvyID, dataChunkOffset, 0, none⟩

theorem create_bevvyIndex {container : ZipContainer} {resource : Bytes} {bevvyID : U32}
    {heap decompbuffer : Nat → UInt8} {zipEntry stream : ZipEntry} {segment : SegmentRead}
    (entryFound : container.getSegmentEntry (resource ++ text "/" ++ bevvyText bevvyID) =
      some zipEntry)
    (streamFound : container.getSegment (resource ++ text "/" ++ bevvyText bevvyID ++
      text ".index") = some stream)
    (size : segment.size = stream.length)
    (bytes : segment.bytes = (readSegment container.inflate container.file stream decompbuffer
      stream.length 0).bytes) :
    BevvyIndex.create container resource bevvyID heap decompbuffer =
      segment.bevvyIndex bevvyID zipEntry.offset heap := by
  unfold BevvyIndex.create bevvyIndex
  dsimp only
  rw [entryFound]
  dsimp only
  rw [streamFound, size, bytes]

/-- The read fits the buffer, and every point of the index is made of bytes that were read. -/
structure BevvyIndexWithin (segment : SegmentRead) : Prop where
  asked : segment.size.toNat ≤ segment.allocated ImageStreamPoint.sizeof
  points : ∀ bevvyID dataChunkOffset heap (offset : U32),
    offset.toNat < (segment.bevvyIndex bevvyID dataChunkOffset heap).size.toNat →
      segment.Whole ImageStreamPoint.sizeof offset.toNat ∧
        (segment.bevvyIndex bevvyID dataChunkOffset heap).getPoint offset =
          .ofBytes (slice segment.bytes (ImageStreamPoint.sizeof * offset.toNat)
            ImageStreamPoint.sizeof)

private theorem size_bevvyIndex (segment : SegmentRead) (bevvyID : U32) (dataChunkOffset : U64)
    (heap : Nat → UInt8) :
    (segment.bevvyIndex bevvyID dataChunkOffset heap).size.toNat =
      segment.recordCount ImageStreamPoint.sizeof := by
  unfold bevvyIndex recordCount
  split
  · exact BitVec.toNat_udiv
  · rename_i empty
    have zero : segment.size.toNat = 0 := by bv_omega
    rw [zero, Nat.zero_div]
    rfl

private theorem getPoint_bevvyIndex {segment : SegmentRead} {bevvyID : U32} {dataChunkOffset : U64}
    {heap : Nat → UInt8} {offset : U32}
    (below : offset.toNat < (segment.bevvyIndex bevvyID dataChunkOffset heap).size.toNat) :
    (segment.bevvyIndex bevvyID dataChunkOffset heap).getPoint offset =
      .ofBytes (segment.recordBytes ImageStreamPoint.sizeof heap offset.toNat) := by
  have wide := toNat_widen offset (by decide : 32 ≤ 64)
  unfold bevvyIndex at below ⊢
  split at below
  · rename_i nonempty
    rw [if_pos nonempty]
    unfold BevvyIndex.getPoint
    dsimp only at below ⊢
    rw [if_neg (by bv_omega)]
    rfl
  · exact absurd below (Nat.not_lt_zero _)

private theorem bevvyIndexWithin_iff (segment : SegmentRead) :
    segment.BevvyIndexWithin ↔
      ImageStreamPoint.sizeof ∣ segment.size.toNat ∧
        ImageStreamPoint.sizeof * min (segment.recordCount ImageStreamPoint.sizeof) (2 ^ 32) ≤
          segment.bytes.length := by
  rw [← whole_iff]
  constructor
  · intro loads
    refine ⟨fits_iff.mp loads.asked, fun index below => ?_⟩
    have same : (BitVec.ofNat 32 index).toNat = index := by
      rw [BitVec.toNat_ofNat, Nat.mod_eq_of_lt (by omega)]
    have point := (loads.points 0 0 (fun _ => 0) (BitVec.ofNat 32 index) (by
      rw [size_bevvyIndex]
      omega)).1
    rwa [same] at point
  · rintro ⟨divides, whole⟩
    refine ⟨fits_iff.mpr divides, fun bevvyID dataChunkOffset heap offset below => ?_⟩
    have inRange := offset.isLt
    have point := getPoint_bevvyIndex below
    rw [size_bevvyIndex] at below
    have here := whole offset.toNat (by omega)
    exact ⟨here, by rw [point, recordBytes_whole here]⟩

/-! ## Both loaders -/

/-- Both loaders are safe on a segment of whole records that is read in full. Where records
are left out by a counter, the bytes of those need not be there. -/
theorem loaders_within_iff (segment : SegmentRead) :
    (segment.InitMapWithin ↔
      sizeofMapEntryPoint ∣ segment.size.toNat ∧
        (2 ^ 32 ≤ segment.recordCount sizeofMapEntryPoint ∨
          segment.bytes.length = segment.size.toNat)) ∧
    (segment.BevvyIndexWithin ↔
      ImageStreamPoint.sizeof ∣ segment.size.toNat ∧
        ImageStreamPoint.sizeof * min (segment.recordCount ImageStreamPoint.sizeof) (2 ^ 32) ≤
          segment.bytes.length) :=
  ⟨initMapWithin_iff segment, bevvyIndexWithin_iff segment⟩

/-- 29 bytes are asked for, into a buffer of one map record or of two points. -/
theorem loaders_overrun :
    ¬∀ segment : SegmentRead, segment.InitMapWithin ∧ segment.BevvyIndexWithin := by
  intro every
  have loads := every ⟨29, List.replicate 29 0, by decide⟩
  exact absurd loads.1.asked (by decide)

end SegmentRead

end Aff4Lite.Stream
