import Aff4Lite.Stream.ImageStreamRead
import Aff4Lite.Stream.Truncation

/-!
# A chunk in its segment

`ChunkLoader::load` reads a chunk from the container file, at the data offset of the bevvy
segment plus the offset of the point. The stream of that segment knows where the segment
ends and how it is compressed.
-/

set_option autoImplicit false

namespace Aff4Lite.Stream

open Lib Zip Containers ImageStream

/-- What `ChunkLoader::load` reads from the container for a point. -/
def fetchPoint (file : File) (dataOffset : U64) (point : ImageStreamPoint) : Bytes :=
  ImageStream.readChunk file (point.length.setWidth 64).toNat (point.length.setWidth 64)
    (dataOffset + point.offset)

/-- How much of a point its segment has, in one transfer. -/
def segmentCount (entry : ZipEntry) (point : ImageStreamPoint) : Nat :=
  (segmentReadCount entry (point.length.setWidth 64) point.offset).toNat

private theorem segmentCount_le (entry : ZipEntry) (point : ImageStreamPoint) :
    segmentCount entry point ≤ point.length.toNat := by
  have wide := toNat_widen point.length (by decide : 32 ≤ 64)
  unfold segmentCount segmentReadCount clampCount truncateCount
  split
  · exact Nat.zero_le _
  · split
    · bv_omega
    · exact wide.le

private theorem fetchPoint_slice (file : File) (dataOffset : U64) (point : ImageStreamPoint) :
    fetchPoint file dataOffset point =
      slice file.content (dataOffset + point.offset).toNat point.length.toNat := by
  have wide := toNat_widen point.length (by decide : 32 ≤ 64)
  have small := point.length.isLt
  unfold fetchPoint
  rw [ImageStream.readChunk_slice file (by omega) le_rfl, wide]

/-- Two cuts of a list from one position on are equal when the shorter one is not cut short. -/
theorem slice_eq_iff {α : Type} (items : List α) (start : Nat) {count more : Nat}
    (shorter : count ≤ more) :
    slice items start count = slice items start more ↔
      count = more ∨ items.length ≤ start + count := by
  constructor
  · intro same
    have lengths := congrArg List.length same
    rw [length_slice, length_slice] at lengths
    omega
  · rintro (rfl | ended)
    · rfl
    · unfold slice
      rw [List.take_of_length_le (by rw [List.length_drop]; omega),
        List.take_of_length_le (by rw [List.length_drop]; omega)]

/-- The point is one that the segment holds, whole and stored, and in one transfer; or the file
ends where the segment cuts it off; or what the segment inflates to is what it is stored as. -/
def FetchFits (container : ZipContainer) (entry : ZipEntry) (point : ImageStreamPoint) : Prop :=
  let position := (entry.offset + point.offset).toNat
  let count := segmentCount entry point
  if point.offset > entry.length then
    point.length = 0 ∨ container.file.content.length ≤ position
  else if entry.compressionMethod = deflate then
    entry.length ≤ wholeStream ∧
      ∃ read output,
        fileRead container.file entry.compressedLength entry.offset = .delivered read ∧
        container.inflate read entry.length.toNat = some output ∧
        (count = 0 ∨ point.offset.toNat + count ≤ output.length) ∧
        slice output point.offset.toNat count =
          slice container.file.content position point.length.toNat
  else
    entry.compressionMethod = stored ∧
      (min count maxTransfer = point.length.toNat ∨
        container.file.content.length ≤ position + min count maxTransfer)

/-- The segment's own stream delivers what was fetched, whatever its inflated buffer held. -/
def SegmentDelivers (container : ZipContainer) (entry : ZipEntry) (point : ImageStreamPoint)
    (bytes : Bytes) : Prop :=
  ∀ decompbuffer, readSegment container.inflate container.file entry decompbuffer
    (point.length.setWidth 64) point.offset = .delivered bytes

private theorem slice_eq_nil_iff {α : Type} (items : List α) (start count : Nat) :
    slice items start count = [] ↔ count = 0 ∨ items.length ≤ start := by
  rw [← List.length_eq_zero_iff, length_slice]
  omega

/-- An inflated segment delivers `cells`, whatever lay in its buffer before. -/
theorem readCompressed_iff (container : ZipContainer) (entry : ZipEntry) (count offset : U64)
    (cells : Bytes) :
    (∀ decompbuffer, readCompressed container.inflate container.file entry decompbuffer count
        offset = .delivered cells) ↔
      entry.length ≤ wholeStream ∧
        ∃ read output,
          fileRead container.file entry.compressedLength entry.offset = .delivered read ∧
          container.inflate read entry.length.toNat = some output ∧
          (count.toNat = 0 ∨ offset.toNat + count.toNat ≤ output.length) ∧
          slice output offset.toNat count.toNat = cells := by
  unfold readCompressed
  by_cases whole : entry.length ≤ wholeStream
  · simp only [if_pos whole]
    cases fileRead container.file entry.compressedLength entry.offset with
    | failed => simp
    | delivered read =>
        dsimp only
        cases inflated : container.inflate read entry.length.toNat with
        | none => simp [inflated]
        | some output =>
            simp only [ReadResult.delivered.injEq, exists_and_left, exists_eq_left', inflated,
              Option.some.injEq]
            by_cases nothing : count.toNat = 0
            · simp [nothing, firstCells, whole]
            · rw [firstCells_store_iff (by decide : (0 : UInt8) ≠ 1) (Nat.pos_of_ne_zero nothing)]
              simp [nothing, whole]
  · simp [whole]

private theorem segmentDelivers_iff (container : ZipContainer) (entry : ZipEntry)
    (point : ImageStreamPoint) :
    SegmentDelivers container entry point (fetchPoint container.file entry.offset point) ↔
      FetchFits container entry point := by
  have wide := toNat_widen point.length (by decide : 32 ≤ 64)
  have small := point.length.isLt
  have fewer := segmentCount_le entry point
  unfold SegmentDelivers FetchFits
  rw [fetchPoint_slice]
  simp only [readSegment_count]
  by_cases behind : point.offset > entry.length
  · simp only [if_pos behind, forall_const, ReadResult.delivered.injEq]
    have nothing : point.length = 0 ↔ point.length.toNat = 0 := by bv_omega
    rw [eq_comm, slice_eq_nil_iff, nothing]
  · simp only [if_neg behind]
    by_cases deflated : entry.compressionMethod = deflate
    · simp only [if_pos deflated]
      exact readCompressed_iff container entry _ _ _
    · simp only [if_neg deflated]
      by_cases isStored : entry.compressionMethod = stored
      · have position : point.offset + entry.offset = entry.offset + point.offset := by bv_omega
        have representable :
            (segmentReadCount entry (point.length.setWidth 64) point.offset).toNat < 2 ^ 63 :=
          lt_of_le_of_lt fewer (by omega)
        simp only [isStored, ne_eq, not_true_eq_false, if_false, true_and, forall_const]
        rw [fileRead_slice container.file representable, position, ReadResult.delivered.injEq]
        exact slice_eq_iff _ _ ((Nat.min_le_left _ _).trans fewer)
      · simp [isStored]

/-- The index of a bevvy leads to the data of the very segment that `getSegment` opens. What is
fetched for a point is what the stream of the segment delivers exactly when `FetchFits`. -/
theorem fetch_agrees_iff {container : ZipContainer} {resource : Bytes} {bevvyID : U32}
    {entry : ZipEntry}
    (entryFound : container.getSegmentEntry (resource ++ text "/" ++ bevvyText bevvyID) =
      some entry) (heap decompbuffer : Nat → UInt8) (point : ImageStreamPoint) :
    container.getSegment (resource ++ text "/" ++ bevvyText bevvyID) = some entry ∧
      (SegmentDelivers container entry point (fetchPoint container.file
          (BevvyIndex.create container resource bevvyID heap decompbuffer).dataChunkOffset point) ↔
        FetchFits container entry point) := by
  have dataOffset : (BevvyIndex.create container resource bevvyID heap
      decompbuffer).dataChunkOffset = entry.offset := by
    unfold BevvyIndex.create
    simp only [entryFound]
    split
    · rfl
    · split <;> rfl
  refine ⟨entryFound, ?_⟩
  rw [dataOffset]
  exact segmentDelivers_iff container entry point

theorem fetch_agrees_iff_smallImage :
    let point : ImageStreamPoint := ⟨4, 2⟩
    ∃ entry, smallContainer.getSegment (text "aff4://s" ++ text "/" ++ bevvyText 0) = some entry ∧
      (SegmentDelivers smallContainer entry point (fetchPoint smallContainer.file
          (BevvyIndex.create smallContainer (text "aff4://s") 0 (fun _ => 0)
            (fun _ => 0)).dataChunkOffset point) ↔
        FetchFits smallContainer entry point) :=
  ⟨⟨text "aff4%3A%2F%2Fs/00000000", 0, 0, 6, 6, stored⟩,
    fetch_agrees_iff rfl (fun _ => 0) (fun _ => 0) ⟨4, 2⟩⟩

/-- The second point of the bevvy reaches into the index, which is the next segment. -/
def outsideContainer : ZipContainer where
  file := {
    content := [1, 2, 3, 4, 5, 6] ++ ImageStreamPoint.toBytes ⟨0, 4⟩ ++
      ImageStreamPoint.toBytes ⟨4, 8⟩
    small := by decide }
  entries := smallContainer.entries
  resourceID := smallContainer.resourceID
  inflate := smallContainer.inflate

theorem point_reads_next_segment :
    let index := BevvyIndex.create outsideContainer (text "aff4://s") 0 (fun _ => 0) (fun _ => 0)
    let point := index.getPoint 1
    ∃ entry, outsideContainer.getSegment (text "aff4://s" ++ text "/" ++ bevvyText 0) =
        some entry ∧ point = ⟨4, 8⟩ ∧ SegmentDelivers outsideContainer entry point [5, 6] ∧
      fetchPoint outsideContainer.file index.dataChunkOffset point = [5, 6, 0, 0, 0, 0, 0, 0] ∧
      ¬ SegmentDelivers outsideContainer entry point
        (fetchPoint outsideContainer.file index.dataChunkOffset point) := by
  have delivers : SegmentDelivers outsideContainer
      ⟨text "aff4%3A%2F%2Fs/00000000", 0, 0, 6, 6, stored⟩ ⟨4, 8⟩ [5, 6] := by
    intro decompbuffer
    rfl
  refine ⟨⟨text "aff4%3A%2F%2Fs/00000000", 0, 0, 6, 6, stored⟩, rfl, rfl, delivers, rfl, ?_⟩
  intro fetched
  cases (delivers fun _ => 0).symm.trans (fetched fun _ => 0)

end Aff4Lite.Stream
