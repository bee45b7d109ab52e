import Aff4Lite.Stream.ImageStream
import Aff4Lite.Stream.MapSegment

/-!
# The truncation of a request

`Zip::fileRead`, `ZipSegmentStream::read`, `ImageStream::read` and `MapStream::read` cut a
request at the end of what they read with the same few lines, over modular sums. Each read
is the transfer of the count that these lines leave.
-/

set_option autoImplicit false

namespace Aff4Lite

open Lib

namespace Stream

/-- The early return behind the end, and the truncation. -/
def clampCount (size offset count : U64) : U64 :=
  if offset > size then 0 else truncateCount size offset count

/-- A request cut where the stream ends. -/
structure Clamps (size offset count left : U64) : Prop where
  behind : offset > size → left = 0
  inside : offset ≤ size → left.toNat = min count.toNat (size.toNat - offset.toNat)
  within : left = 0 ∨ offset.toNat + left.toNat ≤ size.toNat

private theorem clampCount_behind {size offset count : U64} (behind : offset > size) :
    clampCount size offset count = 0 := if_pos behind

private theorem clampCount_inside {size offset count : U64} (inside : ¬offset > size) :
    clampCount size offset count = truncateCount size offset count := if_neg inside

/-- The truncation is right unless the end of the request is beyond the last 64-bit position. -/
theorem clampCount_iff (size offset count : U64) :
    Clamps size offset count (clampCount size offset count) ↔
      offset > size ∨ offset.toNat + count.toNat < 2 ^ 64 := by
  by_cases behind : offset > size
  · have nothing : clampCount size offset count = 0 := clampCount_behind behind
    refine ⟨fun _ => .inl behind, fun _ => ⟨fun _ => nothing, ?_, .inl nothing⟩⟩
    intro inside
    exact absurd behind (by bv_omega)
  · have inside : offset ≤ size := by bv_omega
    rw [clampCount_inside behind]
    constructor
    · intro clamps
      -- a sum that wraps is below `offset`, so nothing is cut off
      have exactly := clamps.inside inside
      by_contra neither
      have wraps : 2 ^ 64 ≤ offset.toNat + count.toNat := by omega
      have whole : truncateCount size offset count = count := by
        rw [truncateCount, if_neg (by bv_omega)]
      rw [whole] at exactly
      bv_omega
    · intro either
      have noOverflow := either.resolve_left behind
      have left := toNat_truncateCount inside noOverflow
      exact ⟨fun beyond => absurd beyond behind, fun _ => left, .inr (by bv_omega)⟩

end Stream

/-! ## The counts that the four reads leave -/

namespace Zip

open Aff4Lite.Stream

def fileReadCount (file : File) (count offset : U64) : U64 :=
  if count = 0 then 0 else clampCount file.length offset count

private theorem fileReadCount_eq (file : File) (count offset : U64) :
    fileReadCount file count offset = clampCount file.length offset count := by
  by_cases nothing : count = 0
  · subst nothing
    rw [fileReadCount, if_pos rfl, clampCount]
    split
    · rfl
    · unfold truncateCount
      split <;> bv_omega
  · exact if_neg nothing

private theorem File.pread64_zero (file : File) (offset : U64) :
    file.pread64 0 offset = .delivered [] := by
  rw [pread64, if_pos (by decide)]
  exact congrArg _ (slice_zero _ _)

private theorem fileRead_count (file : File) (count offset : U64) :
    fileRead file count offset = file.pread64 (fileReadCount file count offset) offset := by
  unfold fileRead fileReadCount clampCount
  split
  · exact (file.pread64_zero offset).symm
  · split
    · exact (file.pread64_zero offset).symm
    · rfl

def segmentReadCount (entry : ZipEntry) (count offset : U64) : U64 :=
  clampCount entry.length offset count

theorem readSegment_count (inflate : Bytes → Nat → Option Bytes) (file : File) (entry : ZipEntry)
    (decompbuffer : Nat → UInt8) (count offset : U64) :
    readSegment inflate file entry decompbuffer count offset =
      if offset > entry.length then .delivered []
      else if entry.compressionMethod = deflate then
        readCompressed inflate file entry decompbuffer (segmentReadCount entry count offset) offset
      else if entry.compressionMethod ≠ stored then .failed
      else fileRead file (segmentReadCount entry count offset) (offset + entry.offset) := by
  unfold readSegment
  split
  · rfl
  · rename_i inside
    rw [segmentReadCount, clampCount_inside inside]

end Zip

namespace Stream

open Zip

def ImageStream.readCount (stream : ImageStream) (count offset : U64) : U64 :=
  clampCount stream.length offset count

theorem ImageStream.read_count (stream : ImageStream) (heap : Nat → Nat → UInt8)
    (memory : Buffer) (count offset : U64) (caches : ImageState) (fuel : Nat) :
    stream.read heap memory count offset caches (fuel + 1) =
      if stream.closed then some (some ⟨-1, memory, caches⟩)
      else Loop.run (stream.readTurn heap) (fuel + 1)
        ⟨stream.readCount count offset, 0, offset, 0, memory, caches⟩ := by
  unfold ImageStream.read readCount
  split
  · rfl
  · by_cases behind : offset > stream.length
    · rw [if_pos behind, clampCount_behind behind]
      refine (Loop.run_done ?_ fuel).symm
      rw [ImageStream.readTurn, if_neg (BitVec.lt_irrefl 0)]
      rfl
    · rw [if_neg behind, clampCount_inside behind]

def MapStream.readCount {Lower : Type} (stream : MapStream Lower) (count offset : U64) : U64 :=
  clampCount stream.size offset count

theorem MapStream.read_count {Lower World : Type} (stream : MapStream Lower)
    (reader : StreamReader Lower World) (memory : Buffer) (count offset : U64) (world : World) :
    stream.read reader memory count offset world =
      if stream.closed then some (.ok ⟨-1, memory, world, []⟩)
      else Loop.run (stream.readTurn reader) ((stream.readCount count offset).toNat + 1)
        ⟨stream.readCount count offset, 0, offset, 0, memory, world, []⟩ := by
  unfold MapStream.read readCount
  split
  · rfl
  · by_cases behind : offset > stream.size
    · rw [if_pos behind, clampCount_behind behind]
      refine (Loop.run_done ?_ _).symm
      rw [MapStream.readTurn, if_pos rfl]
      rfl
    · rw [if_neg behind, clampCount_inside behind]

/-- The four reads transfer what their truncation leaves, and it leaves what it should
exactly when the request ends behind no 64-bit position. -/
theorem reads_clamp_iff {Lower World : Type} (file : File) (entry : ZipEntry) (image : ImageStream)
    (map : MapStream Lower) (count offset : U64) :
    (fileRead file count offset = file.pread64 (fileReadCount file count offset) offset ∧
      (Clamps file.length offset count (fileReadCount file count offset) ↔
        offset > file.length ∨ offset.toNat + count.toNat < 2 ^ 64)) ∧
    ((∀ inflate decompbuffer, readSegment inflate file entry decompbuffer count offset =
        if offset > entry.length then .delivered []
        else if entry.compressionMethod = deflate then
          readCompressed inflate file entry decompbuffer (segmentReadCount entry count offset)
            offset
        else if entry.compressionMethod ≠ stored then .failed
        else fileRead file (segmentReadCount entry count offset) (offset + entry.offset)) ∧
      (Clamps entry.length offset count (segmentReadCount entry count offset) ↔
        offset > entry.length ∨ offset.toNat + count.toNat < 2 ^ 64)) ∧
    ((∀ heap memory caches fuel, image.read heap memory count offset caches (fuel + 1) =
        if image.closed then some (some ⟨-1, memory, caches⟩)
        else Loop.run (image.readTurn heap) (fuel + 1)
          ⟨image.readCount count offset, 0, offset, 0, memory, caches⟩) ∧
      (Clamps image.length offset count (image.readCount count offset) ↔
        offset > image.length ∨ offset.toNat + count.toNat < 2 ^ 64)) ∧
    ((∀ (reader : StreamReader Lower World) (memory : Buffer) (world : World),
        map.read reader memory count offset world =
        if map.closed then some (.ok ⟨-1, memory, world, []⟩)
        else Loop.run (map.readTurn reader) ((map.readCount count offset).toNat + 1)
          ⟨map.readCount count offset, 0, offset, 0, memory, world, []⟩) ∧
      (Clamps map.size offset count (map.readCount count offset) ↔
        offset > map.size ∨ offset.toNat + count.toNat < 2 ^ 64)) := by
  refine ⟨⟨fileRead_count file count offset, ?_⟩, ⟨?_, clampCount_iff _ _ _⟩,
    ⟨?_, clampCount_iff _ _ _⟩, ⟨?_, clampCount_iff _ _ _⟩⟩
  · rw [fileReadCount_eq]
    exact clampCount_iff _ _ _
  · exact fun inflate decompbuffer => readSegment_count inflate file entry decompbuffer count offset
  · exact fun heap memory caches fuel => image.read_count heap memory count offset caches fuel
  · exact fun reader memory world => map.read_count reader memory count offset world

def wholeSpace : List MapEntryPoint := [⟨0, -1, 0, 0⟩]

/-- One byte is left behind the last but one position, and two are asked for: the sum wraps,
both are tried, and the read fails. -/
theorem wrapped_request_not_clamped :
    ∃ stream, MapStream.create (Parent.ofRecords twoLines wholeSpace (by decide)) [] 0 none
        (some (text "gap")) .insertion (fun _ => 0) = .ok stream ∧ stream.size = -1 ∧
      stream.readCount 2 (-2) = 2 ∧
      ¬Clamps stream.size (-2) 2 (stream.readCount 2 (-2)) ∧
      ∃ result, stream.read (.ofContent fun _ _ => 7) ⟨fun _ => 0, 2, by decide⟩ 2 (-2) () =
        some (.ok result) ∧ result.res = -1 := by
  have nonempty : (buildMap lexiconUnknown ((nonEmptyLines twoLines.bytes).map some)
      (some (text "gap")) (PointSort.insertion.sort wholeSpace)).size 0 ≠ 0 := by decide
  refine ⟨_, create_ofRecords (List.cons_ne_nil _ _) (fun _ => 0) rfl nonempty, rfl, rfl, ?_, _,
    rfl, rfl⟩
  intro clamps
  exact absurd (clamps.inside (by decide)) (by decide)

end Stream

end Aff4Lite
