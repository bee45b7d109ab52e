import Aff4Lite.Zip.ZipProperties

/-!
# `aff4::stream::ZipSegmentStream`

`Zip::getStream` and the read of an open segment. zlib is a parameter: `inflate input
room` is what `inflate(.., Z_FINISH)` writes when it reports the end of the stream.
-/

set_option autoImplicit false

namespace Aff4Lite.Zip

open Lib

def stored : U16 := 0

def deflate : U16 := 8

/-- `ZIP_WHOLE_STREAM` -/
def wholeStream : U64 := 33554432

/-- `Zip::getStream`, as the entry behind the stream. -/
def getStream (entries : List ZipEntry) (segmentName : Bytes) : Option ZipEntry :=
  entries.find? fun entry => entry.segmentName = segmentName

section Segment

variable (inflate : Bytes → Nat → Option Bytes) (file : File)

/-- `ZipSegmentStream::readCompressed`. The fresh output buffer is `decompbuffer`. -/
def readCompressed (entry : ZipEntry) (decompbuffer : Nat → UInt8) (count offset : U64) :
    Stream.ReadResult :=
  if entry.length ≤ wholeStream then
    match fileRead file entry.compressedLength entry.offset with
    | .failed => .failed
    | .delivered read =>
        match inflate read entry.length.toNat with
        | none => .failed
        | some output =>
            .delivered (firstCells
              (fun index => store decompbuffer 0 output (offset.toNat + index)) count.toNat)
  else .failed

/-- `ZipSegmentStream::read`, before `close`. -/
def readSegment (entry : ZipEntry) (decompbuffer : Nat → UInt8) (count offset : U64) :
    Stream.ReadResult :=
  if offset > entry.length then .delivered []
  else
    let count := Stream.truncateCount entry.length offset count
    if entry.compressionMethod = deflate then
      readCompressed inflate file entry decompbuffer count offset
    else if entry.compressionMethod ≠ stored then .failed
    else fileRead file count (offset + entry.offset)

end Segment

/-- A stored segment is read from the file, up to one transfer. -/
theorem readSegment_stored (inflate : Bytes → Nat → Option Bytes) (file : File) {entry : ZipEntry}
    (method : entry.compressionMethod = stored) (decompbuffer : Nat → UInt8) :
    readSegment inflate file entry decompbuffer entry.length 0 =
      fileRead file entry.length entry.offset := by
  have count : Stream.truncateCount entry.length 0 entry.length = entry.length := by
    unfold Stream.truncateCount
    rw [if_neg (by bv_omega)]
  have position : 0 + entry.offset = entry.offset := by bv_omega
  unfold readSegment
  rw [if_neg (by bv_omega), count]
  dsimp only
  rw [method, if_neg (by decide), if_neg (not_not_intro rfl), position]

theorem readCompressed_inflated {inflate : Bytes → Nat → Option Bytes} {file : File}
    {entry : ZipEntry} {read output : Bytes} (small : entry.length ≤ wholeStream)
    (raw : fileRead file entry.compressedLength entry.offset = .delivered read)
    (inflates : inflate read entry.length.toNat = some output) (decompbuffer : Nat → UInt8)
    (count offset : U64) :
    readCompressed inflate file entry decompbuffer count offset =
      .delivered (firstCells
        (fun index => store decompbuffer 0 output (offset.toNat + index)) count.toNat) := by
  unfold readCompressed
  rw [if_pos small, raw]
  dsimp only
  rw [inflates]

private theorem length_readCompressed_le (inflate : Bytes → Nat → Option Bytes) (file : File)
    (entry : ZipEntry) (decompbuffer : Nat → UInt8) (count offset : U64) :
    (readCompressed inflate file entry decompbuffer count offset).bytes.length ≤ count.toNat := by
  unfold readCompressed
  split
  · cases fileRead file entry.compressedLength entry.offset with
    | failed => exact Nat.zero_le _
    | delivered read =>
        dsimp only
        cases inflate read entry.length.toNat with
        | none => exact Nat.zero_le _
        | some output => exact (length_firstCells _ _).le
  · exact Nat.zero_le _

theorem length_readSegment_le (inflate : Bytes → Nat → Option Bytes) (file : File)
    (entry : ZipEntry) (decompbuffer : Nat → UInt8) :
    (readSegment inflate file entry decompbuffer entry.length 0).bytes.length ≤
      entry.length.toNat := by
  have count : Stream.truncateCount entry.length 0 entry.length = entry.length := by
    unfold Stream.truncateCount
    rw [if_neg (by bv_omega)]
  unfold readSegment
  rw [if_neg (by bv_omega), count]
  dsimp only
  split
  · exact length_readCompressed_le _ _ _ _ _ _
  · split
    · exact Nat.zero_le _
    · exact length_fileRead_le _ _ _

end Aff4Lite.Zip
