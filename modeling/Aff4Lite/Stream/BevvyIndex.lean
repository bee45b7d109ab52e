import Aff4Lite.Containers.ZipContainer
import Aff4Lite.Lib.Strings

/-!
# `aff4::stream::structs::BevvyIndex`

The index of one bevvy of an image stream, read from its segment when it is constructed.
-/

set_option autoImplicit false

namespace Aff4Lite.Stream

open Lib Zip Containers

structure ImageStreamPoint where
  offset : U64
  length : U32
  deriving DecidableEq, Repr

namespace ImageStreamPoint

def sizeof : Nat := 12

def widths : List Nat := [8, 4]

def values (point : ImageStreamPoint) : List Nat := [point.offset.toNat, point.length.toNat]

def toBytes (point : ImageStreamPoint) : Bytes := pack widths point.values

def ofBytes (bytes : Bytes) : ImageStreamPoint where
  offset := wordAt 64 0 bytes
  length := wordAt 32 8 bytes

@[simp] theorem length_toBytes (point : ImageStreamPoint) : point.toBytes.length = sizeof :=
  length_pack rfl

theorem ofBytes_append (point : ImageStreamPoint) (rest : Bytes) :
    ofBytes (point.toBytes ++ rest) = point := by
  unfold ofBytes toBytes
  rw [wordAt_pack widths point.values 0 0 point.offset (by decide) rfl,
    wordAt_pack widths point.values 1 8 point.length (by decide) rfl]

end ImageStreamPoint

/-- `std::snprintf(buf, 9, "%08" PRIu32, bevvyID)` keeps 8 characters. -/
def bevvyText (bevvyID : U32) : Bytes := (padded 8 bevvyID.toNat).take 8

theorem bevvyText_of_lt {bevvyID : U32} (small : bevvyID.toNat < 10 ^ 8) :
    bevvyText bevvyID = padded 8 bevvyID.toNat := by
  have digits := (Nat.length_toDigits_le_iff (by decide : 1 < 10) (by decide : 0 < 8)).mpr small
  unfold bevvyText padded
  rw [List.take_of_length_le]
  rw [List.length_map, List.length_leftpad]
  omega

structure BevvyIndex where
  bevvyID : U32
  dataChunkOffset : U64
  size : U64
  buffer : Option (Nat → UInt8)

namespace BevvyIndex

/-- The members after the constructor. The fresh `buffer` is `heap`. It has room for whole points
only; `overruns` says when the segment is written behind it. -/
def create (container : ZipContainer) (resource : Bytes) (bevvyID : U32)
    (heap decompbuffer : Nat → UInt8) : BevvyIndex :=
  let segmentName := resource ++ text "/" ++ bevvyText bevvyID
  match container.getSegmentEntry segmentName with
  | none => ⟨bevvyID, 0, 0, none⟩
  | some zipEntry =>
      match container.getSegment (segmentName ++ text ".index") with
      | none => ⟨bevvyID, zipEntry.offset, 0, none⟩
      | some stream =>
          if stream.length > 0 then
            let read := readSegment container.inflate container.file stream decompbuffer
              stream.length 0
            ⟨bevvyID, zipEntry.offset, stream.length / BitVec.ofNat 64 ImageStreamPoint.sizeof,
              some (store heap 0 read.bytes)⟩
          else ⟨bevvyID, zipEntry.offset, 0, none⟩

/-- The constructor reads the segment into `stream.length / 12` points, and gets more bytes. -/
def overruns (container : ZipContainer) (resource : Bytes) (bevvyID : U32)
    (decompbuffer : Nat → UInt8) : Bool :=
  let segmentName := resource ++ text "/" ++ bevvyText bevvyID
  match container.getSegmentEntry segmentName with
  | none => false
  | some _ =>
      match container.getSegment (segmentName ++ text ".index") with
      | none => false
      | some stream =>
          ImageStreamPoint.sizeof * (stream.length.toNat / ImageStreamPoint.sizeof) <
            (readSegment container.inflate container.file stream decompbuffer
              stream.length 0).bytes.length

def getPoint (index : BevvyIndex) (offset : U32) : ImageStreamPoint :=
  match index.buffer with
  | none => ⟨0, 0⟩
  | some buffer =>
      if offset.setWidth 64 ≥ index.size then ⟨0, 0⟩
      else
        .ofBytes (firstCells
          (fun position => buffer (ImageStreamPoint.sizeof * offset.toNat + position))
          ImageStreamPoint.sizeof)

/-! ## Properties -/

theorem create_found {container : ZipContainer} {resource : Bytes} {bevvyID : U32}
    {heap decompbuffer : Nat → UInt8} {zipEntry stream : ZipEntry}
    (entryFound : container.getSegmentEntry (resource ++ text "/" ++ bevvyText bevvyID) =
      some zipEntry)
    (streamFound : container.getSegment (resource ++ text "/" ++ bevvyText bevvyID ++
      text ".index") = some stream) (nonzero : stream.length > 0) :
    create container resource bevvyID heap decompbuffer =
      ⟨bevvyID, zipEntry.offset, stream.length / BitVec.ofNat 64 ImageStreamPoint.sizeof,
        some (store heap 0 (readSegment container.inflate container.file stream decompbuffer
          stream.length 0).bytes)⟩ := by
  unfold create
  dsimp only
  rw [entryFound]
  dsimp only
  rw [streamFound]
  exact if_pos nonzero

theorem overruns_found {container : ZipContainer} {resource : Bytes} {bevvyID : U32}
    {decompbuffer : Nat → UInt8} {zipEntry stream : ZipEntry}
    (entryFound : container.getSegmentEntry (resource ++ text "/" ++ bevvyText bevvyID) =
      some zipEntry)
    (streamFound : container.getSegment (resource ++ text "/" ++ bevvyText bevvyID ++
      text ".index") = some stream) :
    overruns container resource bevvyID decompbuffer = true ↔
      ImageStreamPoint.sizeof * (stream.length.toNat / ImageStreamPoint.sizeof) <
        (readSegment container.inflate container.file stream decompbuffer
          stream.length 0).bytes.length := by
  unfold overruns
  dsimp only
  rw [entryFound]
  dsimp only
  rw [streamFound]
  exact decide_eq_true_iff

theorem getPoint_of_partAt {bevvyID : U32} {dataOffset size : U64}
    {heap : Nat → UInt8} {bytes : Bytes} {point : ImageStreamPoint} {chunkID : U32}
    (stands : PartAt bytes (ImageStreamPoint.sizeof * chunkID.toNat) point.toBytes)
    (below : chunkID.toNat < size.toNat) :
    getPoint ⟨bevvyID, dataOffset, size, some (store heap 0 bytes)⟩ chunkID = point := by
  have inside := stands.inside (List.ne_nil_of_length_pos (by
    rw [ImageStreamPoint.length_toBytes]
    decide))
  have wide := toNat_widen chunkID (by decide : 32 ≤ 64)
  have decoded := point.ofBytes_append []
  rw [List.append_nil] at decoded
  unfold PartAt at stands
  rw [ImageStreamPoint.length_toBytes] at stands inside
  unfold getPoint firstCells
  dsimp only
  rw [if_neg (by bv_omega), map_store _ inside, stands, decoded]

end BevvyIndex

end Aff4Lite.Stream
