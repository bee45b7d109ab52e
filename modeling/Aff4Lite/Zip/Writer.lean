import Aff4Lite.Lib.Blocks
import Aff4Lite.Zip.Archive
import Aff4Lite.Zip.ZipStream

/-!
# Writing an archive

An archive as a writer lays it out: local headers and data one after the other, the
directory, the end record. `parseCD` lists the segments again, and every one of them reads
back as what was put in.
-/

set_option autoImplicit false

namespace Aff4Lite.Zip

open Lib

/-- A segment with the bytes that the archive holds for it. -/
structure PackedSegment (inflate : Bytes → Nat → Option Bytes) where
  name : Bytes
  content : Bytes
  method : U16
  packed : Bytes
  crc32 : U32
  nameShort : name.length < 2 ^ 16
  contentShort : content.length < 2 ^ 32
  packedShort : packed.length < 2 ^ 32
  packs : (method = stored ∧ packed = content) ∨
    (method = deflate ∧ inflate packed content.length = some content ∧
      content.length ≤ wholeStream.toNat ∧ packed.length ≤ maxTransfer)

namespace PackedSegment

variable {inflate : Bytes → Nat → Option Bytes}

def fileHeader (segment : PackedSegment inflate) : ZipFileHeader where
  magic := ZipFileHeader.defaultMagic
  version := 20
  flags := 0
  compression_method := segment.method
  lastmodtime := 0
  lastmoddate := 0
  crc32_cs := segment.crc32
  compress_size := BitVec.ofNat 32 segment.packed.length
  file_size := BitVec.ofNat 32 segment.content.length
  file_name_length := BitVec.ofNat 16 segment.name.length
  extra_field_len := 0

def localRecord (segment : PackedSegment inflate) : Bytes :=
  segment.fileHeader.toBytes ++ (segment.name ++ segment.packed)

theorem toNat_nameLength (segment : PackedSegment inflate) :
    (BitVec.ofNat 16 segment.name.length).toNat = segment.name.length := by
  rw [BitVec.toNat_ofNat, Nat.mod_eq_of_lt segment.nameShort]

/-- The entry of the directory for a segment whose local record starts at `start`. -/
def directoryEntry (segment : PackedSegment inflate) (start : Nat) : DirectoryEntry where
  header := {
    magic := CDFileHeader.defaultMagic
    version_made_by := 20
    version_needed := 20
    flags := 0
    compression_method := segment.method
    dostime := 0
    dosdate := 0
    crc32_cs := segment.crc32
    compress_size := BitVec.ofNat 32 segment.packed.length
    file_size := BitVec.ofNat 32 segment.content.length
    file_name_length := BitVec.ofNat 16 segment.name.length
    extra_field_len := 0
    file_comment_length := 0
    disk_number_start := 0
    internal_file_attr := 0
    external_file_attr := 0
    relative_offset_local_header := BitVec.ofNat 32 start }
  name := segment.name
  extra := []
  comment := []
  fileHeader := segment.fileHeader
  magic := rfl
  nameLength := segment.toNat_nameLength
  extraLength := rfl
  commentLength := rfl
  fileMagic := rfl

/-- What `parseCD` lists for the segment. -/
def entry (segment : PackedSegment inflate) (start : Nat) : ZipEntry where
  segmentName := segment.name
  headerOffset := BitVec.ofNat 64 start
  offset := BitVec.ofNat 64 (start + ZipFileHeader.sizeof + segment.name.length)
  length := BitVec.ofNat 64 segment.content.length
  compressedLength := BitVec.ofNat 64 segment.packed.length
  compressionMethod := segment.method

private theorem listed_directoryEntry (segment : PackedSegment inflate) {start : Nat}
    (small : start < 2 ^ 32) :
    (segment.directoryEntry start).listed (segment.directoryEntry start).values =
      segment.entry start := by
  have nameShort := segment.nameShort
  have contentShort := segment.contentShort
  have packedShort := segment.packedShort
  unfold DirectoryEntry.listed DirectoryEntry.values directoryEntry entry fileHeader
  dsimp only
  congr 1
  · bv_omega
  · unfold ZipFileHeader.sizeof
    bv_omega
  · bv_omega
  · bv_omega

end PackedSegment

/-! ## The layout -/

section Layout

variable {inflate : Bytes → Nat → Option Bytes}

def localRecords (segments : List (PackedSegment inflate)) : List Bytes :=
  segments.map PackedSegment.localRecord

def startOf (segments : List (PackedSegment inflate)) (index : Nat) : Nat :=
  blockStart (localRecords segments) index

def directoryEntries (segments : List (PackedSegment inflate)) : List DirectoryEntry :=
  segments.mapIdx fun index segment => segment.directoryEntry (startOf segments index)

def endRecord (segments : List (PackedSegment inflate)) (comment : Bytes) :
    EndCentralDirectory where
  magic := EndCentralDirectory.defaultMagic
  number_of_this_disk := 0
  disk_with_cd := 0
  total_entries_in_cd_on_disk := BitVec.ofNat 16 segments.length
  total_entries_in_cd := BitVec.ofNat 16 segments.length
  size_of_cd := BitVec.ofNat 32 ((directoryEntries segments).flatMap DirectoryEntry.bytes).length
  offset_of_cd := BitVec.ofNat 32 (localRecords segments).flatten.length
  comment_len := BitVec.ofNat 16 comment.length

def writeArchive (segments : List (PackedSegment inflate)) (comment : Bytes) : Bytes :=
  ((localRecords segments).flatten ++ (directoryEntries segments).flatMap DirectoryEntry.bytes) ++
    ((endRecord segments comment).toBytes ++ comment)

/-- The archive needs no Zip64 records, its comment ends inside the window that is searched for
the end record, and nothing behind that record looks like another one. -/
structure Writable (segments : List (PackedSegment inflate)) (comment : Bytes) : Prop where
  nonempty : segments ≠ []
  few : segments.length < 2 ^ 16
  small : (writeArchive segments comment).length < 2 ^ 32 - 1
  window : EndCentralDirectory.sizeof + comment.length < 4096
  last : ∀ later,
    (writeArchive segments comment).length < later + EndCentralDirectory.sizeof + comment.length →
      later + EndCentralDirectory.sizeof ≤ (writeArchive segments comment).length →
        ¬EndMagicAt (writeArchive segments comment) later
  distinct : (segments.map PackedSegment.name).Nodup

variable {segments : List (PackedSegment inflate)} {comment : Bytes}

def Writable.file (writable : Writable segments comment) : File where
  content := writeArchive segments comment
  small := lt_trans writable.small (by decide)

private theorem length_writeArchive (segments : List (PackedSegment inflate)) (comment : Bytes) :
    (writeArchive segments comment).length = (localRecords segments).flatten.length +
      ((directoryEntries segments).flatMap DirectoryEntry.bytes).length +
        (EndCentralDirectory.sizeof + comment.length) := by
  rw [writeArchive, List.length_append, List.length_append, List.length_append,
    EndCentralDirectory.length_toBytes]

variable (comment) in
private theorem localRecord_at {index : Nat} {segment : PackedSegment inflate}
    (found : segments[index]? = some segment) :
    PartAt (writeArchive segments comment) (startOf segments index) segment.localRecord ∧
      startOf segments index + segment.localRecord.length ≤
        (localRecords segments).flatten.length := by
  have block : (localRecords segments)[index]? = some segment.localRecord := by
    rw [localRecords, List.getElem?_map, found, Option.map_some]
  have inside := block_inside block
  have stands := (partAt_block block).append inside []
    ((directoryEntries segments).flatMap DirectoryEntry.bytes ++
      ((endRecord segments comment).toBytes ++ comment))
  rw [List.length_nil, Nat.zero_add, List.nil_append, ← List.append_assoc] at stands
  exact ⟨stands, inside⟩

theorem startOf_small (writable : Writable segments comment) {index : Nat}
    {segment : PackedSegment inflate} (found : segments[index]? = some segment) :
    startOf segments index + segment.localRecord.length < 2 ^ 32 - 1 := by
  have whole := length_writeArchive segments comment
  have inside := (localRecord_at comment found).2
  have small := writable.small
  omega

private theorem mem_directoryEntries {entry : DirectoryEntry}
    (member : entry ∈ directoryEntries segments) :
    ∃ (index : Nat) (segment : PackedSegment inflate), segments[index]? = some segment ∧
      entry = segment.directoryEntry (startOf segments index) := by
  obtain ⟨index, found⟩ := List.mem_iff_getElem?.mp member
  rw [directoryEntries, List.getElem?_mapIdx] at found
  obtain ⟨segment, isSegment, rfl⟩ := Option.map_eq_some_iff.mp found
  exact ⟨index, segment, isSegment, rfl⟩

theorem Writable.classical (writable : Writable segments comment) :
    writable.file.Classical (localRecords segments).flatten (directoryEntries segments)
      (endRecord segments comment) comment where
  ends := {
    content := rfl
    magic := rfl
    commentLength := by
      have window := writable.window
      unfold EndCentralDirectory.sizeof at window
      rw [endRecord, BitVec.toNat_ofNat, Nat.mod_eq_of_lt (by omega)]
    window := by
      have window := writable.window
      change (writeArchive segments comment).length < _
      rw [length_writeArchive, List.length_append]
      omega
    notFirst := by
      obtain ⟨first, rest, same⟩ := List.exists_cons_of_ne_nil writable.nonempty
      rw [same, localRecords, List.map_cons, List.flatten_cons, PackedSegment.localRecord,
        List.length_append, List.length_append, List.length_append, List.length_append,
        ZipFileHeader.length_toBytes]
      unfold ZipFileHeader.sizeof
      omega
    last := by
      intro later after within
      refine writable.last later ?_ within
      rw [length_writeArchive]
      rw [List.length_append] at after
      omega }
  count := by
    rw [endRecord, BitVec.toNat_ofNat, Nat.mod_eq_of_lt writable.few, directoryEntries,
      List.length_mapIdx]
  size := by
    have whole := length_writeArchive segments comment
    have small := writable.small
    rw [endRecord, BitVec.toNat_ofNat, Nat.mod_eq_of_lt (by omega)]
  start := by
    have whole := length_writeArchive segments comment
    have small := writable.small
    rw [endRecord, BitVec.toNat_ofNat, Nat.mod_eq_of_lt (by omega)]
  unsaturated := by
    have whole := length_writeArchive segments comment
    have small := writable.small
    unfold endRecord
    dsimp only
    bv_omega
  headers := by
    intro entry member
    obtain ⟨index, segment, found, rfl⟩ := mem_directoryEntries member
    have small := startOf_small writable found
    have header := (partAt_append.mp (localRecord_at comment found).1).1
    refine ⟨?_, ?_⟩
    · unfold PackedSegment.directoryEntry
      dsimp only
      bv_omega
    · have place : (segment.directoryEntry (startOf segments index)).values.headerOffset.toNat =
          startOf segments index := by
        unfold DirectoryEntry.values PackedSegment.directoryEntry
        dsimp only
        bv_omega
      unfold PartAt at header
      rw [ZipFileHeader.length_toBytes] at header
      rw [DirectoryEntry.LocalAt, place]
      exact header

theorem Writable.found (writable : Writable segments comment) :
    findDirectory writable.file (endRecord segments comment)
        (BitVec.ofNat 64 ((localRecords segments).flatten ++
          (directoryEntries segments).flatMap DirectoryEntry.bytes).length) =
      some ⟨(endRecord segments comment).offset_of_cd.setWidth 64,
        (endRecord segments comment).total_entries_in_cd.setWidth 64, 0⟩ := by
  have archive := writable.classical
  have start := archive.start
  have size := archive.size
  have whole := length_writeArchive segments comment
  have small := writable.small
  rw [findDirectory, if_pos archive.unsaturated, List.length_append]
  congr 2
  bv_omega

/-- What `parseCD` lists. -/
def listedEntries (segments : List (PackedSegment inflate)) : List ZipEntry :=
  segments.mapIdx fun index segment => segment.entry (startOf segments index)

theorem parseCD_writeArchive (writable : Writable segments comment) (heap : Nat → Nat → UInt8) :
    ParsesTo writable.file heap (.returned {
      entries := listedEntries segments
      comment := comment.takeWhile fun byte => byte ≠ 0
      errno := .zero }) := by
  have archive := writable.classical
  have entered := openDirectory_of_end archive.ends heap
  rw [enterDirectory, writable.found, archive.ends.readComment] at entered
  let values := (directoryEntries segments).map fun entry => (entry, entry.values)
  have same : values.flatMap (·.1.bytes) =
      (directoryEntries segments).flatMap DirectoryEntry.bytes := by
    rw [List.flatMap_map]
  have each : ∀ item ∈ values, ParseContext.Parses ⟨writable.file, heap,
      comment.takeWhile fun byte => byte ≠ 0,
        ⟨(endRecord segments comment).offset_of_cd.setWidth 64,
        (endRecord segments comment).total_entries_in_cd.setWidth 64, 0⟩⟩ item.1 item.2 := by
    intro item member
    obtain ⟨entry, isEntry, rfl⟩ := List.mem_map.mp member
    obtain ⟨unsaturated, stored⟩ := archive.headers entry isEntry
    exact parses_classical (not_saturated_widen unsaturated) stored
  have ran := run_entries values each
    (by rw [same, archive.ends.content, List.append_assoc])
    (by have start := archive.start; dsimp only; bv_omega)
    (by
      have count := archive.count
      rw [List.length_map]
      dsimp only
      rw [wide16]
      exact count.symm)
  have listed : values.map (fun item => item.1.listed item.2) = listedEntries segments := by
    rw [List.map_map, directoryEntries, listedEntries]
    apply List.ext_getElem?
    intro index
    rw [List.getElem?_map, List.getElem?_mapIdx, List.getElem?_mapIdx, Option.map_map]
    cases found : segments[index]? with
    | none => rfl
    | some segment =>
        have small := startOf_small writable found
        exact congrArg some (segment.listed_directoryEntry (by omega))
  rw [listed] at ran
  exact parsesTo_of_run entered ran

/-! ## Reading the segments back -/

theorem names_listed (segments : List (PackedSegment inflate)) :
    (listedEntries segments).map ZipEntry.segmentName = segments.map PackedSegment.name := by
  apply List.ext_getElem?
  intro index
  rw [listedEntries, List.getElem?_map, List.getElem?_mapIdx, List.getElem?_map, Option.map_map]
  rfl

/-- The segment of a name is the one that was packed under it. -/
theorem getStream_listed (distinct : (segments.map PackedSegment.name).Nodup) {index : Nat}
    {segment : PackedSegment inflate} (found : segments[index]? = some segment) :
    getStream (listedEntries segments) segment.name =
      some (segment.entry (startOf segments index)) := by
  have member : segment.entry (startOf segments index) ∈ listedEntries segments := by
    refine List.mem_iff_getElem?.mpr ⟨index, ?_⟩
    rw [listedEntries, List.getElem?_mapIdx, found, Option.map_some]
  exact @find?_of_nodup _ _ _ _ ZipEntry.segmentName 
    ((names_listed segments).symm ▸ distinct) _ member

variable (comment) in
theorem packed_at {index : Nat} {segment : PackedSegment inflate}
    (found : segments[index]? = some segment) :
    PartAt (writeArchive segments comment)
      (startOf segments index + ZipFileHeader.sizeof + segment.name.length) segment.packed := by
  have parts := (partAt_append.mp (localRecord_at comment found).1).2
  rw [ZipFileHeader.length_toBytes] at parts
  exact (partAt_append.mp parts).2

theorem toNat_entry (writable : Writable segments comment) {index : Nat}
    {segment : PackedSegment inflate} (found : segments[index]? = some segment) :
    (segment.entry (startOf segments index)).offset.toNat =
        startOf segments index + ZipFileHeader.sizeof + segment.name.length ∧
      (segment.entry (startOf segments index)).offset.toNat + segment.packed.length < 2 ^ 32 ∧
      (segment.entry (startOf segments index)).length.toNat = segment.content.length ∧
      (segment.entry (startOf segments index)).compressedLength.toNat = segment.packed.length := by
  have small := startOf_small writable found
  have contentShort := segment.contentShort
  have packedShort := segment.packedShort
  rw [PackedSegment.localRecord, List.length_append, List.length_append,
    ZipFileHeader.length_toBytes] at small
  unfold PackedSegment.entry ZipFileHeader.sizeof at *
  dsimp only
  bv_omega

/-- The most that one read of the segment returns. -/
def PackedSegment.transfer (segment : PackedSegment inflate) : Nat :=
  if segment.method = stored then maxTransfer else 2 ^ 64

/-- A read of a segment of a written archive returns the part of its content that was asked for,
as far as one transfer goes. -/
theorem readSegment_listed (writable : Writable segments comment) {index : Nat}
    {segment : PackedSegment inflate} (found : segments[index]? = some segment)
    (decompbuffer : Nat → UInt8) {count offset : U64}
    (noOverflow : offset.toNat + count.toNat < 2 ^ 64) :
    readSegment inflate writable.file (segment.entry (startOf segments index)) decompbuffer count
        offset =
      .delivered (slice segment.content offset.toNat (min count.toNat segment.transfer)) := by
  obtain ⟨start, inside, length, compressedLength⟩ := toNat_entry writable found
  have stands := packed_at comment found
  rw [← start] at stands
  unfold readSegment
  by_cases behind : offset > (segment.entry (startOf segments index)).length
  · rw [if_pos behind, slice_of_length_le (by bv_omega)]
  · have truncated : (Stream.truncateCount (segment.entry (startOf segments index)).length offset
        count).toNat = min count.toNat (segment.content.length - offset.toNat) := by
      rw [Stream.toNat_truncateCount (by bv_omega) noOverflow, length]
    have contentShort := segment.contentShort
    rw [if_neg behind]
    dsimp only
    generalize Stream.truncateCount _ offset count = asked at *
    rcases segment.packs with ⟨isStored, same⟩ | ⟨isDeflate, inflates, short, oneTransfer⟩
    · have method : (segment.entry (startOf segments index)).compressionMethod = stored := isStored
      have place : (offset + (segment.entry (startOf segments index)).offset).toNat =
          (segment.entry (startOf segments index)).offset.toNat + offset.toNat := by
        bv_omega
      rw [same] at stands
      have part : slice writable.file.content
          ((segment.entry (startOf segments index)).offset.toNat + offset.toNat)
          (min asked.toNat maxTransfer) =
            slice segment.content offset.toNat (min asked.toNat maxTransfer) :=
        stands.slice (by bv_omega)
      rw [method, if_neg (by decide), if_neg (not_not_intro rfl), PackedSegment.transfer,
        if_pos isStored, fileRead_slice writable.file (by omega), place, part, truncated,
        min_right_comm, slice_truncate]
    · have method : (segment.entry (startOf segments index)).compressionMethod = deflate :=
        isDeflate
      have raw : fileRead writable.file (segment.entry (startOf segments index)).compressedLength
          (segment.entry (startOf segments index)).offset = .delivered segment.packed := by
        rw [fileRead_eq_slice writable.file (by omega), compressedLength]
        exact congrArg _ stands
      have kept : min count.toNat segment.transfer = count.toNat := by
        rw [PackedSegment.transfer, if_neg (by rw [isDeflate]; decide)]
        exact Nat.min_eq_left (by omega)
      rw [method, if_pos rfl, readCompressed_inflated (by bv_omega) raw (by rwa [length]), kept,
        firstCells, map_store decompbuffer (by bv_omega), truncated, slice_truncate]

/-- One read for the whole segment returns its content. -/
theorem readSegment_whole (writable : Writable segments comment) {index : Nat}
    {segment : PackedSegment inflate} (found : segments[index]? = some segment)
    (short : segment.content.length ≤ segment.transfer) (decompbuffer : Nat → UInt8) :
    readSegment inflate writable.file (segment.entry (startOf segments index)) decompbuffer
        (segment.entry (startOf segments index)).length 0 = .delivered segment.content := by
  obtain ⟨_, _, length, _⟩ := toNat_entry writable found
  have noOverflow : (0 : U64).toNat + (segment.entry (startOf segments index)).length.toNat <
      2 ^ 64 := by
    bv_omega
  rw [readSegment_listed writable found decompbuffer noOverflow, length, Nat.min_eq_left short]
  exact congrArg Stream.ReadResult.delivered List.take_length

/-- No name but those of the segments leads to one. -/
theorem getStream_unlisted {name : Bytes} (unlisted : name ∉ segments.map PackedSegment.name) :
    getStream (listedEntries segments) name = none := by
  refine List.find?_eq_none.mpr ?_
  intro entry member same
  have named : entry.segmentName = name := by simpa using same
  have listed := List.mem_map_of_mem (f := ZipEntry.segmentName) member
  rw [names_listed, named] at listed
  exact unlisted listed

/-- An archive that was written is parsed without an error, lists its segments in order, and every
segment reads back as its content, stored or deflated. -/
theorem writeArchive_readBack (writable : Writable segments comment) (heap : Nat → Nat → UInt8) :
    ∃ entries,
      ParsesTo writable.file heap
          (.returned ⟨entries, comment.takeWhile fun byte => byte ≠ 0, .zero⟩) ∧
        entries.map ZipEntry.segmentName = segments.map PackedSegment.name ∧
        ∀ segment ∈ segments, ∃ entry, getStream entries segment.name = some entry ∧
          entry.length.toNat = segment.content.length ∧
          ∀ (decompbuffer : Nat → UInt8) (count offset : U64),
            offset.toNat + count.toNat < 2 ^ 64 →
              readSegment inflate writable.file entry decompbuffer count offset =
                .delivered (slice segment.content offset.toNat
                  (min count.toNat segment.transfer)) := by
  refine ⟨listedEntries segments, parseCD_writeArchive writable heap, names_listed segments, ?_⟩
  intro segment member
  obtain ⟨index, found⟩ := List.mem_iff_getElem?.mp member
  exact ⟨_, getStream_listed writable.distinct found, (toNat_entry writable found).2.2.1,
    fun decompbuffer count offset noOverflow =>
      readSegment_listed writable found decompbuffer noOverflow⟩

end Layout

/-- zlib, as far as one raw deflate stream goes. -/
def twelveInflate (input : Bytes) (room : Nat) : Option Bytes :=
  if input = [75, 76, 68, 0, 0] ∧ 12 ≤ room then some (List.replicate 12 0x61) else none

def twoSegments : List (PackedSegment twelveInflate) :=
  [⟨[0x61], List.replicate 12 0x61, deflate, [75, 76, 68, 0, 0], 0, by decide, by decide, by decide,
      .inr ⟨rfl, rfl, by decide, by decide⟩⟩,
    ⟨[0x62], [0x78, 0x79], stored, [0x78, 0x79], 0, by decide, by decide, by decide,
      .inl ⟨rfl, rfl⟩⟩]

private theorem twoSegments_writable : Writable twoSegments [0x63] where
  nonempty := List.cons_ne_nil _ _
  few := by decide
  small := by decide +kernel
  window := by decide
  last := by
    intro later after within
    have whole : (writeArchive twoSegments [0x63]).length = 186 := by decide +kernel
    have comment : ([0x63] : Bytes).length = 1 := rfl
    rw [whole, comment] at after
    rw [whole] at within
    unfold EndCentralDirectory.sizeof at after within
    obtain rfl : later = 164 := by omega
    decide +kernel
  distinct := by decide

theorem writeArchive_readBack_twoSegments :
    ∃ entries,
      ParsesTo twoSegments_writable.file (fun _ _ => 0) (.returned ⟨entries, [0x63], .zero⟩) ∧
        entries.map ZipEntry.segmentName = twoSegments.map PackedSegment.name ∧
        ∀ segment ∈ twoSegments, ∃ entry, getStream entries segment.name = some entry ∧
          entry.length.toNat = segment.content.length ∧
          ∀ (decompbuffer : Nat → UInt8) (count offset : U64),
            offset.toNat + count.toNat < 2 ^ 64 →
              readSegment twelveInflate twoSegments_writable.file entry decompbuffer count offset =
                .delivered (slice segment.content offset.toNat
                  (min count.toNat segment.transfer)) :=
  writeArchive_readBack twoSegments_writable fun _ _ => 0

end Aff4Lite.Zip
