import Aff4Lite.Zip.ZipProperties

/-!
Archives as lists of entries, and `parseCD` as the inverse of their encoding: the end
record is found where it was written, and each turn of the directory loop reads back one
entry of the directory.
-/

set_option autoImplicit false

namespace Aff4Lite.Zip

open Lib

/-- An entry of the central directory with the local header it points to. The lengths in
the directory header are those of the strings behind it. -/
structure DirectoryEntry where
  header : CDFileHeader
  name : Bytes
  extra : Bytes
  comment : Bytes
  fileHeader : ZipFileHeader
  magic : header.magic = CDFileHeader.defaultMagic
  nameLength : header.file_name_length.toNat = name.length
  extraLength : header.extra_field_len.toNat = extra.length
  commentLength : header.file_comment_length.toNat = comment.length
  fileMagic : fileHeader.magic = ZipFileHeader.defaultMagic

namespace DirectoryEntry

def bytes (entry : DirectoryEntry) : Bytes :=
  entry.header.toBytes ++ (entry.name ++ (entry.extra ++ entry.comment))

theorem length_bytes (entry : DirectoryEntry) :
    entry.bytes.length = CDFileHeader.sizeof + entry.header.file_name_length.toNat +
      entry.header.extra_field_len.toNat + entry.header.file_comment_length.toNat := by
  rw [entry.nameLength, entry.extraLength, entry.commentLength]
  simp [bytes, Nat.add_assoc]

def values (entry : DirectoryEntry) : Zip64Entry where
  size := entry.header.file_size.setWidth 64
  csize := entry.header.compress_size.setWidth 64
  headerOffset := entry.header.relative_offset_local_header.setWidth 64

/-- What the archive says of the entry, when its sizes and header offset are `values`. -/
def listed (entry : DirectoryEntry) (values : Zip64Entry) : ZipEntry where
  segmentName := entry.name
  headerOffset := values.headerOffset
  offset := values.headerOffset + (BitVec.ofNat 64 ZipFileHeader.sizeof +
    entry.fileHeader.file_name_length.setWidth 64 + entry.fileHeader.extra_field_len.setWidth 64)
  length := values.size
  compressedLength := values.csize
  compressionMethod := entry.header.compression_method

def LocalAt (entry : DirectoryEntry) (content : Bytes) (headerOffset : U64) : Prop :=
  slice content headerOffset.toNat ZipFileHeader.sizeof = entry.fileHeader.toBytes

end DirectoryEntry

theorem not_saturated_widen {value : U32} (unsaturated : value ≠ 0xffffffff) :
    saturated (value.setWidth 64) = false := by
  have wide := toNat_widen value (by decide : 32 ≤ 64)
  have small := value.isLt
  unfold saturated
  rw [decide_eq_false_iff_not]
  rintro (full | full) <;> bv_omega

def DirectoryState.after (state : DirectoryState) (entry : DirectoryEntry) (values : Zip64Entry) :
    DirectoryState where
  i := state.i + 1
  entryOffset := state.entryOffset + (BitVec.ofNat 64 CDFileHeader.sizeof +
    entry.header.file_name_length.setWidth 64 + entry.header.extra_field_len.setWidth 64 +
    entry.header.file_comment_length.setWidth 64)
  entries := state.entries ++ [entry.listed values]

/-! ## One entry -/

/-- The directory loop stands at `entry`. -/
structure ParseContext.StandsAt (context : ParseContext) (state : DirectoryState)
    (entry : DirectoryEntry) (before after : Bytes) : Prop where
  content : context.file.content = before ++ (entry.bytes ++ after)
  here : (context.position state).toNat = before.length
  more : state.i < context.directory.numberOfEntries

section Entry

variable {context : ParseContext} {state : DirectoryState} {entry : DirectoryEntry}
  {before after : Bytes}

private theorem ParseContext.StandsAt.next_position
    (stands : context.StandsAt state entry before after)
    (values : Zip64Entry) :
    (context.position (state.after entry values)).toNat = (before ++ entry.bytes).length := by
  have small := context.file.small
  have length := entry.length_bytes
  have here := stands.here
  have nameWide := wide16 entry.header.file_name_length
  have extraWide := wide16 entry.header.extra_field_len
  have commentWide := wide16 entry.header.file_comment_length
  rw [stands.content, List.length_append, List.length_append] at small
  rw [List.length_append]
  unfold ParseContext.position DirectoryState.after at *
  unfold CDFileHeader.sizeof at *
  dsimp only
  bv_omega

theorem directoryTurn_stands (stands : context.StandsAt state entry before after) :
    context.directoryTurn state =
      if saturated entry.values.headerOffset then
        .next (.extra ⟨state, entry.header, entry.name, entry.values⟩ 0)
      else context.finishEntry ⟨state, entry.header, entry.name, entry.values⟩ := by
  obtain ⟨content, here, more⟩ := stands
  have small := context.file.small
  have length := entry.length_bytes
  have headerLength := entry.header.length_toBytes
  rw [content, List.length_append, List.length_append] at small
  have header : slice context.file.content (context.position state).toNat CDFileHeader.sizeof =
      entry.header.toBytes := by
    rw [content, here, DirectoryEntry.bytes, List.append_assoc, ← headerLength]
    exact slice_middle before _ _
  have behind : (context.position state + BitVec.ofNat 64 CDFileHeader.sizeof).toNat =
      (before ++ entry.header.toBytes).length := by
    rw [List.length_append, headerLength]
    unfold CDFileHeader.sizeof at *
    bv_omega
  have name : context.readName state entry.header = entry.name := by
    unfold ParseContext.readName
    rw [fileRead_length16, Stream.ReadResult.bytes_delivered, behind, entry.nameLength, content,
      DirectoryEntry.bytes]
    have split : before ++ (entry.header.toBytes ++
        (entry.name ++ (entry.extra ++ entry.comment)) ++
        after) = (before ++ entry.header.toBytes) ++ (entry.name ++ (entry.extra ++
          (entry.comment ++ after))) := by
      simp only [List.append_assoc]
    rw [split, slice_middle, firstCells_store]
  rw [ParseContext.directoryTurn, if_neg (by bv_omega),
    readCDFileHeader_of_slice header entry.magic]
  dsimp only [ParseContext.pending]
  rw [name]
  rfl

theorem finishEntry_listed {pending : Pending} (header : pending.entry = entry.header)
    (name : pending.segmentName = entry.name)
    (stored : entry.LocalAt context.file.content pending.zipEntry.headerOffset) :
    context.finishEntry pending =
      .next (.directory (pending.outer.after entry pending.zipEntry)) := by
  rw [ParseContext.finishEntry, readZipFileHeader_of_slice stored entry.fileMagic]
  dsimp only
  rw [ParseContext.nextState, ParseContext.segment, header, name]
  rfl

end Entry

/-! ## All entries -/

/-- The loop gets past `entry`, wherever it stands at it, and lists it with `values`. -/
def ParseContext.Parses (context : ParseContext) (entry : DirectoryEntry) (values : Zip64Entry) :
    Prop :=
  ∀ state before after, context.StandsAt state entry before after →
    Loop.Reaches context.turn (.directory state) (.directory (state.after entry values))

theorem parses_classical {context : ParseContext} {entry : DirectoryEntry}
    (unsaturated : saturated entry.values.headerOffset = false)
    (stored : entry.LocalAt context.file.content entry.values.headerOffset) :
    context.Parses entry entry.values := by
  intro state before after stands
  have turned := directoryTurn_stands stands
  rw [unsaturated, if_neg Bool.false_ne_true, finishEntry_listed rfl rfl stored] at turned
  exact .step .refl turned

private theorem reaches_entries {context : ParseContext}
    (entries : List (DirectoryEntry × Zip64Entry))
    (each : ∀ item ∈ entries, context.Parses item.1 item.2) (state : DirectoryState)
    {before after : Bytes}
    (content : context.file.content = before ++ (entries.flatMap (·.1.bytes) ++ after))
    (here : (context.position state).toNat = before.length)
    (count : state.i.toNat + entries.length = context.directory.numberOfEntries.toNat) :
    ∃ last, Loop.Reaches context.turn (.directory state) (.directory last) ∧
      last.i = context.directory.numberOfEntries ∧
      last.entries = state.entries ++ entries.map fun item => item.1.listed item.2 := by
  induction entries generalizing state before with
  | nil =>
      refine ⟨state, .refl, ?_, by simp⟩
      apply BitVec.eq_of_toNat_eq
      simpa using count
  | cons item rest ih =>
      rw [List.flatMap_cons, List.append_assoc] at content
      rw [List.length_cons] at count
      have limit := context.directory.numberOfEntries.isLt
      have stands : context.StandsAt state item.1 before (rest.flatMap (·.1.bytes) ++ after) :=
        ⟨content, here, by bv_omega⟩
      have first := each item (by simp) state before _ stands
      have counted : (state.after item.1 item.2).i.toNat + rest.length =
          context.directory.numberOfEntries.toNat := by
        unfold DirectoryState.after
        dsimp only
        bv_omega
      rw [← List.append_assoc] at content
      obtain ⟨last, reached, all, entries⟩ :=
        ih (fun other member => each other (by simp [member])) _
        content (stands.next_position item.2) counted
      refine ⟨last, first.trans reached, all, ?_⟩
      rw [entries]
      simp [DirectoryState.after]

theorem run_entries {context : ParseContext} (entries : List (DirectoryEntry × Zip64Entry))
    (each : ∀ item ∈ entries, context.Parses item.1 item.2) {before after : Bytes}
    (content : context.file.content = before ++ (entries.flatMap (·.1.bytes) ++ after))
    (here : (context.directory.globalOffset + context.directory.offset).toNat = before.length)
    (count : entries.length = context.directory.numberOfEntries.toNat) :
    ∃ fuel, Loop.run context.turn fuel context.start =
      some ⟨entries.map fun item => item.1.listed item.2, context.comment, .zero⟩ := by
  obtain ⟨last, reached, all, listed⟩ := reaches_entries entries each
    ⟨0, context.directory.offset, []⟩ content here (by simpa using count)
  refine reached.run ?_
  rw [ParseContext.turn, ParseContext.directoryTurn, if_pos (by rw [all]; exact BitVec.le_refl _),
    listed]
  rfl

/-! ## The end record -/

/-- The file ends with an end record and its comment, behind `front`, where the scan for
the record finds it: inside the last 4096 bytes, not at the first byte of that window, and
with no signature at a later position that could start a record. -/
structure File.EndsWith (file : File) (front : Bytes) (endCD : EndCentralDirectory)
    (comment : Bytes) : Prop where
  content : file.content = front ++ (endCD.toBytes ++ comment)
  magic : endCD.magic = EndCentralDirectory.defaultMagic
  commentLength : endCD.comment_len.toNat = comment.length
  window : file.content.length < front.length + 4096
  notFirst : 0 < front.length
  last : ∀ later, front.length < later →
    later + EndCentralDirectory.sizeof ≤ file.content.length → ¬EndMagicAt file.content later

theorem wordAt_drop (bits : Nat) (bytes : Bytes) (start position : Nat) :
    wordAt bits position (bytes.drop start) = wordAt bits (start + position) bytes := by
  rw [wordAt, wordAt, List.drop_drop]

section EndRecord

variable {file : File} {front comment : Bytes} {endCD : EndCentralDirectory}

private theorem File.EndsWith.drop_front (ends : file.EndsWith front endCD comment) :
    file.content.drop front.length = endCD.toBytes ++ comment := by
  rw [ends.content, List.drop_left]

theorem File.EndsWith.length (ends : file.EndsWith front endCD comment) :
    file.content.length = front.length + (EndCentralDirectory.sizeof + comment.length) := by
  rw [ends.content, List.length_append, List.length_append, endCD.length_toBytes]

theorem File.EndsWith.scan (ends : file.EndsWith front endCD comment) :
    scanBack (file.content.drop (file.content.length - 4096))
        ((file.content.drop (file.content.length - 4096)).length - EndCentralDirectory.sizeof) =
      some (front.length - (file.content.length - 4096)) := by
  have length := ends.length
  have window := ends.window
  have notFirst := ends.notFirst
  unfold EndCentralDirectory.sizeof at *
  rw [scanBack_eq_some, List.length_drop]
  refine ⟨by omega, by omega, ?_, ?_⟩
  · unfold EndMagicAt
    rw [wordAt_drop, Nat.add_sub_cancel' (by omega)]
    have magic := (endMagic_drop file.content front.length).mp
      (by rw [ends.drop_front, EndCentralDirectory.ofBytes_append, ends.magic])
    exact magic
  · intro later after within
    unfold EndMagicAt
    rw [wordAt_drop]
    exact ends.last _ (by omega) (by unfold EndCentralDirectory.sizeof; omega)

theorem File.EndsWith.readComment (ends : file.EndsWith front endCD comment) :
    readComment file endCD (BitVec.ofNat 64 front.length) =
      comment.takeWhile fun byte => byte ≠ 0 := by
  have length := ends.length
  have small := file.small
  have behind : (BitVec.ofNat 64 front.length + BitVec.ofNat 64 EndCentralDirectory.sizeof).toNat =
      (front ++ endCD.toBytes).length := by
    rw [List.length_append, endCD.length_toBytes]
    unfold EndCentralDirectory.sizeof at *
    bv_omega
  unfold Zip.readComment
  split
  · have split : file.content = (front ++ endCD.toBytes) ++ (comment ++ []) := by
      rw [ends.content, List.append_nil, List.append_assoc]
    rw [fileRead_length16, Stream.ReadResult.bytes_delivered, behind, ends.commentLength, split,
      slice_middle]
  · rename_i absent
    have empty : comment = [] := List.length_eq_zero_iff.mp (by have := ends.commentLength; omega)
    rw [empty]
    rfl

theorem openDirectory_of_end (ends : file.EndsWith front endCD comment)
    (heap : Nat → Nat → UInt8) :
    openDirectory file heap =
      enterDirectory file heap endCD (BitVec.ofNat 64 front.length) := by
  have length := ends.length
  have window := ends.window
  have notFirst := ends.notFirst
  have found : (file.content.length - 4096) + (front.length - (file.content.length - 4096)) =
      front.length := by
    omega
  have long : EndCentralDirectory.sizeof <
      (file.content.drop (file.content.length - 4096)).length := by
    rw [List.length_drop]
    unfold EndCentralDirectory.sizeof at *
    omega
  rw [openDirectory_eq, scanBuffer, if_neg (by omega), if_neg (by omega), ends.scan]
  dsimp only
  rw [List.drop_drop, ← BitVec.ofNat_add, found, ends.drop_front,
    EndCentralDirectory.ofBytes_append]

end EndRecord

/-! ## Classical archives -/

/-- A classical archive: `locals`, with the local header of every entry where the entry
points, the directory, and an end record that describes it. -/
structure File.Classical (file : File) (locals : Bytes) (entries : List DirectoryEntry)
    (endCD : EndCentralDirectory) (comment : Bytes) : Prop where
  ends : file.EndsWith (locals ++ entries.flatMap DirectoryEntry.bytes) endCD comment
  count : endCD.total_entries_in_cd.toNat = entries.length
  size : endCD.size_of_cd.toNat = (entries.flatMap DirectoryEntry.bytes).length
  start : endCD.offset_of_cd.toNat = locals.length
  unsaturated : endCD.offset_of_cd ≠ 0xffffffff
  headers : ∀ entry ∈ entries, entry.header.relative_offset_local_header ≠ 0xffffffff ∧
    entry.LocalAt file.content entry.values.headerOffset

/-- `parseCD` gives back the entries of a classical archive, in order. -/
theorem parseCD_classical {file : File} {locals comment : Bytes} {entries : List DirectoryEntry}
    {endCD : EndCentralDirectory} (archive : file.Classical locals entries endCD comment)
    (heap : Nat → Nat → UInt8) :
    ParsesTo file heap (.returned {
      entries := entries.map fun entry => entry.listed entry.values
      comment := comment.takeWhile fun byte => byte ≠ 0
      errno := .zero }) := by
  have length := archive.ends.length
  have small := file.small
  rw [List.length_append] at length
  have found : findDirectory file endCD
      (BitVec.ofNat 64 (locals ++ entries.flatMap DirectoryEntry.bytes).length) =
        some ⟨endCD.offset_of_cd.setWidth 64, endCD.total_entries_in_cd.setWidth 64, 0⟩ := by
    have start := archive.start
    have size := archive.size
    rw [findDirectory, if_pos archive.unsaturated, List.length_append]
    congr 2
    bv_omega
  have entered := openDirectory_of_end archive.ends heap
  rw [enterDirectory, found, archive.ends.readComment] at entered
  let values := entries.map fun entry => (entry, entry.values)
  have same : values.flatMap (·.1.bytes) = entries.flatMap DirectoryEntry.bytes := by
    rw [List.flatMap_map]
  have each : ∀ item ∈ values, ParseContext.Parses
      ⟨file, heap, comment.takeWhile fun byte => byte ≠ 0,
      ⟨endCD.offset_of_cd.setWidth 64, endCD.total_entries_in_cd.setWidth 64, 0⟩⟩ item.1
        item.2 := by
    intro item member
    obtain ⟨entry, listed, rfl⟩ := List.mem_map.mp member
    obtain ⟨unsaturated, stored⟩ := archive.headers entry listed
    refine parses_classical ?_ stored
    exact not_saturated_widen unsaturated
  have ran := run_entries values each (by rw [same, archive.ends.content, List.append_assoc])
    (by have start := archive.start; dsimp only; bv_omega)
    (by
      have count := archive.count
      rw [List.length_map]
      dsimp only
      rw [wide16]
      exact count.symm)
  have listed : values.map (fun item => item.1.listed item.2) =
      entries.map fun entry => entry.listed entry.values := by
    rw [List.map_map]
    rfl
  rw [listed] at ran
  exact parsesTo_of_run entered ran

/-! ## An archive of one segment -/

def segmentA : DirectoryEntry where
  header := {
    magic := CDFileHeader.defaultMagic, version_made_by := 20, version_needed := 20, flags := 0
    compression_method := 0, dostime := 0, dosdate := 0, crc32_cs := 0, compress_size := 1
    file_size := 1, file_name_length := 1, extra_field_len := 0, file_comment_length := 0
    disk_number_start := 0, internal_file_attr := 0, external_file_attr := 0
    relative_offset_local_header := 0 }
  name := [0x61]
  extra := []
  comment := []
  fileHeader := {
    magic := ZipFileHeader.defaultMagic, version := 20, flags := 0, compression_method := 0
    lastmodtime := 0, lastmoddate := 0, crc32_cs := 0, compress_size := 1, file_size := 1
    file_name_length := 1, extra_field_len := 2 }
  magic := rfl
  nameLength := rfl
  extraLength := rfl
  commentLength := rfl
  fileMagic := rfl

def localA : Bytes := segmentA.fileHeader.toBytes ++ [0x61, 0, 0, 0x78]

def endA : EndCentralDirectory where
  magic := EndCentralDirectory.defaultMagic
  number_of_this_disk := 0
  disk_with_cd := 0
  total_entries_in_cd_on_disk := 1
  total_entries_in_cd := 1
  size_of_cd := 47
  offset_of_cd := 34
  comment_len := 1

def archiveA : File where
  content := localA ++ segmentA.bytes ++ (endA.toBytes ++ [0x63])
  small := by decide +kernel

private theorem archiveA_classical : archiveA.Classical localA [segmentA] endA [0x63] where
  ends := {
    content := rfl
    magic := rfl
    commentLength := rfl
    window := by decide +kernel
    notFirst := by decide +kernel
    last := by
      intro later after within
      have whole : archiveA.content.length = 104 := by decide +kernel
      have front : (localA ++ [segmentA].flatMap DirectoryEntry.bytes).length = 81 := by
        decide +kernel
      unfold EndCentralDirectory.sizeof at within
      obtain rfl : later = 82 := by omega
      decide +kernel }
  count := rfl
  size := by decide +kernel
  start := by decide +kernel
  unsaturated := by decide
  headers := by
    intro entry member
    obtain rfl := List.mem_singleton.mp member
    exact ⟨by decide, by unfold DirectoryEntry.LocalAt; decide +kernel⟩

theorem parseCD_archiveA : ParsesTo archiveA (fun _ _ => 0) (.returned {
    entries := [⟨[0x61], 0, 33, 1, 1, 0⟩]
    comment := [0x63]
    errno := .zero }) :=
  parseCD_classical archiveA_classical fun _ _ => 0

end Aff4Lite.Zip
