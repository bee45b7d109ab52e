import Aff4Lite.Lib.Loop
import Aff4Lite.Stream.Interface
import Aff4Lite.Zip.Structs

/-!
# `aff4::zip::Zip`

`fileRead` and `parseCD`. The two nested loops of `parseCD`, over the directory and over
the extra field of an entry, are one loop whose state says which head it stands at.
Positions are 64-bit words; the signed global offset is its two's complement pattern.
-/

set_option autoImplicit false

namespace Aff4Lite.Zip

open Lib

/-- The open file; `lseek64` gives its length. -/
structure File where
  content : Bytes
  small : content.length < 2 ^ 63

def File.length (file : File) : U64 := BitVec.ofNat 64 file.content.length

/-- The most that one `pread64` transfers. -/
def maxTransfer : Nat := 0x7ffff000

/-- `pread64`, which refuses a count above `SSIZE_MAX`. -/
def File.pread64 (file : File) (count offset : U64) : Stream.ReadResult :=
  if count.toNat < 2 ^ 63 then
    .delivered (slice file.content offset.toNat (min count.toNat maxTransfer))
  else .failed

/-- `Zip::fileRead`, on a file that can be read. -/
def fileRead (file : File) (count offset : U64) : Stream.ReadResult :=
  if count = 0 then .delivered []
  else if offset > file.length then .delivered []
  else file.pread64 (Stream.truncateCount file.length offset count) offset

/-- `fileRead(&record, sizeof(record), offset)` where the code goes on only with a full record. -/
def readRecord (file : File) (sizeof : Nat) (offset : U64) : Option Bytes :=
  let bytes := (fileRead file (BitVec.ofNat 64 sizeof) offset).bytes
  if bytes.length = sizeof then some bytes else none

def readCDFileHeader (file : File) (offset : U64) : Option CDFileHeader := do
  let bytes ← readRecord file CDFileHeader.sizeof offset
  let entry := CDFileHeader.ofBytes bytes
  if entry.magic = CDFileHeader.defaultMagic then some entry else none

def readZipFileHeader (file : File) (offset : U64) : Option ZipFileHeader := do
  let bytes ← readRecord file ZipFileHeader.sizeof offset
  let fileHeader := ZipFileHeader.ofBytes bytes
  if fileHeader.magic = ZipFileHeader.defaultMagic then some fileHeader else none

structure ZipEntry where
  segmentName : Bytes
  headerOffset : U64
  offset : U64
  length : U64
  compressedLength : U64
  compressionMethod : U16
  deriving DecidableEq, Repr

/-- `errno` after `parseCD`: 0 or `EIO`. -/
inductive Errno where
  | zero
  | eio
  deriving DecidableEq, Repr

/-- The members that `parseCD` fills, and `errno` when it returns. -/
structure Parsed where
  entries : List ZipEntry
  comment : Bytes
  errno : Errno
  deriving DecidableEq, Repr

/-- `endCD` is still null when the scan has no position to look at. -/
inductive ParseEnd where
  | nullDereference
  | returned (parsed : Parsed)
  deriving DecidableEq, Repr

/-! ## The end of central directory record -/

def bufferSize : U64 := 4096

/-- The scan for the record, from the last position back to position 1. -/
def scanBack (buffer : Bytes) : Nat → Option Nat
  | 0 => none
  | i + 1 =>
      if (EndCentralDirectory.ofBytes (buffer.drop (i + 1))).magic =
          EndCentralDirectory.defaultMagic then some (i + 1)
      else scanBack buffer i

/-- The archive comment, without a NUL terminator. -/
def readComment (file : File) (endCD : EndCentralDirectory) (eocd_offset : U64) : Bytes :=
  if endCD.comment_len.toNat > 0 then
    (fileRead file (endCD.comment_len.setWidth 64)
      (eocd_offset + BitVec.ofNat 64 EndCentralDirectory.sizeof)).bytes.takeWhile
        fun byte => byte ≠ 0
  else []

structure Directory where
  offset : U64
  numberOfEntries : U64
  globalOffset : U64
  deriving DecidableEq, Repr

/-- The directory of the end record, or of the Zip64 end record before it; `none` when the
Zip64 records are not in order. -/
def findDirectory (file : File) (endCD : EndCentralDirectory) (eocd_offset : U64) :
    Option Directory :=
  if endCD.offset_of_cd ≠ 0xffffffff then
    some {
      offset := endCD.offset_of_cd.setWidth 64
      numberOfEntries := endCD.total_entries_in_cd.setWidth 64
      globalOffset := eocd_offset - endCD.size_of_cd.setWidth 64 - endCD.offset_of_cd.setWidth 64 }
  else
    let locator_real_offset := eocd_offset - BitVec.ofNat 64 Zip64CDLocator.sizeof
    let end_cd_offset := locator_real_offset - BitVec.ofNat 64 Zip64EndCD.sizeof
    match readRecord file Zip64CDLocator.sizeof locator_real_offset with
    | none => none
    | some bytes =>
        let locator := Zip64CDLocator.ofBytes bytes
        if locator.magic ≠ Zip64CDLocator.defaultMagic ∨ locator.disk_with_cd ≠ 0 ∨
            locator.number_of_disks ≠ 1 then none
        else
          match readRecord file Zip64EndCD.sizeof end_cd_offset with
          | none => none
          | some bytes =>
              let end_cd := Zip64EndCD.ofBytes bytes
              if end_cd.magic ≠ Zip64EndCD.defaultMagic then none
              else some {
                offset := end_cd.offset_of_cd
                numberOfEntries := end_cd.number_of_entries_in_volume
                globalOffset := end_cd_offset - end_cd.size_of_cd - end_cd.offset_of_cd }

/-! ## The entries -/

@[ext] structure Zip64Entry where
  size : U64
  csize : U64
  headerOffset : U64
  deriving DecidableEq, Repr

/-- `x == 0xffffffff || x == (uint64_t)-1` -/
def saturated (value : U64) : Bool := value = 0xffffffff ∨ value = -1

/-- `fileRead(&value, 8, offset)`: bytes that the file does not have keep their value. -/
def readInto (file : File) (value offset : U64) : U64 :=
  let bytes := (fileRead file 8 offset).bytes
  wordLE 64 (bytes ++ (toLE 8 value.toNat).drop bytes.length)

/-- The values of a Zip64 extra field record whose data stand at `offset`. -/
def readZip64 (file : File) (zipEntry : Zip64Entry) (dataSize : U16) (offset : U64) : Zip64Entry :=
  let hasSize := saturated zipEntry.size ∧ dataSize ≥ 8
  let size := if hasSize then readInto file zipEntry.size offset else zipEntry.size
  let offset := if hasSize then offset + 8 else offset
  let hasCsize := saturated zipEntry.csize ∧ dataSize ≥ 8
  let csize := if hasCsize then readInto file zipEntry.csize offset else zipEntry.csize
  let offset := if hasCsize then offset + 8 else offset
  let headerOffset :=
    if saturated zipEntry.headerOffset ∧ dataSize ≥ 8 then
      readInto file zipEntry.headerOffset offset
    else zipEntry.headerOffset
  ⟨size, csize, headerOffset⟩

/-- The local variables at the head of the directory loop. -/
structure DirectoryState where
  i : U64
  entryOffset : U64
  entries : List ZipEntry
  deriving DecidableEq, Repr

structure Pending where
  outer : DirectoryState
  entry : CDFileHeader
  segmentName : Bytes
  zipEntry : Zip64Entry
  deriving DecidableEq, Repr

/-- The head of the directory loop, or that of the loop over the extra field of an entry. -/
inductive ParseState where
  | directory (state : DirectoryState)
  | extra (pending : Pending) (hOffset : U16)
  deriving DecidableEq, Repr

/-- The arguments that the loops do not change. `heap i` is the fresh name buffer of entry `i`. -/
structure ParseContext where
  file : File
  heap : Nat → Nat → UInt8
  comment : Bytes
  directory : Directory

namespace ParseContext

def fail (context : ParseContext) (entries : List ZipEntry) : Turn ParseState Parsed :=
  .done ⟨entries, context.comment, .eio⟩

def position (context : ParseContext) (state : DirectoryState) : U64 :=
  context.directory.globalOffset + state.entryOffset

def fieldOffset (context : ParseContext) (pending : Pending) : U64 :=
  context.position pending.outer + BitVec.ofNat 64 CDFileHeader.sizeof +
    pending.entry.file_name_length.setWidth 64

def readName (context : ParseContext) (state : DirectoryState) (entry : CDFileHeader) : Bytes :=
  firstCells
    (store (context.heap state.i.toNat) 0
      (fileRead context.file (entry.file_name_length.setWidth 64)
        (context.position state + BitVec.ofNat 64 CDFileHeader.sizeof)).bytes)
    entry.file_name_length.toNat

def segment (pending : Pending) (fileHeader : ZipFileHeader) : ZipEntry where
  segmentName := pending.segmentName
  headerOffset := pending.zipEntry.headerOffset
  offset := pending.zipEntry.headerOffset + (BitVec.ofNat 64 ZipFileHeader.sizeof +
    fileHeader.file_name_length.setWidth 64 + fileHeader.extra_field_len.setWidth 64)
  length := pending.zipEntry.size
  compressedLength := pending.zipEntry.csize
  compressionMethod := pending.entry.compression_method

def nextState (pending : Pending) (fileHeader : ZipFileHeader) : DirectoryState where
  i := pending.outer.i + 1
  entryOffset := pending.outer.entryOffset + (BitVec.ofNat 64 CDFileHeader.sizeof +
    pending.entry.file_name_length.setWidth 64 + pending.entry.extra_field_len.setWidth 64 +
    pending.entry.file_comment_length.setWidth 64)
  entries := pending.outer.entries ++ [segment pending fileHeader]

/-- Read the local header, append the entry and go to the next one. -/
def finishEntry (context : ParseContext) (pending : Pending) : Turn ParseState Parsed :=
  match readZipFileHeader context.file pending.zipEntry.headerOffset with
  | none => context.fail pending.outer.entries
  | some fileHeader => .next (.directory (nextState pending fileHeader))

def pending (context : ParseContext) (state : DirectoryState) (entry : CDFileHeader) : Pending where
  outer := state
  entry := entry
  segmentName := context.readName state entry
  zipEntry := {
    size := entry.file_size.setWidth 64
    csize := entry.compress_size.setWidth 64
    headerOffset := entry.relative_offset_local_header.setWidth 64 }

/-- One turn at the head of the directory loop. -/
def directoryTurn (context : ParseContext) (state : DirectoryState) : Turn ParseState Parsed :=
  if state.i ≥ context.directory.numberOfEntries then
    .done ⟨state.entries, context.comment, .zero⟩
  else
    match readCDFileHeader context.file (context.position state) with
    | none => context.fail state.entries
    | some entry =>
        let pending := context.pending state entry
        if saturated pending.zipEntry.headerOffset then .next (.extra pending 0)
        else context.finishEntry pending

/-- One turn at the head of the loop over the extra field. -/
def extraTurn (context : ParseContext) (pending : Pending) (hOffset : U16) :
    Turn ParseState Parsed :=
  if hOffset < pending.entry.extra_field_len then
    let offset := context.fieldOffset pending + hOffset.setWidth 64
    match readRecord context.file ZipExtraFieldHeader.sizeof offset with
    | none => context.fail pending.outer.entries
    | some bytes =>
        let extraHeader := ZipExtraFieldHeader.ofBytes bytes
        let zipEntry :=
          if extraHeader.header_id = 1 then
            readZip64 context.file pending.zipEntry extraHeader.data_size
              (offset + BitVec.ofNat 64 ZipExtraFieldHeader.sizeof)
          else pending.zipEntry
        .next (.extra { pending with zipEntry := zipEntry }
          (hOffset + (extraHeader.data_size + BitVec.ofNat 16 ZipExtraFieldHeader.sizeof)))
  else context.finishEntry pending

def turn (context : ParseContext) : ParseState → Turn ParseState Parsed
  | .directory state => context.directoryTurn state
  | .extra pending hOffset => context.extraTurn pending hOffset

def start (context : ParseContext) : ParseState := .directory ⟨0, context.directory.offset, []⟩

end ParseContext

/-! ## `parseCD` -/

/-- What `parseCD` does with the end record at position `i` of the buffer, before its loops:
it returns or enters them. -/
def enterDirectory (file : File) (heap : Nat → Nat → UInt8) (endCD : EndCentralDirectory)
    (eocd_offset : U64) : ParseEnd ⊕ ParseContext :=
  let comment := readComment file endCD eocd_offset
  match findDirectory file endCD eocd_offset with
  | none => .inl (.returned ⟨[], comment, .eio⟩)
  | some directory => .inr ⟨file, heap, comment, directory⟩

/-- The scan of the buffer that was read from `bufferStart` on. -/
def scanBuffer (file : File) (heap : Nat → Nat → UInt8) (buffer : Bytes) (bufferStart : U64) :
    ParseEnd ⊕ ParseContext :=
  if buffer.length < EndCentralDirectory.sizeof then .inl (.returned ⟨[], [], .eio⟩)
  else if buffer.length = EndCentralDirectory.sizeof then .inl .nullDereference
  else
    match scanBack buffer (buffer.length - EndCentralDirectory.sizeof) with
    | none => .inl (.returned ⟨[], [], .eio⟩)
    | some i =>
        enterDirectory file heap (EndCentralDirectory.ofBytes (buffer.drop i))
          (bufferStart + BitVec.ofNat 64 i)

/-- `min(length, AFF4_ZIP_BUFFER_SIZE)` -/
def File.tailCount (file : File) : U64 :=
  if file.length < bufferSize then file.length else bufferSize

/-- `parseCD` up to its loops. -/
def openDirectory (file : File) (heap : Nat → Nat → UInt8) : ParseEnd ⊕ ParseContext :=
  let read := file.tailCount
  scanBuffer file heap (fileRead file read (file.length - read)).bytes (file.length - read)

/-- `Zip::parseCD`, with at most `fuel` turns of its loops. -/
def parseCD (file : File) (heap : Nat → Nat → UInt8) (fuel : Nat) : Option ParseEnd :=
  match openDirectory file heap with
  | .inl outcome => some outcome
  | .inr context => (Loop.run context.turn fuel context.start).map .returned

/-- `parseCD` returns `outcome`. -/
def ParsesTo (file : File) (heap : Nat → Nat → UInt8) (outcome : ParseEnd) : Prop :=
  ∃ fuel, parseCD file heap fuel = some outcome

end Aff4Lite.Zip
