import Aff4Lite.Zip.ZipStream

/-!
# `aff4::container::getResourceID`

The fast path works on the first 4096 bytes of the file. It takes them from a buffer of
that size, and memory behind the buffer is read where a segment is taken to be longer.
-/

set_option autoImplicit false

namespace Aff4Lite.Containers

open Lib Zip

/-- `AFF4_RESOURCE_BUFFER_SIZE` -/
def resourceBufferSize : Nat := 4096

/-- `AFF4_FILEDESCRIPTOR` -/
def fileDescriptor : Bytes := Stream.text "container.description"

/-! ## The fast path -/

/-- The record of the extra field that follows the name of 21 bytes, if it is of kind 1. -/
def extraSize (header : ZipFileHeader) (buffer : Bytes) : U64 :=
  let offset := ZipFileHeader.sizeof + fileDescriptor.length
  let extraHeader := ZipExtraFieldHeader.ofBytes (buffer.drop offset)
  if header.extra_field_len ≠ 0 ∧ extraHeader.header_id = 1 then
    let hasSize := extraHeader.data_size ≥ 8
    let size : U64 := if hasSize then wordAt 64 (offset + 4) buffer else 0
    let dataSize := if hasSize then extraHeader.data_size - 8 else extraHeader.data_size
    let next := if hasSize then offset + 12 else offset + 4
    if header.compress_size = 0xffffffff ∧ dataSize ≥ 8 ∧ (size = 0 ∨ size = -1) then
      wordAt 64 next buffer
    else size
  else 0

def dataDescriptorMagic : U32 := 0x08074b50

/-- The first position with the signature of a data descriptor. The last one that is looked
at is the last at which a `ZipDataDescriptor64` of 24 bytes fits into the buffer. -/
def scanDescriptor (buffer : Bytes) : Option Nat :=
  (List.range (resourceBufferSize - 24 + 1)).find? fun position =>
    wordAt 32 position buffer = dataDescriptorMagic

/-- `segmentEntrySize` for the segment of the first local header. -/
def segmentEntrySize (header : ZipFileHeader) (buffer : Bytes) : U64 :=
  if header.file_size = 0xffffffff then
    let size := extraSize header buffer
    if size = 0 ∨ size = -1 then
      match scanDescriptor buffer with
      | some position => wordAt 64 (position + 8) buffer
      | none => size
    else size
  else header.file_size.setWidth 64

def firstHeader (buffer : Bytes) : ZipFileHeader := ZipFileHeader.ofBytes buffer

/-- Position and size of the segment that the fast path takes; `none` is `goto slowPath`. -/
def fastSegment (buffer : Bytes) : Option (Nat × U64) :=
  let header := firstHeader buffer
  if header.compression_method ≠ 0 then none
  else if header.file_name_length ≠ 0x15 then none
  else if slice buffer ZipFileHeader.sizeof 21 ≠ fileDescriptor then none
  else
    let size := segmentEntrySize header buffer
    if size = 0 ∨ size > BitVec.ofNat 64 resourceBufferSize -
        (BitVec.ofNat 64 ZipFileHeader.sizeof - header.file_name_length.setWidth 64 -
          header.extra_field_len.setWidth 64) then none
    else some (ZipFileHeader.sizeof + header.file_name_length.toNat +
      header.extra_field_len.toNat, size)

inductive FastPath where
  | returned (resource : Bytes)
  | slowPath
  deriving DecidableEq, Repr

/-- What `pread64` puts into the buffer. -/
def firstBytes (file : File) : Bytes := slice file.content 0 resourceBufferSize

def takeSegment (buffer : Bytes) (memory : Nat → UInt8) : Option (Nat × U64) → FastPath
  | none => .slowPath
  | some (position, size) =>
      .returned (firstCells (fun index => store memory 0 buffer (position + index)) size.toNat)

/-- The code up to `slowPath`. `memory` is what the heap holds from the buffer on. -/
def fastPath (file : File) (memory : Nat → UInt8) : FastPath :=
  let buffer := firstBytes file
  if buffer.length ≠ resourceBufferSize then .returned []
  else if (firstHeader buffer).magic ≠ ZipFileHeader.defaultMagic then .returned []
  else takeSegment buffer memory (fastSegment buffer)

/-! ## The slow path -/

/-- What the caller gets; `parseCD` may not return. -/
inductive ResourceEnd where
  | nullDereference
  | returned (resource : Bytes)
  deriving DecidableEq, Repr

section SlowPath

variable (inflate : Bytes → Nat → Option Bytes) (file : File) (decompbuffer : Nat → UInt8)

def slowResource (zipFile : Parsed) : Bytes :=
  if zipFile.entries = [] then []
  else
    match getStream zipFile.entries fileDescriptor with
    | none => zipFile.comment
    | some stream =>
        let read := readSegment inflate file stream decompbuffer stream.length 0
        if read.res > 0 then read.bytes else zipFile.comment

/-- The code from `slowPath` on, with at most `fuel` turns of the loops of `parseCD`. -/
def slowPath (heap : Nat → Nat → UInt8) (fuel : Nat) : Option ResourceEnd :=
  (parseCD file heap fuel).map fun
    | .nullDereference => .nullDereference
    | .returned zipFile => .returned (slowResource inflate file decompbuffer zipFile)

def getResourceID (memory : Nat → UInt8) (heap : Nat → Nat → UInt8) (fuel : Nat) :
    Option ResourceEnd :=
  match fastPath file memory with
  | .returned resource => some (.returned resource)
  | .slowPath => slowPath inflate file decompbuffer heap fuel

end SlowPath

end Aff4Lite.Containers
