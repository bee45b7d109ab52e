import Aff4Lite.Lib.Slots
import Aff4Lite.Stream.ChunkLoader

/-!
# Archives that share the descriptors of a process

`Zip::close` gives its descriptor back and keeps the number. Several archives, their segment
streams and their image streams, and the rest of the process, with the descriptor table that
every `pread64` goes through.
-/

set_option autoImplicit false

namespace Aff4Lite.Containers

open Lib Zip Aff4Lite.Stream Utils

/-- What one call of `open` makes; the serial tells the calls apart. -/
structure OpenFile where
  serial : Nat
  file : File

structure Process where
  descriptors : Slots OpenFile
  allocations : Nat

/-- Bytes that a read took from an open file. -/
structure Transfer where
  source : OpenFile
  offset : U64
  bytes : Bytes

/-- The bytes stand in the file, from the offset on. -/
def Transfer.Exact (transfer : Transfer) : Prop :=
  transfer.bytes =
    slice transfer.source.file.content transfer.offset.toNat transfer.bytes.length

/-- `::pread64`; `none` stands for the descriptor -1. -/
def Process.pread64 (process : Process) (fileHandle : Option Nat) (count offset : U64) :
    ReadResult :=
  match fileHandle.bind process.descriptors.lookup with
  | none => .failed
  | some opened => opened.file.pread64 count offset

/-! ## `aff4::zip::Zip` -/

/-- The members of a `Zip`, and what its constructor has opened. -/
structure ZipObject where
  opened : Option OpenFile
  fileHandle : Option Nat
  length : U64
  closed : Bool
  entries : List ZipEntry

namespace ZipObject

/-- What a `Zip` is when its file cannot be opened. -/
def notOpened : ZipObject := ⟨none, none, 0, true, []⟩

variable (zip : ZipObject)

/-- What the descriptor number of the archive stands for. -/
def sources (process : Process) : List OpenFile :=
  (zip.fileHandle.bind process.descriptors.lookup).toList

/-- `Zip::fileRead` -/
def fileRead (process : Process) (count offset : U64) : ReadResult :=
  if count = 0 then .delivered []
  else if offset > zip.length then .delivered []
  else process.pread64 zip.fileHandle (truncateCount zip.length offset count) offset

theorem length_fileRead_le (process : Process) (count offset : U64) :
    (zip.fileRead process count offset).bytes.length ≤ count.toNat := by
  unfold fileRead Process.pread64
  split
  · exact Nat.zero_le _
  · split
    · exact Nat.zero_le _
    · rename_i behind
      have fewer : (truncateCount zip.length offset count).toNat ≤ count.toNat :=
        truncateCount_le (by bv_omega)
      split
      · exact Nat.zero_le _
      · exact (File.length_pread64_le _ _ offset).trans ((min_le_left _ _).trans fewer)

/-- Bytes that were read from the open file of the archive, if its number stands for one. -/
def transfers (process : Process) (offset : U64) (bytes : Bytes) : List Transfer :=
  (zip.sources process).map fun source => ⟨source, offset, bytes⟩

/-- The members after `Zip::close`. -/
def close : ZipObject := if zip.closed then zip else { zip with closed := true, entries := [] }

end ZipObject

/-- The descriptors after `Zip::close`. -/
def Process.closeZip (process : Process) (zip : ZipObject) : Process :=
  if zip.closed then process
  else
    match zip.fileHandle with
    | none => process
    | some number => { process with descriptors := process.descriptors.release number }

/-! ## `ZipSegmentStream` -/

section Segment

variable (inflate : Bytes → Nat → Option Bytes) (zip : ZipObject) (process : Process)

/-- `ZipSegmentStream::readCompressed` -/
def readCompressedThrough (entry : ZipEntry) (decompbuffer : Nat → UInt8) (count offset : U64) :
    ReadResult :=
  if entry.length ≤ wholeStream then
    match zip.fileRead process entry.compressedLength entry.offset with
    | .failed => .failed
    | .delivered read =>
        match inflate read entry.length.toNat with
        | none => .failed
        | some output =>
            .delivered (firstCells
              (fun index => store decompbuffer 0 output (offset.toNat + index)) count.toNat)
  else .failed

/-- `ZipSegmentStream::read`, before the stream's own `close`. -/
def readSegmentThrough (entry : ZipEntry) (decompbuffer : Nat → UInt8) (count offset : U64) :
    ReadResult :=
  if offset > entry.length then .delivered []
  else
    let count := truncateCount entry.length offset count
    if entry.compressionMethod = deflate then
      readCompressedThrough inflate zip process entry decompbuffer count offset
    else if entry.compressionMethod ≠ stored then .failed
    else zip.fileRead process count (offset + entry.offset)

end Segment

/-- A `ZipSegmentStream` of the archive with the number `zip`. -/
structure SegmentStream where
  zip : Nat
  entry : ZipEntry
  closed : Bool

def SegmentStream.read (segment : SegmentStream) (inflate : Bytes → Nat → Option Bytes)
    (zip : ZipObject) (process : Process) (decompbuffer : Nat → UInt8) (count offset : U64) :
    ReadResult :=
  if segment.closed then .failed
  else readSegmentThrough inflate zip process segment.entry decompbuffer count offset

/-- What a read of the segment takes from the file. -/
def SegmentStream.transfers (segment : SegmentStream) (zip : ZipObject) (process : Process)
    (count offset : U64) : List Transfer :=
  let entry := segment.entry
  if segment.closed ∨ offset > entry.length then []
  else if entry.compressionMethod = deflate then
    zip.transfers process entry.offset
      (zip.fileRead process entry.compressedLength entry.offset).bytes
  else
    let position := offset + entry.offset
    zip.transfers process position
      (zip.fileRead process (truncateCount entry.length offset count) position).bytes

/-! ## `ImageStream` -/

/-- An `ImageStream` of the archive with the number `zip`; `resourceID` is its container's. -/
structure ImageObject where
  zip : Nat
  resourceID : Bytes
  resource : Bytes
  length : U64
  chunkSize : U32
  chunksInSegment : U32
  codec : Bytes → Nat → Decompressed
  cacheSize : U64
  closed : Bool
  chunkCache : Cache U64 (Except (ReadFault Process) (ChunkBuffer Process))
  bevvyIndexCache : Cache U32 (Option BevvyIndex)

namespace ImageObject

variable (image : ImageObject)

/-- `AFF4ZipContainer::getSegmentEntry`, and `getSegment` as the entry behind the stream. -/
def getSegmentEntry (zip : ZipObject) (segmentName : Bytes) : Option ZipEntry :=
  let res := stripSlashes segmentName
  let res := if hasPrefix res image.resourceID then res.drop image.resourceID.length else res
  let res := stripSlashes (nameCodecEncode res)
  zip.entries.find? fun entry => entry.segmentName = res

/-- The constructor of `BevvyIndex`. -/
def createIndex (inflate : Bytes → Nat → Option Bytes) (zip : ZipObject) (process : Process)
    (bevvyID : U32) (heap decompbuffer : Nat → UInt8) : BevvyIndex :=
  let segmentName := image.resource ++ text "/" ++ bevvyText bevvyID
  match image.getSegmentEntry zip segmentName with
  | none => ⟨bevvyID, 0, 0, none⟩
  | some zipEntry =>
      match image.getSegmentEntry zip (segmentName ++ text ".index") with
      | none => ⟨bevvyID, zipEntry.offset, 0, none⟩
      | some stream =>
          if stream.length > 0 then
            let read := readSegmentThrough inflate zip process stream decompbuffer stream.length 0
            ⟨bevvyID, zipEntry.offset, stream.length / BitVec.ofNat 64 ImageStreamPoint.sizeof,
              some (store heap 0 read.bytes)⟩
          else ⟨bevvyID, zipEntry.offset, 0, none⟩

def device (inflate : Bytes → Nat → Option Bytes) (heap : Nat → Nat → UInt8) (zip : ZipObject) :
    Device Process where
  turns := 2 ^ 32
  fileRead := fun count offset process => (zip.fileRead process count offset, process)
  loadIndex := fun bevvyID process =>
    (some (image.createIndex inflate zip process bevvyID (heap process.allocations)
      (heap (process.allocations + 1))), { process with allocations := process.allocations + 2 })
  decompress := fun source destSize process => (image.codec source destSize, process)
  allocate := fun process =>
    (heap process.allocations, { process with allocations := process.allocations + 1 })
  bounded := by
    intro count offset process
    exact zip.length_fileRead_le process count offset

def stream (inflate : Bytes → Nat → Option Bytes) (heap : Nat → Nat → UInt8) (zip : ZipObject) :
    DeviceStream Process where
  device := image.device inflate heap zip
  length := image.length
  chunkSize := image.chunkSize
  chunksInSegment := image.chunksInSegment
  cacheSize := image.cacheSize
  closed := image.closed

def state (process : Process) : DeviceState Process :=
  ⟨image.chunkCache, image.bevvyIndexCache, process⟩

/-- What the constructor leaves in the caches. -/
def Fresh : Prop :=
  image.closed = false ∧ image.chunkCache = .empty image.cacheSize ∧
    image.bevvyIndexCache = .empty ImageStream.bevvyIndexCacheSize

end ImageObject

/-! ## The system -/

/-- A read that has returned: what it gave to its caller, and what it was made from. -/
structure Returned where
  zip : Nat
  result : ReadResult
  transfers : List Transfer

structure System where
  process : Process
  opens : Nat
  zips : List ZipObject
  segments : List SegmentStream
  images : List ImageObject
  returned : List Returned

/-- Before the first archive is opened. -/
def System.initial (process : Process) (opens : Nat) : System := ⟨process, opens, [], [], [], []⟩

/-- `openOther` and `closeOther` are the rest of the process. -/
inductive Operation where
  | openZip (file : Option File)
  | closeZip (zip : Nat)
  | openOther (file : File)
  | closeOther (number : Nat)
  | getStream (zip : Nat) (segmentName : Bytes)
  | closeStream (segment : Nat)
  | getImageStream (image : ImageObject)
  | closeImageStream (image : Nat)
  | fileRead (zip : Nat) (count offset : U64)
  | readStream (segment : Nat) (count offset : U64)
  | readImageStream (image : Nat) (count offset : U64)

namespace System

variable (system : System)

/-- A new descriptor takes the lowest free number. -/
def openFile (file : File) : System :=
  { system with
    process := { system.process with
      descriptors := system.process.descriptors.install ⟨system.opens, file⟩ }
    opens := system.opens + 1 }

/-- The constructor of `Zip` on a file that opens. -/
def openZip (file : File) (entries : List ZipEntry) : System :=
  { system.openFile file with
    zips := system.zips ++ [{
      opened := some ⟨system.opens, file⟩
      fileHandle := some system.process.descriptors.lowestFree
      length := file.length
      closed := false
      entries := entries }] }

def closeZip (index : Nat) (zip : ZipObject) : System :=
  { system with
    process := system.process.closeZip zip
    zips := system.zips.set index zip.close }

/-- A read that leaves everything but the process as it is. -/
def giveBack (process : Process) (returned : Returned) : System :=
  { system with process := process, returned := system.returned ++ [returned] }

/-- What the load of a chunk took from the file. -/
def chunkTransfers (object : ZipObject) (stream : DeviceStream Process)
    (event : LoadEvent Process) : List Transfer :=
  let chunkOffset := event.dataOffset + event.point.offset
  match stream.device.readChunk event.point.length chunkOffset
      (stream.device.allocate event.world).2 with
  | none => []
  | some (bytes, _) => object.transfers event.world chunkOffset bytes

/-- What a read of an image stream gives back. -/
def imageReturned (zip : Nat) (object : ZipObject) (stream : DeviceStream Process)
    (finish : DeviceStream.ReadEnd Process) : Returned where
  zip := zip
  result :=
    if finish.res < 0 then .failed
    else .delivered ((firstCells finish.memory finish.res.toNat).map Cell.byte)
  transfers := finish.touched.flatMap fun chunk =>
    match chunk.2.source with
    | none => []
    | some event => chunkTransfers object stream event

/-- An image stream with the caches that a read leaves behind. -/
def finishRead (index : Nat) (image : ImageObject) (object : ZipObject)
    (stream : DeviceStream Process) (finish : DeviceStream.ReadEnd Process) : System :=
  { system.giveBack finish.state.world (imageReturned image.zip object stream finish) with
    images := system.images.set index { image with
      chunkCache := finish.state.chunkCache
      bevvyIndexCache := finish.state.bevvyIndexCache } }

end System

section Steps

variable (inflate : Bytes → Nat → Option Bytes) (heap : Nat → Nat → UInt8)

/-- One operation; a read that has no defined result is no step. -/
inductive Step (system : System) : Operation → System → Prop where
  | openZip {file : File} {parsed : Parsed} : ParsesTo file heap (.returned parsed) →
      Step system (.openZip (some file)) (system.openZip file parsed.entries)
  | openFails :
      Step system (.openZip none) { system with zips := system.zips ++ [.notOpened] }
  | closeZip {index : Nat} {zip : ZipObject} : system.zips[index]? = some zip →
      Step system (.closeZip index) (system.closeZip index zip)
  | openOther (file : File) : Step system (.openOther file) (system.openFile file)
  | closeOther {number : Nat} :
      (∀ zip ∈ system.zips, zip.closed = false → zip.fileHandle ≠ some number) →
      Step system (.closeOther number) { system with process := { system.process with
        descriptors := system.process.descriptors.release number } }
  | getStream {index : Nat} {zip : ZipObject} {segmentName : Bytes} {entry : ZipEntry} :
      system.zips[index]? = some zip → Zip.getStream zip.entries segmentName = some entry →
      Step system (.getStream index segmentName)
        { system with segments := system.segments ++ [⟨index, entry, false⟩] }
  | closeStream {index : Nat} {segment : SegmentStream} : system.segments[index]? = some segment →
      Step system (.closeStream index)
        { system with segments := system.segments.set index { segment with closed := true } }
  | getImageStream {image : ImageObject} {zip : ZipObject} :
      system.zips[image.zip]? = some zip → image.Fresh →
      Step system (.getImageStream image) { system with images := system.images ++ [image] }
  | closeImageStream {index : Nat} {image : ImageObject} : system.images[index]? = some image →
      Step system (.closeImageStream index)
        { system with images := system.images.set index { image with closed := true } }
  | fileRead {index : Nat} {zip : ZipObject} (count offset : U64) :
      system.zips[index]? = some zip →
      Step system (.fileRead index count offset) (system.giveBack system.process
        ⟨index, zip.fileRead system.process count offset, zip.transfers system.process offset
          (zip.fileRead system.process count offset).bytes⟩)
  | readStream {index : Nat} {segment : SegmentStream} {zip : ZipObject} (count offset : U64) :
      system.segments[index]? = some segment → system.zips[segment.zip]? = some zip →
      Step system (.readStream index count offset) (system.giveBack
        { system.process with allocations := system.process.allocations + 1 }
        ⟨segment.zip, segment.read inflate zip system.process (heap system.process.allocations)
            count offset,
          segment.transfers zip system.process count offset⟩)
  | readImageStream {index : Nat} {image : ImageObject} {zip : ZipObject} {count offset : U64}
      {finish : DeviceStream.ReadEnd Process} :
      system.images[index]? = some image → system.zips[image.zip]? = some zip →
      (image.stream inflate heap zip).read (fun _ => ⟨0, .uninitialised⟩) count offset
        (image.state system.process) = some (.ok finish) →
      Step system (.readImageStream index count offset)
        (system.finishRead index image zip (image.stream inflate heap zip) finish)

/-- The descriptor number of a closed archive is not in use. -/
def System.Unused (system : System) (index : Nat) : Prop :=
  ∀ zip, system.zips[index]? = some zip → zip.closed = true →
    ∀ number, zip.fileHandle = some number → system.process.descriptors.lookup number = none

/-- A read goes through an archive that is open or whose number is not in use, or through a
stream that has itself been closed. -/
def Undisturbed (system : System) : Operation → Prop
  | .fileRead zip _ _ => system.Unused zip
  | .readStream index _ _ => ∀ segment, system.segments[index]? = some segment →
      segment.closed = true ∨ system.Unused segment.zip
  | .readImageStream index _ _ => ∀ image, system.images[index]? = some image →
      image.closed = true ∨ system.Unused image.zip
  | _ => True

/-- The systems that a run reaches by operations that are allowed where they happen. -/
inductive Run (allowed : System → Operation → Prop) (start : System) : System → Prop where
  | refl : Run allowed start start
  | step {system after : System} {operation : Operation} : Run allowed start system →
      allowed system operation → Step inflate heap system operation after →
      Run allowed start after

end Steps

end Aff4Lite.Containers
