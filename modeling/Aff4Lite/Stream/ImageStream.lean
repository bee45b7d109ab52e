import Aff4Lite.Lib.Loop
import Aff4Lite.Stream.BevvyIndex
import Aff4Lite.Utils.Cache

/-!
# `aff4::stream::ImageStream`

`ChunkLoader::load` and `read`, with the two caches. Memory that `new` hands out is
`heap n` for the n-th time; the state counts how often that was.
-/

set_option autoImplicit false

namespace Aff4Lite.Stream

open Lib Zip Containers Utils

/-- `codec->decompress(source, srcSize, dest, destSize)`: the bytes it writes to `dest`. -/
abbrev Codec := Bytes → Nat → Bytes

def nullCompression : Codec := fun source destSize => source.take destSize

/-- The members that the constructor fills and no read changes. `cacheSize` is the number
of entries of the chunk cache. -/
structure ImageStream where
  container : ZipContainer
  resource : Bytes
  length : U64
  chunkSize : U32
  chunksInSegment : U32
  codec : Codec
  cacheSize : U64
  closed : Bool

/-- `cacheBuffer_t`; the null pointer goes with the size 0. -/
structure CacheBuffer where
  bytes : Nat → UInt8
  size : U32

def CacheBuffer.null : CacheBuffer := ⟨fun _ => 0, 0⟩

structure LoaderState where
  bevvyIndexCache : Cache U32 BevvyIndex
  allocations : Nat

/-- Everything that a read changes besides the caller's buffer. -/
structure ImageState where
  chunkCache : Cache U64 CacheBuffer
  loader : LoaderState

namespace ImageStream

/-- `AFF4_IMAGE_STREAM_BEVVY_INDEX_CACHE_SIZE` -/
def bevvyIndexCacheSize : U64 := 64

def fresh (self : ImageStream) : ImageState where
  chunkCache := .empty self.cacheSize
  loader := { bevvyIndexCache := .empty bevvyIndexCacheSize, allocations := 0 }

/-! ## `ChunkLoader` -/

/-- The bytes that the loop over `fileRead` gets. The length of a point has 32 bits, and a count
that small is never refused. Every turn but the last reads something, so `toRead` turns are
enough. -/
def readChunk (file : File) : Nat → U64 → U64 → Bytes
  | 0, _, _ => []
  | fuel + 1, toRead, chunkOffset =>
      if toRead > 0 then
        let bytes := (fileRead file toRead chunkOffset).bytes
        let res := BitVec.ofNat 64 bytes.length
        if res = 0 then [] else bytes ++ readChunk file fuel (toRead - res) (chunkOffset + res)
      else []

section Loader

variable (self : ImageStream) (heap : Nat → Nat → UInt8)

/-- `BevvyIndexLoader::load`; `none` where the constructor writes behind its buffer. -/
def loadBevvyIndex (bevvyID : U32) (allocations : Nat) : Option (BevvyIndex × Nat) :=
  if BevvyIndex.overruns self.container self.resource bevvyID (heap (allocations + 1)) then none
  else
    some (.create self.container self.resource bevvyID (heap allocations)
      (heap (allocations + 1)), allocations + 2)

/-- The rest of `ChunkLoader::load` for a point with a length. -/
def loadPoint (dataOffset : U64) (point : ImageStreamPoint) (allocations : Nat) :
    CacheBuffer × Nat :=
  let chunkOffset := dataOffset + point.offset
  let chunkLength := point.length.setWidth 64
  let buffer := store (heap allocations) 0
    (readChunk self.container.file chunkLength.toNat chunkLength chunkOffset)
  if chunkLength ≠ self.chunkSize.setWidth 64 then
    let output := self.codec (firstCells buffer chunkLength.toNat) self.chunkSize.toNat
    (⟨store (heap (allocations + 1)) 0 output, self.chunkSize⟩, allocations + 2)
  else (⟨buffer, self.chunkSize⟩, allocations + 1)

/-- `ChunkLoader::load` -/
def loadChunk (offset : U64) (state : LoaderState) : Option (CacheBuffer × LoaderState) :=
  let chunk := offset / self.chunkSize.setWidth 64
  let bevvyID := chunk / self.chunksInSegment.setWidth 64
  match state.bevvyIndexCache.get (bevvyID.setWidth 32)
      (self.loadBevvyIndex heap (bevvyID.setWidth 32)) state.allocations with
  | none => none
  | some (index, bevvyIndexCache, allocations) =>
      let chunkID := chunk % self.chunksInSegment.setWidth 64
      let point := index.getPoint (chunkID.setWidth 32)
      if point.length = 0 then some (.null, ⟨bevvyIndexCache, allocations⟩)
      else
        let (buffer, allocations) := self.loadPoint heap index.dataChunkOffset point allocations
        some (buffer, ⟨bevvyIndexCache, allocations⟩)

end Loader

/-! ## `read` -/

structure ReadState where
  leftToRead : U64
  actualRead : U64
  offset : U64
  buffer : Nat
  memory : Buffer
  caches : ImageState

/-- What `ImageStream::read` returns and leaves behind. -/
structure ReadEnd where
  res : Int
  memory : Buffer
  caches : ImageState

section Read

variable (self : ImageStream) (heap : Nat → Nat → UInt8)

def copyChunk (state : ReadState) (chunkOffset : U64) (entry : CacheBuffer) (caches : ImageState) :
    ReadState :=
  let delta := state.offset - chunkOffset
  let toCopy := stdMin (entry.size.setWidth 64 - delta) state.leftToRead
  { leftToRead := state.leftToRead - toCopy
    actualRead := state.actualRead + toCopy
    offset := state.offset + toCopy
    buffer := state.buffer + toCopy.toNat
    memory := state.memory.write state.buffer
      (firstCells (fun index => entry.bytes (delta.toNat + index)) toCopy.toNat)
    caches := caches }

/-- One turn of the copy loop; the result is `none` for undefined behaviour of a cache or of the
constructor of an index. -/
def readTurn (state : ReadState) : Turn ReadState (Option ReadEnd) :=
  if state.leftToRead > 0 then
    let chunkOffset := state.offset / self.chunkSize.setWidth 64 * self.chunkSize.setWidth 64
    match state.caches.chunkCache.get chunkOffset (self.loadChunk heap chunkOffset)
        state.caches.loader with
    | none => .done none
    | some (entry, chunkCache, loader) =>
        if entry.size = 0 then .done (some ⟨-1, state.memory, ⟨chunkCache, loader⟩⟩)
        else .next (copyChunk state chunkOffset entry ⟨chunkCache, loader⟩)
  else .done (some ⟨state.actualRead.toInt, state.memory, state.caches⟩)

/-- `ImageStream::read`, with at most `fuel` turns of its loop. -/
def read (memory : Buffer) (count offset : U64) (caches : ImageState) (fuel : Nat) :
    Option (Option ReadEnd) :=
  if self.closed then some (some ⟨-1, memory, caches⟩)
  else if offset > self.length then some (some ⟨0, memory, caches⟩)
  else
    Loop.run (self.readTurn heap) fuel {
      leftToRead := truncateCount self.length offset count
      actualRead := 0
      offset := offset
      buffer := 0
      memory := memory
      caches := caches }

end Read

end ImageStream

end Aff4Lite.Stream
