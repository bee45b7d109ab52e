import Aff4Lite.Stream.ImageStream

/-!
# Chunks from an unreliable container

`ChunkLoader::load` and `ImageStream::read` over any container and any codec: every call may
fail, and every call may change the state of the world. Each byte carries where it came
from, and each loaded buffer carries the call that it was loaded in.
-/

set_option autoImplicit false

namespace Aff4Lite.Stream

open Lib Utils

/-- A chunk that has a point in the index of its bevvy, when its loading begins. -/
structure LoadEvent (World : Type) where
  dataOffset : U64
  point : ImageStreamPoint
  world : World

/-- Why a read has no defined result. -/
inductive ReadFault (World : Type) where
  | divideByZero
  /-- An iterator behind the end of a cache is dereferenced. -/
  | cacheEnd
  /-- `buf` is moved in front of the chunk buffer, or goes on moving inside it. -/
  | notLoaded (event : LoadEvent World)

/-- Where a byte of a buffer comes from. -/
inductive Origin where
  | uninitialised
  | container
  | decoded
  /-- Output of a codec that failed, or whose input had not been read in full. -/
  | spoiled
  deriving DecidableEq, Repr

structure Cell where
  byte : UInt8
  origin : Origin
  deriving DecidableEq, Repr

/-- Read from the container, or decompressed from what was. -/
def Cell.Genuine (cell : Cell) : Prop := cell.origin = .container ∨ cell.origin = .decoded

/-- What a call of `codec->decompress` does: whether the decompressor reports success, and
the bytes that it has written. -/
structure Decompressed where
  success : Bool
  output : Bytes

/-- The parent container, the index loader, the codec and `new`. The loop over `fileRead` need
not end; it is followed for `turns` turns. -/
structure Device (World : Type) where
  turns : Nat
  fileRead : U64 → U64 → World → ReadResult × World
  loadIndex : U32 → World → Option BevvyIndex × World
  decompress : Bytes → Nat → World → Decompressed × World
  allocate : World → (Nat → UInt8) × World
  bounded : ∀ count offset world,
    (fileRead count offset world).1.bytes.length ≤ count.toNat

/-! ## The loop over `fileRead` -/

/-- `position` is that of `buf` in the chunk buffer; `delivered` counts what was placed there. -/
structure ReadLoop (World : Type) where
  toRead : U64
  chunkOffset : U64
  position : Int
  delivered : Nat
  world : World

/-- The counters, and the bytes at the start of the chunk buffer that have arrived. -/
structure ChunkRead (World : Type) where
  counters : ReadLoop World
  arrived : Bytes

namespace Device

variable {World : Type} (device : Device World)

/-- One turn. A result of -1 becomes 2^64 - 1, and a pointer moved by that is moved back by
one. -/
def loopTurn (state : ReadLoop World) : Turn (ReadLoop World) (ReadLoop World) :=
  if state.toRead > 0 then
    let (answer, world) := device.fileRead state.toRead state.chunkOffset state.world
    let res : U64 := BitVec.ofInt 64 answer.res
    if res = 0 then .done { state with world := world }
    else
      .next {
        toRead := state.toRead - res
        chunkOffset := state.chunkOffset + res
        position := state.position + res.toInt
        delivered := state.delivered + answer.bytes.length
        world := world }
  else .done state

def loopStart (chunkLength : U32) (chunkOffset : U64) (world : World) : ReadLoop World :=
  ⟨chunkLength.setWidth 64, chunkOffset, 0, 0, world⟩

/-- A turn with what `fileRead` places at `buf`; `none` when `buf` leaves the chunk buffer. -/
def chunkTurn (state : ChunkRead World) : Turn (ChunkRead World) (Option (ChunkRead World)) :=
  match device.loopTurn state.counters with
  | .done counters => .done (some { state with counters := counters })
  | .next counters =>
      if counters.position < 0 then .done none
      else
        let answer := (device.fileRead state.counters.toRead state.counters.chunkOffset
          state.counters.world).1
        .next ⟨counters, overlay state.arrived state.counters.position.toNat answer.bytes⟩

/-- What is in the chunk buffer when the loop has ended; `none` when it has not, or `buf` has left
the buffer. -/
def readChunk (chunkLength : U32) (chunkOffset : U64) (world : World) : Option (Bytes × World) :=
  match Loop.run device.chunkTurn device.turns ⟨loopStart chunkLength chunkOffset world, []⟩ with
  | some (some last) => some (last.arrived, last.counters.world)
  | _ => none

/-- Memory that `new` hands out, with bytes of one origin at its start. -/
def fill (heap : Nat → UInt8) (bytes : Bytes) (origin : Origin) : Nat → Cell :=
  store (fun index => ⟨heap index, .uninitialised⟩) 0 (bytes.map fun byte => ⟨byte, origin⟩)

end Device

/-- `cacheBuffer_t`, with the event that it was loaded in; the null pointer has none. -/
structure ChunkBuffer (World : Type) where
  cells : Nat → Cell
  size : U32
  source : Option (LoadEvent World)

def ChunkBuffer.null {World : Type} : ChunkBuffer World := ⟨fun _ => ⟨0, .uninitialised⟩, 0, none⟩

/-- The members of `ImageStream` that no read changes, over a device. -/
structure DeviceStream (World : Type) where
  device : Device World
  length : U64
  chunkSize : U32
  chunksInSegment : U32
  cacheSize : U64
  closed : Bool

structure DeviceState (World : Type) where
  chunkCache : Cache U64 (Except (ReadFault World) (ChunkBuffer World))
  bevvyIndexCache : Cache U32 (Option BevvyIndex)
  world : World

namespace DeviceStream

variable {World : Type} (self : DeviceStream World)

def fresh (world : World) : DeviceState World where
  chunkCache := .empty self.cacheSize
  bevvyIndexCache := .empty ImageStream.bevvyIndexCacheSize
  world := world

/-! ## `ChunkLoader::load` -/

/-- The rest of `load` for a point with a length. -/
def loadPoint (event : LoadEvent World) : Except (ReadFault World) (ChunkBuffer World) × World :=
  let chunkOffset := event.dataOffset + event.point.offset
  let chunkLength := event.point.length.setWidth 64
  let (heap, world) := self.device.allocate event.world
  match self.device.readChunk event.point.length chunkOffset world with
  | none => (.error (.notLoaded event), world)
  | some (bytes, world) =>
      if chunkLength ≠ self.chunkSize.setWidth 64 then
        let (dest, world) := self.device.allocate world
        let (result, world) := self.device.decompress
          (firstCells (store heap 0 bytes) chunkLength.toNat) self.chunkSize.toNat world
        let origin := if result.success ∧ bytes.length = chunkLength.toNat then Origin.decoded
          else .spoiled
        (.ok ⟨Device.fill dest result.output origin, self.chunkSize, some event⟩, world)
      else (.ok ⟨Device.fill heap bytes .container, self.chunkSize, some event⟩, world)

abbrev LoaderState (World : Type) := Cache U32 (Option BevvyIndex) × World

/-- `load`; a fault stands for the call that does not return. -/
def loadChunk (key : U64) (state : LoaderState World) :
    Except (ReadFault World) (ChunkBuffer World) × LoaderState World :=
  if self.chunkSize = 0 ∨ self.chunksInSegment = 0 then (.error .divideByZero, state)
  else
    let chunk := key / self.chunkSize.setWidth 64
    let bevvyID := (chunk / self.chunksInSegment.setWidth 64).setWidth 32
    match state.1.get bevvyID (fun world => some (self.device.loadIndex bevvyID world)) state.2 with
    | none => (.error .cacheEnd, state)
    | some (none, bevvyIndexCache, world) => (.ok .null, bevvyIndexCache, world)
    | some (some index, bevvyIndexCache, world) =>
        let chunkID := chunk % self.chunksInSegment.setWidth 64
        let point := index.getPoint (chunkID.setWidth 32)
        if point.length = 0 then (.ok .null, bevvyIndexCache, world)
        else
          let (loaded, world) := self.loadPoint ⟨index.dataChunkOffset, point, world⟩
          (loaded, bevvyIndexCache, world)

/-- `chunkCache->get` -/
def getChunk (key : U64) (state : DeviceState World) :
    Except (ReadFault World) (ChunkBuffer World) × DeviceState World :=
  match state.chunkCache.get key (fun inner => some (self.loadChunk key inner))
      (state.bevvyIndexCache, state.world) with
  | none => (.error .cacheEnd, state)
  | some (loaded, chunkCache, bevvyIndexCache, world) =>
      (loaded, ⟨chunkCache, bevvyIndexCache, world⟩)

/-! ## `ImageStream::read` -/

/-- The loop state, with the chunks that were copied from so far. -/
structure ReadState (World : Type) where
  leftToRead : U64
  actualRead : U64
  offset : U64
  buffer : Nat
  memory : Nat → Cell
  state : DeviceState World
  touched : List (U64 × ChunkBuffer World)

/-- What `read` returns and leaves behind. -/
structure ReadEnd (World : Type) where
  res : Int
  memory : Nat → Cell
  state : DeviceState World
  touched : List (U64 × ChunkBuffer World)

def copyChunk (state : ReadState World) (chunkOffset : U64) (entry : ChunkBuffer World)
    (after : DeviceState World) : ReadState World :=
  let delta := state.offset - chunkOffset
  let toCopy := stdMin (entry.size.setWidth 64 - delta) state.leftToRead
  { leftToRead := state.leftToRead - toCopy
    actualRead := state.actualRead + toCopy
    offset := state.offset + toCopy
    buffer := state.buffer + toCopy.toNat
    memory := store state.memory state.buffer
      (firstCells (fun index => entry.cells (delta.toNat + index)) toCopy.toNat)
    state := after
    touched := state.touched ++ [(chunkOffset, entry)] }

def readTurn (state : ReadState World) :
    Turn (ReadState World) (Except (ReadFault World) (ReadEnd World)) :=
  if state.leftToRead > 0 then
    if self.chunkSize = 0 then .done (.error .divideByZero)
    else
      let chunkOffset := state.offset / self.chunkSize.setWidth 64 * self.chunkSize.setWidth 64
      match self.getChunk chunkOffset state.state with
      | (.error fault, _) => .done (.error fault)
      | (.ok entry, after) =>
          if entry.size = 0 then .done (.ok ⟨-1, state.memory, after, state.touched⟩)
          else .next (copyChunk state chunkOffset entry after)
  else .done (.ok ⟨state.actualRead.toInt, state.memory, state.state, state.touched⟩)

/-- `ImageStream::read`, with at most `count + 1` turns of its loop. -/
def read (memory : Nat → Cell) (count offset : U64) (state : DeviceState World) :
    Option (Except (ReadFault World) (ReadEnd World)) :=
  if self.closed then some (.ok ⟨-1, memory, state, []⟩)
  else if offset > self.length then some (.ok ⟨0, memory, state, []⟩)
  else
    let count := truncateCount self.length offset count
    Loop.run self.readTurn (count.toNat + 1) ⟨count, 0, offset, 0, memory, state, []⟩

end DeviceStream

end Aff4Lite.Stream
