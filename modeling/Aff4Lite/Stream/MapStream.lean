import Aff4Lite.Lib.Loop
import Aff4Lite.Lib.OrderedMap
import Aff4Lite.Stream.Interface

/-!
# `aff4::stream::MapStream`

The constructor (`initStreamVector`, `initMap`) and `read`. Steps whose behaviour C++
leaves undefined, and the record counter that cannot reach its bound, are faults.
-/

set_option autoImplicit false

namespace Aff4Lite.Stream

open Lib

/-- Why an execution has no defined continuation. -/
inductive Fault where
  /-- A null `shared_ptr` is dereferenced. -/
  | nullDereference
  /-- `for (uint32_t i = 0; i < size; i++)` with `size` of 2^32 or more. -/
  | counterWraps
  /-- `rbegin()` of an empty map is dereferenced. -/
  | emptyMap
  /-- The iterator is moved before `begin()`. -/
  | beforeBegin
  /-- `streams[entry.streamID]` outside the vector. -/
  | streamIndex
  /-- A read behind the end of the buffer that was allocated for it. -/
  | bufferOverrun
  deriving DecidableEq, Repr

/-! ## Resolving the lines of `idx` -/

/-- What a resolver's `open` returns, by `getBaseType()`: an `aff4:ImageStream`, a zip
volume with its own `hasResource` and `open`, or anything else. -/
inductive Resource (Stream : Type) where
  | imageStream (stream : Stream)
  | zipVolume (hasResource : Bytes → Bool) (openResource : Bytes → Option (Resource Stream))
  | other

/-- `IAFF4Resolver` -/
structure Resolver (Stream : Type) where
  hasResource : Bytes → Bool
  openResource : Bytes → Option (Resource Stream)

/-- The parent `AFF4ZipContainer` and the stream factory, as far as a map uses them.
`rdfModel` gives the value of the first `aff4:stored` property of a resource. -/
structure Parent (Stream : Type) where
  getSegment : Bytes → Option Segment
  getImageStream : Bytes → Option Stream
  resolver : Option (Resolver Stream)
  rdfModel : Option (Bytes → Option Bytes)
  createUnknownStream : Stream
  createUnknownStreamFor : Bytes → Stream

def queryResolver {Stream : Type} (parent : Parent Stream) (resource : Bytes) :
    Except Fault (Option Stream) :=
  match parent.resolver with
  | none => .ok none
  | some resolver =>
      let askParent : Except Fault (Option Stream) :=
        match parent.rdfModel with
        | none => .error .nullDereference
        | some storedIn =>
            match storedIn resource with
            | none => .ok none
            | some parentResource =>
                if resolver.hasResource parentResource then
                  match resolver.openResource parentResource with
                  | none => .error .nullDereference
                  | some (.zipVolume hasResource openResource) =>
                      if hasResource resource then
                        match openResource resource with
                        | none => .error .nullDereference
                        | some (.imageStream stream) => .ok (some stream)
                        | some _ => .ok none
                      else .ok none
                  | some _ => .ok none
                else .ok none
      if resolver.hasResource resource then
        match resolver.openResource resource with
        | none => .error .nullDereference
        | some (.imageStream stream) => .ok (some stream)
        | some _ => askParent
      else askParent

/-- `getLexiconString(AFF4_IMAGESTREAM_UNKNOWN)` -/
def lexiconUnknown : Bytes := text "http://aff4.org/Schema#UnknownData"

/-- The body of the line loop of `initStreamVector`. -/
def resolveLine {Stream : Type} (parent : Parent Stream) (unknownOverride : Option Stream)
    (line : Bytes) : Except Fault (Option Stream) :=
  let stream :=
    if line = lexiconUnknown ∧ unknownOverride.isSome then unknownOverride
    else parent.getImageStream line
  match stream with
  | some found => .ok (some found)
  | none => do
      match ← queryResolver parent line with
      | some found => .ok (some found)
      | none => .ok (some (parent.createUnknownStreamFor line))

def nonEmptyLines (idx : Bytes) : List Bytes :=
  (idx.splitOn 10).filter fun line => !line.isEmpty

def initStreamVector {Stream : Type} (parent : Parent Stream) (resource : Bytes)
    (unknownOverride : Option Stream) : Except Fault (List (Option Stream)) :=
  match parent.getSegment (resource ++ text "/idx") with
  | none => .ok []
  | some idx => (nonEmptyLines idx.bytes).mapM (resolveLine parent unknownOverride)

/-! ## Building the entry map -/

structure MapEntryPoint where
  offset : U64
  length : U64
  streamOffset : U64
  streamID : U32
  deriving DecidableEq, Repr

def sizeofMapEntryPoint : Nat := 28

def MapEntryPoint.ofBytes (bytes : Bytes) : MapEntryPoint where
  offset := wordLE 64 bytes
  length := wordLE 64 (bytes.drop 8)
  streamOffset := wordLE 64 (bytes.drop 16)
  streamID := wordLE 32 (bytes.drop 24)

/-- `streamSize / sizeof(MapEntryPoint)` -/
def Segment.recordCount (segment : Segment) : Nat := segment.size.toNat / sizeofMapEntryPoint

/-- The read delivers more than the whole records that the buffer is allocated for. -/
def Segment.overruns (segment : Segment) : Bool :=
  sizeofMapEntryPoint * segment.recordCount < segment.bytes.length

/-- The record buffer after the one read into it; what the read does not reach keeps the
contents of the fresh allocation. -/
def Segment.records (segment : Segment) (heap : Nat → UInt8) : List MapEntryPoint :=
  (List.range segment.recordCount).map fun index =>
    MapEntryPoint.ofBytes ((List.range sizeofMapEntryPoint).map fun byte =>
      store heap 0 segment.bytes (sizeofMapEntryPoint * index + byte))

/-- `std::sort` with `mapEntryPointCompare`: a sorted rearrangement, in no particular
order among records of one offset. -/
structure PointSort where
  sort : List MapEntryPoint → List MapEntryPoint
  perm : ∀ points, (sort points).Perm points
  sorted : ∀ points, (sort points).Pairwise fun left right => left.offset ≤ right.offset

structure MapBuild (Stream : Type) where
  map : OrderedMap Nat MapEntryPoint
  offset : U64
  streams : List (Option Stream)

def sparseRegion (mapGPSid : Nat) (offset length : U64) : MapEntryPoint where
  offset := offset
  length := length
  streamOffset := offset
  streamID := BitVec.ofNat 32 mapGPSid

/-- `if (offset != mapPoint.offset)`: insert a sparse point up to the record. -/
def fillGap {Stream : Type} (mapGPSid : Nat) (build : MapBuild Stream) (mapPoint : MapEntryPoint) :
    MapBuild Stream :=
  if build.offset ≠ mapPoint.offset then
    { build with
      map := build.map.insert build.offset.toNat
        (sparseRegion mapGPSid build.offset (mapPoint.offset - build.offset))
      offset := mapPoint.offset }
  else build

/-- `if (mapPoint.streamID >= streams.size())`: give the record an unknown stream. -/
def placePoint {Stream : Type} (unknown : Stream) (build : MapBuild Stream)
    (mapPoint : MapEntryPoint) : MapBuild Stream :=
  if mapPoint.streamID.toNat ≥ build.streams.length then
    { map := build.map.insert build.offset.toNat
        { mapPoint with streamID := BitVec.ofNat 32 build.streams.length }
      offset := build.offset + mapPoint.length
      streams := build.streams ++ [some unknown] }
  else
    { build with
      map := build.map.insert build.offset.toNat mapPoint
      offset := build.offset + mapPoint.length }

def addPoint {Stream : Type} (unknown : Stream) (mapGPSid : Nat) (build : MapBuild Stream)
    (mapPoint : MapEntryPoint) : MapBuild Stream :=
  placePoint unknown (fillGap mapGPSid build mapPoint) mapPoint

/-- The construction loop over the sorted records. The gap stream is pushed behind the
streams of `idx`, so its ID is their number. -/
def buildMap {Stream : Type} (unknown : Stream) (streams : List (Option Stream))
    (mapGapStream : Option Stream) (mapPoints : List MapEntryPoint) : MapBuild Stream :=
  mapPoints.foldl (addPoint unknown streams.length) ⟨.empty, 0, streams ++ [mapGapStream]⟩

/-- `if (offset < length)`: the missing end. -/
def fillTail {Stream : Type} (mapGPSid : Nat) (build : MapBuild Stream) (length : U64) :
    OrderedMap Nat MapEntryPoint :=
  if build.offset < length then
    build.map.insert build.offset.toNat
      (sparseRegion mapGPSid build.offset (length - build.offset))
  else build.map

/-- The members of `MapStream` that `read` uses. -/
structure MapStream (Stream : Type) where
  closed : Bool
  length : U64
  streams : List (Option Stream)
  map : OrderedMap Nat MapEntryPoint

def initMap {Stream : Type} (parent : Parent Stream) (resource : Bytes) (length : U64)
    (streams : List (Option Stream)) (mapGapStream : Option Stream) (order : PointSort)
    (heap : Nat → UInt8) : Except Fault (MapStream Stream) :=
  match parent.getSegment (resource ++ text "/map") with
  | none => .ok ⟨false, 0, streams, .empty⟩
  | some segment =>
      if segment.size = 0 then .ok ⟨false, 0, streams, .empty⟩
      -- The buffer is sized by the whole records, and `streamSize` bytes are read into it.
      else if segment.overruns then .error .bufferOverrun
      else if 2 ^ 32 ≤ segment.recordCount then .error .counterWraps
      else
        let build := buildMap parent.createUnknownStream streams mapGapStream
          (order.sort (segment.records heap))
        .ok {
          closed := false
          length := if length = 0 then build.offset else length
          streams := build.streams
          map := fillTail streams.length build length }

def MapStream.close {Stream : Type} (stream : MapStream Stream) : MapStream Stream :=
  if stream.closed then stream else { stream with closed := true, streams := [] }

/-- The constructor. `size` is the declared size of the map. -/
def MapStream.create {Stream : Type} (parent : Parent Stream) (resource : Bytes) (size : U64)
    (unknownOverride mapGapStream : Option Stream) (order : PointSort) (heap : Nat → UInt8) :
    Except Fault (MapStream Stream) := do
  let streams ← initStreamVector parent resource unknownOverride
  let stream ← initMap parent resource size streams mapGapStream order heap
  return if stream.length = 0 then stream.close else stream

def MapStream.size {Stream : Type} (stream : MapStream Stream) : U64 := stream.length

/-! ## Reading -/

/-- The map entry for an offset: `lower_bound`, then one entry back unless the offset is
a key; past the last key, the last entry. -/
def MapStream.entryAt {Stream : Type} (stream : MapStream Stream) (offset : U64) :
    Except Fault MapEntryPoint :=
  match stream.map.lowerBound offset.toNat with
  | some mapIt =>
      if mapIt.2.offset > offset then
        match stream.map.stepBack mapIt.1 with
        | some prior => .ok prior.2
        | none => .error .beforeBegin
      else .ok mapIt.2
  | none =>
      match stream.map.last? with
      | some endIt => .ok endIt.2
      | none => .error .emptyMap

/-- `entry.streamOffset + (offset - entry.offset)` -/
def MapEntryPoint.lowerOffset (entry : MapEntryPoint) (offset : U64) : U64 :=
  entry.streamOffset + (offset - entry.offset)

/-- `std::min<uint64_t>(leftToRead, (entry.length - (offset - entry.offset)))` -/
def MapEntryPoint.readLength (entry : MapEntryPoint) (offset leftToRead : U64) : U64 :=
  stdMin leftToRead (entry.length - (offset - entry.offset))

/-- A read of a lower stream, recorded for the statements about what was delivered. -/
structure LowerRead (Stream : Type) where
  address : U64
  stream : Stream
  count : U64
  result : ReadResult

structure ReadState (Stream World : Type) where
  leftToRead : U64
  actualRead : U64
  offset : U64
  buffer : Nat
  memory : Buffer
  world : World
  lowerReads : List (LowerRead Stream)

/-- What `MapStream::read` returns and leaves behind. -/
structure ReadEnd (Stream World : Type) where
  res : Int
  memory : Buffer
  world : World
  lowerReads : List (LowerRead Stream)

/-- The cursors after a lower stream was asked for `count` bytes. -/
def ReadState.advance {Stream World : Type} (state : ReadState Stream World) (stream : Stream)
    (count : U64) (outcome : ReadResult × World) : ReadState Stream World where
  leftToRead := state.leftToRead - count
  actualRead := state.actualRead + count
  offset := state.offset + count
  buffer := state.buffer + count.toNat
  memory := state.memory.write state.buffer outcome.1.bytes
  world := outcome.2
  lowerReads := state.lowerReads ++ [⟨state.offset, stream, count, outcome.1⟩]

/-- The rest of a turn: `if (res <= 0) return -1;`, or on to the next piece. -/
def ReadState.serve {Stream World : Type} (state : ReadState Stream World) (stream : Stream)
    (count : U64) (outcome : ReadResult × World) :
    Turn (ReadState Stream World) (Except Fault (ReadEnd Stream World)) :=
  let after := state.advance stream count outcome
  if outcome.1.res ≤ 0 then .done (.ok ⟨-1, after.memory, after.world, after.lowerReads⟩)
  else .next after

def MapStream.readTurn {Stream World : Type} (self : MapStream Stream)
    (reader : StreamReader Stream World) (state : ReadState Stream World) :
    Turn (ReadState Stream World) (Except Fault (ReadEnd Stream World)) :=
  if state.leftToRead = 0 then
    .done (.ok ⟨state.actualRead.toInt, state.memory, state.world, state.lowerReads⟩)
  else
    match self.entryAt state.offset with
    | .error fault => .done (.error fault)
    | .ok entry =>
        match self.streams[entry.streamID.toNat]? with
        | none => .done (.error .streamIndex)
        | some none => .done (.error .nullDereference)
        | some (some stream) =>
            let count := entry.readLength state.offset state.leftToRead
            state.serve stream count
              (reader.read stream count (entry.lowerOffset state.offset) state.world)

/-- `MapStream::read`. Every turn of the loop that goes round again has handed out a byte,
so `count + 1` turns are enough for any loop that ends. -/
def MapStream.read {Stream World : Type} (self : MapStream Stream)
    (reader : StreamReader Stream World) (memory : Buffer) (count offset : U64) (world : World) :
    Option (Except Fault (ReadEnd Stream World)) :=
  if self.closed then some (.ok ⟨-1, memory, world, []⟩)
  else if offset > self.size then some (.ok ⟨0, memory, world, []⟩)
  else
    let count := truncateCount self.size offset count
    Loop.run (self.readTurn reader) (count.toNat + 1) {
      leftToRead := count
      actualRead := 0
      offset := offset
      buffer := 0
      memory := memory
      world := world
      lowerReads := [] }

end Aff4Lite.Stream
