import Aff4Lite.Lib.OrderedMap
import Aff4Lite.Lib.Session
import Aff4Lite.Rdf.Model
import Aff4Lite.Stream.MapStream
import Aff4Lite.Stream.StreamObject
import Aff4Lite.XWays.Sparse

/-!
# The X-Ways plugin

`IIO_Init`, `IIO_Work` and `IIO_Done` over the table of handles, as built for x64. What the
steps of `IIO_Init` find is an argument. A handle holds the map of an image with the stream
objects below it, and is their last owner.
-/

set_option autoImplicit false

namespace Aff4Lite.XWays

open Lib Rdf Aff4Lite.Stream

/-! ## Flags -/

def iioInitRead : BitVec 32 := 0x0001
def iioInitDisk : BitVec 32 := 0x0010
def iioInitVolume : BitVec 32 := 0x0020
def iioInitThreadsafe : BitVec 32 := 0x0100
def iioInitUnalignedOk : BitVec 32 := 0x0200
def iioInitErrorGiveUp : BitVec 32 := 0x4000

def iioWrite : BitVec 8 := 0x01
def iioCheckForSparse : BitVec 8 := 0x20
def iioSparseDetected : BitVec 8 := 0x40

/-! ## What `IIO_Init` finds -/

/-- The first image of the container, with what `getMap` and `getStream` return. -/
structure FoundImage (Stream : Type) where
  properties : Properties
  map : Option (Option Stream)

/-- `none` stands for a null pointer, and `resolver` tells whether there is a resolver. The
second and the third field are only asked without a container. -/
structure Findings (Stream : Type) where
  container : Option (List (Option (FoundImage Stream)))
  isAFF4Container : Bool
  resourceID : Bytes
  resolver : Bool

/-- What the search for the stream ends with. -/
inductive Opening (Stream : Type) where
  | unopened
  | givenUp (enoent : Bool) (message : Bytes)
  | opened (properties : Properties) (stream : Stream)

def Opening.map {Stream Other : Type} (change : Stream → Other) : Opening Stream → Opening Other
  | .unopened => .unopened
  | .givenUp enoent message => .givenUp enoent message
  | .opened properties stream => .opened properties (change stream)

namespace Findings

variable {Stream Other : Type}

def opening (findings : Findings Stream) : Opening Stream :=
  match findings.container with
  | none =>
      if !findings.isAFF4Container then .unopened
      else if findings.resourceID = [] then
        .givenUp false (text "Invalid AFF4 Container - Missing Resource Identifier")
      else .givenUp false (text "Invalid AFF4 Container - Missing Contents")
  | some images =>
      if !findings.resolver then .givenUp true (text "Unable to construct Resolver at location.")
      else
        match images with
        | [] => .givenUp true (text "No Images contained or available in the AFF4 Container.")
        | none :: _ =>
            .givenUp true (text "No Images contained or available in the AFF4 Container.")
        | some image :: _ =>
            match image.map with
            | none => .givenUp true (text "Primary Image is missing required Datastream Map.")
            | some none => .givenUp true
                (text "Datastream for Image is not available or corrupted.")
            | some (some stream) => .opened image.properties stream

/-- The same findings with other streams. -/
def map (change : Stream → Other) (findings : Findings Stream) : Findings Other where
  container := findings.container.map fun images => images.map fun image =>
    image.map fun image => ⟨image.properties, image.map.map fun stream => stream.map change⟩
  isAFF4Container := findings.isAFF4Container
  resourceID := findings.resourceID
  resolver := findings.resolver

theorem opening_map (change : Stream → Other) (findings : Findings Stream) :
    (findings.map change).opening = findings.opening.map change := by
  obtain ⟨container, isAFF4Container, resourceID, resolver⟩ := findings
  unfold opening map
  cases container with
  | none =>
      dsimp only [Option.map_none]
      split
      · rfl
      · split <;> rfl
  | some images =>
      dsimp only [Option.map_some]
      split
      · rfl
      · cases images with
        | nil => rfl
        | cons image images =>
            cases image with
            | none => rfl
            | some image =>
                obtain ⟨properties, map⟩ := image
                cases map with
                | none => rfl
                | some stream => cases stream <;> rfl

end Findings

/-! ## `ImageInfo` -/

/-- What ends the process. -/
inductive Crash where
  | stream (fault : Fault)
  | divisionByZero
  deriving DecidableEq, Repr

structure ImageInfo where
  nSize : BitVec 32
  nSectorCount : U64
  nSectorSize : BitVec 32
  nFlags : BitVec 32
  lpTextualDescr : Option Bytes
  deriving DecidableEq, Repr

/-- `sizeof(ImageInfo)` with its members packed to two bytes. -/
def ImageInfo.initial : ImageInfo := ⟨28, 0, 512, 0, none⟩

/-- Disk or volume, by the first type that tells, else by the type of an APFS container. -/
def kindFlags (properties : Properties) : BitVec 32 :=
  let named := (getProperty properties .aff4Type).findSome? fun v =>
    if v.rdfType = .aff4DiskImageType then some iioInitDisk
    else if v.rdfType = .aff4VolumeImageType then some iioInitVolume
    else none
  match named with
  | some flag => flag
  | none =>
      if (getProperty properties .bbtApfsContainerType).any fun v =>
          v.rdfType = .bbtApfsContainerTypeT2 ∨ v.rdfType = .bbtApfsContainerTypeFusion ∨
            v.rdfType = .bbtApfsContainerTypeStandard then iioInitVolume
      else 0

def sectorSize (properties : Properties) : BitVec 32 :=
  match getProperty properties .aff4Blocksize with
  | [] => 512
  | v :: _ =>
      if v.xsdType = .int then v.valueInt
      else if v.xsdType = .long then v.valueLong.setWidth 32
      else 512

def sectorCount (properties : Properties) (size : U64) : Except Crash U64 :=
  match getProperty properties .aff4DiskDeviceSectorCount with
  | v :: _ =>
      .ok (if v.xsdType = .int then v.valueInt.signExtend 64
        else if v.xsdType = .long then v.valueLong
        else 0)
  | [] =>
      if sectorSize properties = 0 then .error .divisionByZero
      else .ok (size.sdiv ((sectorSize properties).setWidth 64))

def setAFF4Prefix (value : Bytes) : Bytes :=
  if value.take baseUri.length = baseUri then text "aff4:" ++ value.drop baseUri.length else value

def crlf : Bytes := [13, 10]

section Plugin

variable (packageString : Bytes) (toString : RDFValue → Bytes)

/-- `getMetaData`, before the conversion to UTF-16: one line for each property that is not a
resource. `toString` is that of `RDFValue`; any text of a value will do. -/
def getMetaData (properties : Properties) : Bytes :=
  packageString ++ crlf ++ properties.entries.flatMap fun property =>
    if property.1 = .aff4Type ∨ property.2.head?.any fun v => v.xsdType = .resource then []
    else
      setAFF4Prefix (getLexiconString property.1) ++ text ": " ++
        (text ", ").intercalate (property.2.map fun value => setAFF4Prefix (toString value)) ++ crlf

def imageInfo (properties : Properties) (size : U64) : Except Crash ImageInfo := do
  let nSectorCount ← sectorCount properties size
  return {
    nSize := ImageInfo.initial.nSize
    nSectorCount := nSectorCount
    nSectorSize := sectorSize properties
    nFlags := iioInitRead ||| iioInitThreadsafe ||| iioInitUnalignedOk ||| kindFlags properties
    lpTextualDescr := some (getMetaData packageString toString properties) }

def givenUpInfo (message : Bytes) : ImageInfo :=
  { ImageInfo.initial with nFlags := iioInitErrorGiveUp, lpTextualDescr := some message }

/-! ## The stream of a handle -/

structure HeldStream (Ref : Type) where
  map : MapStream Ref
  objects : Ref → StreamObject
  getResourceID : Ref → Bytes
  caches : Ref → ImageState

/-- The pointer that is returned, `*pImgInfo` where it is written, and whether `errno` is set to
`ENOENT`. -/
structure InitAnswer where
  res : U64
  info : Option ImageInfo
  enoent : Bool
  deriving DecidableEq, Repr

/-- The count that is returned, the bytes at the front of the buffer, and `*pFlags`. -/
structure WorkAnswer where
  res : Int
  bytes : Bytes
  flags : Option (BitVec 8)
  enoent : Bool
  deriving DecidableEq, Repr

inductive PluginAnswer where
  | init (answer : InitAnswer)
  | work (answer : WorkAnswer)
  | done (res : BitVec 32)
  deriving DecidableEq, Repr

/-! ## The interface -/

/-- A request that goes beyond the end of the disk is cut off there. -/
def capAtEnd (length nOfs nSize : U64) : U64 :=
  if (nOfs + nSize).toInt > length.toInt then nSize - ((nOfs + nSize) - length) else nSize

structure PluginState (Ref : Type) where
  nextHandle : BitVec 32
  handles : OrderedMap Int (HeldStream Ref)

namespace PluginState

variable {Ref : Type}

def initial : PluginState Ref := ⟨1, .empty⟩

def iioInit (self : PluginState Ref) (lpFilePath : Option Bytes) (pImgInfo : Bool)
    (findings : Findings (HeldStream Ref)) : Except Crash (InitAnswer × PluginState Ref) :=
  match lpFilePath with
  | none => .ok (⟨0, none, false⟩, self)
  | some file =>
      if !pImgInfo then .ok (⟨0, none, false⟩, self)
      else if file = [] then .ok (⟨0, some .initial, true⟩, self)
      else
        let handle := self.nextHandle
        match findings.opening with
        | .unopened => .ok (⟨0, some .initial, true⟩, self)
        | .givenUp enoent message =>
            .ok (⟨handle.signExtend 64, some (givenUpInfo message), enoent⟩,
              { self with nextHandle := handle + 1 })
        | .opened properties stream => do
            let info ← imageInfo packageString toString properties stream.map.size
            return (⟨handle.signExtend 64, some info, false⟩, {
              nextHandle := handle + 1
              handles := self.handles.insert handle.toInt stream })

/-- `stream->read(lpBuffer, nSize, nOfs)`, where a failure counts as nothing. `memory` is what
the buffer holds before the call. -/
def readStream [DecidableEq Ref] (self : PluginState Ref) (handle : BitVec 32)
    (stream : HeldStream Ref) (nOfs nSize : U64) (memory : Nat → UInt8)
    (pFlags : Option (BitVec 8)) : Outcome Crash (WorkAnswer × PluginState Ref) :=
  match stream.map.read (StreamObject.reader stream.objects fun _ => memory)
      (freshBuffer memory nSize) nSize nOfs stream.caches with
  | none => none
  | some (.error fault) => some (.error (.stream fault))
  | some (.ok result) =>
      let delivered := ReadResult.returned result.res result.memory
      some (.ok (⟨max result.res 0, delivered.bytes, pFlags, false⟩, { self with
        handles := self.handles.insert handle.toInt { stream with caches := result.world } }))

/-- The arguments `nOfs` and `nSize` are `INT64`s. `lpBuffer` is what the buffer holds. -/
def iioWork [DecidableEq Ref] (self : PluginState Ref) (lpImage nOfs nSize : U64)
    (lpBuffer : Option (Nat → UInt8)) (pFlags : Option (BitVec 8)) :
    Outcome Crash (WorkAnswer × PluginState Ref) :=
  let nothing (enoent : Bool) := some (.ok (⟨0, [], pFlags, enoent⟩, self))
  match lpBuffer with
  | none => nothing false
  | some memory =>
      if lpImage = 0 ∨ nOfs.toInt < 0 ∨ nSize.toInt ≤ 0 then nothing false
      else
        let flags := pFlags.getD 0
        if flags &&& iioWrite = iioWrite then nothing false
        else
          let handle := lpImage.setWidth 32
          match self.handles.find? handle.toInt with
          | none => nothing true
          | some stream =>
              if flags &&& iioCheckForSparse = iioCheckForSparse then
                let nSize := capAtEnd stream.map.size nOfs nSize
                if nSize.toInt ≤ 0 then nothing false
                else
                  match isSparse stream.map stream.getResourceID nOfs nSize with
                  | none => none
                  | some (.error fault) => some (.error (.stream fault))
                  | some (.ok true) => some (.ok (⟨nSize.toInt, [],
                      pFlags.map fun flags => flags ||| iioSparseDetected, false⟩, self))
                  | some (.ok false) => self.readStream handle stream nOfs nSize memory pFlags
              else self.readStream handle stream nOfs nSize memory pFlags

def iioDone (self : PluginState Ref) (lpImage : U64) : BitVec 32 × PluginState Ref :=
  (1, { self with handles := self.handles.erase (lpImage.setWidth 32).toInt })

end PluginState

/-! ## Calls -/

inductive Call (Stream : Type) where
  | init (lpFilePath : Option Bytes) (pImgInfo : Bool) (findings : Findings Stream)
  | work (lpImage nOfs nSize : U64) (lpBuffer : Option (Nat → UInt8)) (pFlags : Option (BitVec 8))
  | done (lpImage : U64)

def Call.map {Stream Other : Type} (change : Stream → Other) : Call Stream → Call Other
  | .init lpFilePath pImgInfo findings => .init lpFilePath pImgInfo (findings.map change)
  | .work lpImage nOfs nSize lpBuffer pFlags => .work lpImage nOfs nSize lpBuffer pFlags
  | .done lpImage => .done lpImage

def PluginState.step {Ref : Type} [DecidableEq Ref] (call : Call (HeldStream Ref))
    (self : PluginState Ref) : Outcome Crash (PluginAnswer × PluginState Ref) :=
  match call with
  | .init lpFilePath pImgInfo findings =>
      some ((self.iioInit packageString toString lpFilePath pImgInfo findings).map fun outcome =>
        (.init outcome.1, outcome.2))
  | .work lpImage nOfs nSize lpBuffer pFlags =>
      (self.iioWork lpImage nOfs nSize lpBuffer pFlags).map fun outcome =>
        outcome.map fun outcome => (.work outcome.1, outcome.2)
  | .done lpImage =>
      let outcome := self.iioDone lpImage
      some (.ok (.done outcome.1, outcome.2))

end Plugin

end Aff4Lite.XWays
