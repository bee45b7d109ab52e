import Aff4Lite.Containers.Descriptors
import Aff4Lite.Lib.OrderedMap
import Aff4Lite.Rdf.Model

/-!
# `aff4-c.cc`

The handle table of the C interface after `AFF4_init`, over the archives and the descriptors of
the process. What the steps of `AFF4_open` find is an argument, and so is the code of the
stream that it ends with; a stream reads the archives that were opened for it.
-/

set_option autoImplicit false

namespace Aff4Lite.CApi

open Lib Rdf Zip Containers Aff4Lite.Stream

/-- The values of `errno` that the interface sets. -/
inductive Errno where
  | enoent
  | ebadf
  | efault
  | einval
  | enodata
  deriving DecidableEq, Repr

/-- What a call returns, the `errno` that it sets, and what it puts into the buffer. -/
structure Answer where
  res : Int
  errno : Option Errno
  bytes : Bytes
  deriving DecidableEq, Repr

def Answer.failed (errno : Errno) : Answer := ⟨-1, some errno, []⟩

/-! ## Streams -/

/-- The methods of an `IAFF4Stream`. A read gets at the archives of the stream by `fileRead`,
in the order in which they were opened, and leaves the members as it has changed them. -/
structure StreamCode (Stream : Type) where
  size : Stream → U64
  blocksize : Stream → List RDFValue
  read : Stream → (Nat → U64 → U64 → ReadResult) → U64 → U64 → ReadResult × Stream

/-- A stream, and the numbers of the archives that it reads, its container's first. -/
structure StreamObject (Stream : Type) where
  stream : Stream
  volumes : List Nat

/-! ## What `AFF4_open` finds -/

structure Archive where
  file : File
  entries : List ZipEntry

/-- What `map->getStream()` returns, with the archives that the resolver opens for it. -/
structure OpenedStream (Stream : Type) where
  stream : Stream
  external : List Archive

structure OpenedMap (Stream : Type) where
  stream : Option (OpenedStream Stream)

structure OpenedImage (Stream : Type) where
  map : Option (OpenedMap Stream)

/-- `none` stands for a null pointer, and `resolver` tells whether there is a resolver. -/
structure Findings (Stream : Type) where
  container : Option Archive
  resolver : Bool
  images : List (Option (OpenedImage Stream))

/-! ## The interface -/

/-- `handles` leads to the stream that it holds, and with it to its container. -/
structure ApiState (Stream : Type) where
  system : System
  objects : List (StreamObject Stream)
  nextHandle : BitVec 32
  handles : OrderedMap Int Nat

section Interface

variable {Stream : Type} (code : StreamCode Stream)

def aff4Init (system : System) : ApiState Stream := ⟨system, [], 1, .empty⟩

/-- The end of an archive, by `close` or by its destructor. -/
def closeVolume (system : System) (volume : Nat) : System :=
  match system.zips[volume]? with
  | some zip => system.closeZip volume zip
  | none => system

def openArchive (system : System) (archive : Archive) : System :=
  system.openZip archive.file archive.entries

namespace ApiState

variable (self : ApiState Stream)

/-- The container and everything behind it goes out of scope. -/
def refuse (volume : Nat) : Answer × ApiState Stream :=
  (.failed .enoent, { self with system := closeVolume self.system volume })

/-- `(*handles)[handle] = handleEntry; nextHandle++;` -/
def register (container : Nat) (opened : OpenedStream Stream) : Answer × ApiState Stream :=
  let handle := self.nextHandle.toInt
  let external := List.range' self.system.zips.length opened.external.length
  (⟨handle, none, []⟩, {
    system := opened.external.foldl openArchive self.system
    objects := self.objects ++ [⟨opened.stream, container :: external⟩]
    nextHandle := self.nextHandle + 1
    handles := self.handles.insert handle self.objects.length })

def aff4Open (filename : Option Bytes) (findings : Findings Stream) : Answer × ApiState Stream :=
  match filename with
  | none => (.failed .enoent, self)
  | some file =>
      if file = [] then (.failed .enoent, self)
      else
        match findings.container with
        | none => (.failed .enoent, self)
        | some archive =>
            let container := self.system.zips.length
            let self := { self with system := openArchive self.system archive }
            if !findings.resolver then self.refuse container
            else
              match findings.images with
              | [] => self.refuse container
              | none :: _ => self.refuse container
              | some image :: _ =>
                  match image.map with
                  | none => self.refuse container
                  | some map =>
                      match map.stream with
                      | none => self.refuse container
                      | some opened => self.register container opened

/-- `handles->find(handle)`, with the stream that the entry holds. -/
def find (handle : Int) : Option (Nat × StreamObject Stream) := do
  let number ← self.handles.find? handle
  let object ← self.objects[number]?
  return (number, object)

def aff4ObjectSize (handle : Int) : Answer × ApiState Stream :=
  match self.find handle with
  | some (_, object) => (⟨(code.size object.stream).toInt, none, []⟩, self)
  | none => (.failed .ebadf, self)

/-- The block size that the first `aff4:blockSize` of a stream gives. -/
def blocksizeOf (properties : List RDFValue) : Answer :=
  match properties with
  | [] => .failed .enodata
  | v :: _ =>
      if v.xsdType = .int then ⟨v.valueInt.toInt, none, []⟩
      else if v.xsdType = .long then ⟨v.valueLong.toInt, none, []⟩
      else .failed .enodata

def aff4ObjectBlocksize (handle : Int) : Answer × ApiState Stream :=
  match self.find handle with
  | some (_, object) => (blocksizeOf (code.blocksize object.stream), self)
  | none => (.failed .ebadf, self)

/-- `fileRead` of the archives of a stream. -/
def access (object : StreamObject Stream) (volume : Nat) (count offset : U64) : ReadResult :=
  match object.volumes[volume]?.bind fun number => self.system.zips[number]? with
  | some zip => zip.fileRead self.system.process count offset
  | none => .failed

/-- What the caller gets of a read: the result is cut to an `int`. -/
def readAnswer (read : ReadResult) : Answer :=
  ⟨(BitVec.ofInt 32 read.res).toInt, none, read.bytes⟩

/-- `buffer` tells whether there is one. -/
def aff4Read (handle : Int) (offset : U64) (buffer : Bool) (length : BitVec 32) :
    Answer × ApiState Stream :=
  if !buffer then (.failed .efault, self)
  else if length.toInt ≤ 0 then (.failed .einval, self)
  else
    match self.find handle with
    | some (number, object) =>
        if offset > code.size object.stream then (.failed .einval, self)
        else
          let (read, stream) :=
            code.read object.stream (self.access object) (length.signExtend 64) offset
          (readAnswer read,
            { self with objects := self.objects.set number { object with stream := stream } })
    | none => (.failed .ebadf, self)

/-- The entry is the last owner of its container and its stream. -/
def aff4Close (handle : Int) : Answer × ApiState Stream :=
  match self.find handle with
  | some (_, object) =>
      (⟨0, none, []⟩, { self with
        system := object.volumes.foldl closeVolume self.system
        handles := self.handles.erase handle })
  | none => (.failed .ebadf, self)

end ApiState

/-! ## Calls -/

/-- A call on a handle. -/
inductive Request where
  | objectSize
  | objectBlocksize
  | read (offset : U64) (buffer : Bool) (length : BitVec 32)
  | close

inductive Call (Stream : Type) where
  | openFile (filename : Option Bytes) (findings : Findings Stream)
  | on (handle : Int) (request : Request)

/-- A call, with the state that it was made in. -/
structure Moment (Stream : Type) where
  before : ApiState Stream
  call : Call Stream
  answer : Answer
  after : ApiState Stream

namespace ApiState

def request (self : ApiState Stream) (handle : Int) : Request → Answer × ApiState Stream
  | .objectSize => self.aff4ObjectSize code handle
  | .objectBlocksize => self.aff4ObjectBlocksize code handle
  | .read offset buffer length => self.aff4Read code handle offset buffer length
  | .close => self.aff4Close handle

def step (self : ApiState Stream) : Call Stream → Answer × ApiState Stream
  | .openFile filename findings => self.aff4Open filename findings
  | .on handle request => self.request code handle request

def moment (self : ApiState Stream) (call : Call Stream) : Moment Stream :=
  ⟨self, call, (self.step code call).1, (self.step code call).2⟩

def run (self : ApiState Stream) : List (Call Stream) → List (Moment Stream)
  | [] => []
  | call :: calls => self.moment code call :: run (self.moment code call).after calls

end ApiState

end Interface

end Aff4Lite.CApi
