import Aff4Lite.Containers.ZipContainer
import Aff4Lite.Rdf.Model

/-!
# `AFF4ZipContainer::getImageStream`

The streams of the factory, and which of them, or of its own image streams, a container
opens for a resource.
-/

set_option autoImplicit false

namespace Aff4Lite.Containers

open Lib Rdf Zip Aff4Lite.Stream

/-- The `IAFF4Stream`s of `getImageStream`, by what their constructors were given. -/
inductive ContainerStream where
  | symbolic (resource : Bytes) (symbol : UInt8)
  | repeated (resource symbol : Bytes)
  | image (resource : Bytes)
  deriving DecidableEq

/-! ## The factory -/

def createZeroStream : ContainerStream :=
  .symbolic (getLexiconString .aff4ImagestreamZero) 0

def createUnknownStream : ContainerStream :=
  .repeated (getLexiconString .aff4ImagestreamUnknown) (text "UNKNOWN")

/-- `createUnknownStream(resource)` -/
def createUnknownStreamFor (resource : Bytes) : ContainerStream :=
  .repeated resource (text "UNKNOWN")

def createUnreadableStream : ContainerStream :=
  .repeated (getLexiconString .aff4ImagestreamUnreadable) (text "UNREADABLEDATA")

/-- `SymbolicImageStream(resource)`: the symbol stays 0 where `std::stoi` throws. -/
def createSymbolicStream (resource : Bytes) : ContainerStream :=
  let pre := getLexiconString .aff4ImagestreamSymbolicPrefix
  if hasPrefix resource pre then
    match stoi 16 (resource.drop pre.length) with
    | some value => .symbolic resource (UInt8.ofNat (value % 256).toNat)
    | none => .symbolic resource 0
  else .symbolic resource 0

/-! ## The container -/

/-- A container with the RDF model of its archive. -/
structure AFF4ZipContainer where
  zip : ZipContainer
  model : Model

namespace AFF4ZipContainer

def getResourceID (container : AFF4ZipContainer) : Bytes := container.zip.resourceID

/-- `Zip::hasEntry` -/
def hasEntry (container : AFF4ZipContainer) (segmentName : Bytes) : Bool :=
  container.zip.entries.any fun entry => entry.segmentName = segmentName

/-- The body of the loop over the `aff4:ImageStream`s of the model. -/
def openImageStream (container : AFF4ZipContainer) (resource streamID : Bytes) :
    Option ContainerStream :=
  if streamID = resource then
    match (container.model.getObjectInformation resource).find? .aff4Stored with
    | some values =>
        if values.any fun value =>
            value.xsdType = .resource && value.valueLiteral = container.getResourceID then
          some (.image resource)
        else none
    | none =>
        if container.hasEntry
            (container.zip.sanitizeResource (resource ++ text "/00000000.index")) then
          some (.image resource)
        else none
  else none

/-- What the constructor of the stream is given; `ContainerStream.construct` runs it. -/
def getImageStream (container : AFF4ZipContainer) (resource : Bytes) : Option ContainerStream :=
  if resource = [] then none
  else if resource = getLexiconString .aff4ImagestreamZero then some createZeroStream
  else if resource = getLexiconString .aff4ImagestreamUnknown then some createUnknownStream
  else if resource = getLexiconString .aff4ImagestreamUnreadable then some createUnreadableStream
  else if hasPrefix resource (getLexiconString .aff4ImagestreamSymbolicPrefix) then
    some (createSymbolicStream resource)
  else
    (container.model.getResourcesOfType .aff4ImagestreamType).findSome?
      (container.openImageStream resource)

end AFF4ZipContainer

end Aff4Lite.Containers
