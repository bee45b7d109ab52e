import Aff4Lite.Containers.ResourceID
import Aff4Lite.Map.AFF4Map
import Aff4Lite.Rdf.TypedLiteral
import Aff4Lite.Resolver.LightResolver

/-!
# The RDF model of a container

`openContainer`, the constructor of `AFF4ZipContainer` and the operations that use its model.
The model is a pointer, which only `loadModel` sets; an operation through the null pointer has
no result.
-/

set_option autoImplicit false

namespace Aff4Lite.Containers

open Lib Rdf Zip Aff4Lite.Stream Aff4Lite.Map
open Aff4Lite.Resolver (isAFF4Container)

inductive ModelFault where
  | absentModel
  deriving DecidableEq, Repr

/-- `model->` -/
def dereference (model : Option Model) : Except ModelFault Model :=
  match model with
  | none => .error .absentModel
  | some model => .ok model

/-- `for (it : elements) addProperty(it->first, it->second);` -/
def addProperties (properties elements : Properties) : Properties :=
  elements.entries.foldl (fun added element => added.insert element.1 element.2) properties

/-! ## Images -/

structure AFF4Image where
  resource : Bytes
  properties : Properties

namespace AFF4Image

def caseTerms : List Lexicon := [.aff4CaseName, .aff4CaseDescription, .aff4CaseExaminer]

/-- The properties of an `aff4:CaseDetails` whose `aff4:target` is the image. -/
def addCaseDetails (model : Model) (resource : Bytes) (properties : Properties) (res : Bytes) :
    Properties :=
  let elements := model.getObjectInformation res
  if (getProperty elements .aff4Target).any fun value =>
      value.xsdType = .resource && value.valueLiteral = resource then
    elements.entries.foldl (fun added element =>
      if element.1 ∈ caseTerms then added.insert element.1 element.2 else added) properties
  else properties

/-- The constructor; `model` is `parent->getRDFModel()`. -/
def create (model : Option Model) (resource : Bytes) : Except ModelFault AFF4Image := do
  let model ← dereference model
  let properties := addProperties .empty (model.getObjectInformation resource)
  return ⟨resource, (model.getResourcesOfType .aff4CaseDetails).foldl
    (addCaseDetails model resource) properties⟩

end AFF4Image

/-! ## The container -/

structure ContainerObject where
  zip : ZipContainer
  properties : Properties
  model : Option Model
  images : List AFF4Image

inductive OpenedResource where
  | image (image : AFF4Image)
  | map (map : AFF4Map)
  | stream (stream : ContainerStream)
  | segment (entry : ZipEntry)

namespace ContainerObject

def getImages (self : ContainerObject) : Except ModelFault (List AFF4Image × ContainerObject) :=
  if self.images.isEmpty then do
    let model ← dereference self.model
    let images ← (model.getResourcesOfType .aff4ImageType).mapM (AFF4Image.create self.model)
    return (images, { self with images := images })
  else return (self.images, self)

def getImage (self : ContainerObject) (resource : Bytes) :
    Except ModelFault (Option AFF4Image × ContainerObject) := do
  let (images, self) ← self.getImages
  return (images.find? fun image => image.resource = resource, self)

/-- The constructor of `AFF4Map`, over the model of its parent. -/
def createMap (self : ContainerObject) (resource : Bytes) : Except ModelFault AFF4Map := do
  let model ← dereference self.model
  return .create ⟨self.zip, model⟩ resource

/-- `AFF4Image::getMap`, where the image is one of the container. -/
def mapOfImage (self : ContainerObject) (image : AFF4Image) :
    Except ModelFault (Option AFF4Map) :=
  let recheck := if (getProperty image.properties .aff4Type).any fun value =>
      value.rdfType = .aff4MapType then do
    let map ← self.createMap image.resource
    return some map
  else return none
  match getProperty image.properties .aff4Datastream with
  | [] => recheck
  | value :: _ =>
      if value.valueLiteral ≠ [] then do
        let map ← self.createMap value.valueLiteral
        return some map
      else recheck

def getMap (self : ContainerObject) (resource : Bytes) : Except ModelFault (Option AFF4Map) := do
  let model ← dereference self.model
  if resource ∈ model.getResourcesOfType .aff4MapType then
    let map ← self.createMap resource
    return some map
  else return none

/-- The symbolic streams come before the model is looked at. The constructor of an image stream,
which may divide by zero, is that of `ContainerStream.construct`. -/
def getImageStream (self : ContainerObject) (resource : Bytes) :
    Except ModelFault (Option ContainerStream) :=
  if resource = [] then .ok none
  else if resource = getLexiconString .aff4ImagestreamZero then .ok (some createZeroStream)
  else if resource = getLexiconString .aff4ImagestreamUnknown then .ok (some createUnknownStream)
  else if resource = getLexiconString .aff4ImagestreamUnreadable then
    .ok (some createUnreadableStream)
  else if hasPrefix resource (getLexiconString .aff4ImagestreamSymbolicPrefix) then
    .ok (some (createSymbolicStream resource))
  else do
    let model ← dereference self.model
    return (model.getResourcesOfType .aff4ImagestreamType).findSome?
      ((AFF4ZipContainer.mk self.zip model).openImageStream resource)

def getSegment (self : ContainerObject) (segmentName : Bytes) : Option ZipEntry :=
  self.zip.getSegment segmentName

/-- `open` -/
def openResource (self : ContainerObject) (resource : Bytes) :
    Except ModelFault (Option OpenedResource × ContainerObject) := do
  if resource = [] then return (none, self)
  let (image, self) ← self.getImage resource
  if let some image := image then return (some (.image image), self)
  let map ← self.getMap resource
  if let some map := map then return (some (.map map), self)
  let stream ← self.getImageStream resource
  if let some stream := stream then return (some (.stream stream), self)
  return ((self.getSegment resource).map .segment, self)

def hasResource (self : ContainerObject) (resource : Bytes) :
    Except ModelFault (Bool × ContainerObject) := do
  let (res, self) ← self.openResource resource
  return (res.isSome, self)

end ContainerObject

/-! ## Calls -/

inductive ContainerCall where
  | getImages
  | getImage (resource : Bytes)
  | getMap (resource : Bytes)
  | getImageStream (resource : Bytes)
  | getSegment (segmentName : Bytes)
  | hasResource (resource : Bytes)
  | openResource (resource : Bytes)

inductive ContainerAnswer where
  | images (images : List AFF4Image)
  | image (image : Option AFF4Image)
  | map (map : Option AFF4Map)
  | stream (stream : Option ContainerStream)
  | segment (entry : Option ZipEntry)
  | known (found : Bool)
  | opened (resource : Option OpenedResource)

namespace ContainerObject

def step (self : ContainerObject) :
    ContainerCall → Except ModelFault (ContainerAnswer × ContainerObject)
  | .getImages => do
      let (images, self) ← self.getImages
      return (.images images, self)
  | .getImage resource => do
      let (image, self) ← self.getImage resource
      return (.image image, self)
  | .getMap resource => do
      let map ← self.getMap resource
      return (.map map, self)
  | .getImageStream resource => do
      let stream ← self.getImageStream resource
      return (.stream stream, self)
  | .getSegment segmentName => .ok (.segment (self.getSegment segmentName), self)
  | .hasResource resource => do
      let (found, self) ← self.hasResource resource
      return (.known found, self)
  | .openResource resource => do
      let (opened, self) ← self.openResource resource
      return (.opened opened, self)

def run (self : ContainerObject) :
    List ContainerCall → Except ModelFault (List ContainerAnswer × ContainerObject)
  | [] => .ok ([], self)
  | call :: calls => do
      let (answer, self) ← self.step call
      let (answers, self) ← run self calls
      return (answer :: answers, self)

end ContainerObject

/-! ## Opening -/

/-- A file that a container is opened from, with zlib, `std::stof` and raptor, and what the
memory of fresh buffers holds. -/
structure ContainerFile where
  filename : Bytes
  isFile : Bool
  file : File
  inflate : Bytes → Nat → Option Bytes
  stof : Bytes → Bool
  raptor : Bytes → List RaptorStatement
  memory : Nat → UInt8
  heap : Nat → Nat → UInt8
  decompbuffer : Nat → UInt8

/-- `AFF4_INFORMATIONTURTLE` -/
def informationTurtle : Bytes := text "information.turtle"

/-- `AFF4_VERSIONDESCRIPTIONFILE` -/
def versionDescriptionFile : Bytes := text "version.txt"

def versionTerms : List (Bytes × Lexicon) := [
  (text "major=", .aff4MajorVersion),
  (text "minor=", .aff4MinorVersion),
  (text "tool=", .aff4Tool)]

def addVersionLine (properties : Properties) (line : Bytes) : Properties :=
  match versionTerms.find? fun term => hasPrefix line term.1 with
  | some (pre, property) => properties.insert property [.ofString (line.drop pre.length)]
  | none => properties

/-- `openContainer` comes back, or it reads through a null pointer. -/
inductive OpenEnd where
  | nullDereference
  | absentModel
  | returned (container : Option ContainerObject)

namespace ContainerFile

def readWhole (self : ContainerFile) (entry : ZipEntry) : ReadResult :=
  readSegment self.inflate self.file entry self.decompbuffer entry.length 0

def setBasicProperties (self : ContainerFile) (properties : Properties) : Properties :=
  (properties.insert .aff4Type [.ofType .aff4ZipType]).insert .aff4Stored
    [.ofString self.filename]

def loadVersionInformation (self : ContainerFile) (entries : List ZipEntry)
    (properties : Properties) : Properties :=
  match getStream entries versionDescriptionFile with
  | some entry =>
      let read := self.readWhole entry
      let versionTXT := if read.res > 0 then read.bytes else []
      (nonEmptyLines versionTXT).foldl addVersionLine properties
  | none => properties

/-- `none` is the null pointer that the member starts with. -/
def loadModel (self : ContainerFile) (entries : List ZipEntry) : Option Model :=
  match getStream entries informationTurtle with
  | some entry =>
      let read := self.readWhole entry
      if read.res > 0 then
        some (Model.parse (Model.typedLiteral self.stof) (self.raptor read.bytes))
      else some .empty
  | none => none

/-- The constructor of `AFF4ZipContainer`. -/
def create (self : ContainerFile) (resource : Bytes) (zipFile : Parsed) :
    Except ModelFault ContainerObject := do
  let properties := self.loadVersionInformation zipFile.entries (self.setBasicProperties .empty)
  let model := self.loadModel zipFile.entries
  let elements := (← dereference model).getObjectInformation resource
  return {
    zip := ⟨self.file, zipFile.entries, resource, self.inflate⟩
    properties := addProperties properties elements
    model := model
    images := [] }

/-- `openContainer`, with at most `fuel` turns of the loops of `parseCD`. -/
def openContainer (self : ContainerFile) (fuel : Nat) : Option OpenEnd :=
  if !self.isFile then some (.returned none)
  else if !isAFF4Container self.filename then some (.returned none)
  else
    match getResourceID self.inflate self.file self.decompbuffer self.memory self.heap fuel with
    | none => none
    | some .nullDereference => some .nullDereference
    | some (.returned resource) =>
        if resource = [] then some (.returned none)
        else
          match parseCD self.file self.heap fuel with
          | none => none
          | some .nullDereference => some .nullDereference
          | some (.returned zipFile) =>
              if zipFile.entries = [] then some (.returned none)
              else
                match self.create resource zipFile with
                | .error .absentModel => some .absentModel
                | .ok container => some (.returned (some container))

end ContainerFile

end Aff4Lite.Containers
