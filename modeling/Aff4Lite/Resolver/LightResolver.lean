import Aff4Lite.Lib.OrderedMap
import Aff4Lite.Lib.Strings
import Aff4Lite.Stream.Interface

/-!
# `aff4::resolver::LightResolver`

The table of volumes, the scan that fills it, `hasResource` and `open`, over a file system
that may be another one at every call. `none` is a call that does not come back.
-/

set_option autoImplicit false

namespace Aff4Lite.Resolver

open Lib Aff4Lite.Stream

/-! ## The file system -/

/-- A regular file: what `getResourceID` returns for it, whether `Zip` finds entries, and whether
`information.turtle` is one of them. -/
structure Volume where
  resourceID : Option Bytes
  hasEntries : Option Bool
  hasModel : Bool
  deriving DecidableEq, Repr

/-- What `stat` finds at a path. `opendir` fails where a directory has no listing. -/
inductive Entity where
  | file (volume : Volume)
  | directory (listing : Option (List Bytes))
  | special
  deriving DecidableEq, Repr

structure FileSystem where
  entities : List (Bytes × Entity)

namespace FileSystem

def stat (files : FileSystem) (path : Bytes) : Option Entity :=
  (files.entities.find? fun entity => entity.1 = path).map (·.2)

def fileExists (files : FileSystem) (path : Bytes) : Bool := (files.stat path).isSome

/-- No directory is nested deeper, as its path is longer than those of the ones around it. -/
def depth (files : FileSystem) : Nat :=
  files.entities.foldr (fun entity longest => max entity.1.length longest) 0

end FileSystem

/-! ## Containers -/

def toLower (byte : UInt8) : UInt8 := if 0x41 ≤ byte ∧ byte ≤ 0x5a then byte + 0x20 else byte

def hasSuffix (value ext : Bytes) : Bool := value.drop (value.length - ext.length) = ext

def isAFF4Container (filename : Bytes) : Bool :=
  let lower := filename.map toLower
  hasSuffix lower (text ".af4") || hasSuffix lower (text ".aff4")

structure Container where
  filename : Bytes
  resourceID : Bytes
  deriving DecidableEq, Repr

/-- `openAFF4Container`; the inner `none` is the null pointer. The constructor of the container
goes through its model, which stays null without `information.turtle`. -/
def openContainer (files : FileSystem) (filename : Bytes) : Option (Option Container) :=
  match files.stat filename with
  | some (.file volume) =>
      if isAFF4Container filename then
        match volume.resourceID with
        | none => none
        | some [] => some none
        | some resource =>
            match volume.hasEntries with
            | none => none
            | some true => if volume.hasModel then some (some ⟨filename, resource⟩) else none
            | some false => some none
      else some none
  | _ => some none

/-! ## The resolver -/

abbrev Volumes := OrderedMap Bytes Bytes

/-- The members that the constructor sets. -/
structure LightResolver where
  basePath : Bytes
  scanSubFolders : Bool

def mapContains (volumes : Volumes) (filename : Bytes) : Bool :=
  volumes.entries.any fun entry => entry.2 = filename

namespace LightResolver

section Scan

variable (self : LightResolver) (files : FileSystem)

/-- A file with the extension of a container that the loop over a directory comes to. -/
def addVolume (volume : Volume) (absoluteFilename : Bytes) (volumes : Volumes) : Option Volumes :=
  if mapContains volumes absoluteFilename then some volumes
  else
    match volume.resourceID with
    | none => none
    | some [] => some volumes
    | some resID => some (volumes.insert resID absoluteFilename)

/-- A turn of the loop over a directory; `descend` is the recursive call. -/
def visit (descend : Bytes → Volumes → Option Volumes) (path : Bytes) (volumes : Volumes)
    (filename : Bytes) : Option Volumes :=
  if filename = text "." ∨ filename = text ".." then some volumes
  else
    let absoluteFilename := path ++ text "/" ++ filename
    match files.stat absoluteFilename with
    | some (.file volume) =>
        if isAFF4Container filename then addVolume volume absoluteFilename volumes
        else some volumes
    | some (.directory _) =>
        if self.scanSubFolders then descend absoluteFilename volumes else some volumes
    | _ => some volumes

/-- `scanForAFF4Volumes`. `readdir` of the null pointer has no defined behaviour. -/
def scanFolder : Nat → Bytes → Volumes → Option Volumes
  | 0, _, _ => none
  | fuel + 1, path, volumes =>
      if path = [] then some volumes
      else
        match files.stat path with
        | some (.directory (some listing)) =>
            listing.foldlM (self.visit files (scanFolder fuel) path) volumes
        | _ => none

def scanForAFF4Volumes (volumes : Volumes) : Option Volumes :=
  self.scanFolder files (files.depth + 1) self.basePath volumes

end Scan

def hasResource (self : LightResolver) (files : FileSystem) (resource : Bytes)
    (volumes : Volumes) : Option (Bool × Volumes) :=
  if resource = [] then some (false, volumes)
  else if (volumes.find? resource).isSome then some (true, volumes)
  else
    match self.scanForAFF4Volumes files volumes with
    | none => none
    | some rescanned => some ((rescanned.find? resource).isSome, rescanned)

/-- `open` -/
def openResource (self : LightResolver) (files : FileSystem) (resource : Bytes)
    (volumes : Volumes) : Option (Option Container × Volumes) :=
  match self.hasResource files resource volumes with
  | none => none
  | some (false, known) => some (none, known)
  | some (true, known) =>
      let filename := (known.find? resource).getD []
      if files.fileExists filename then
        match openContainer files filename with
        | none => none
        | some container => some (container, known)
      else some (none, known.erase resource)

end LightResolver

/-! ## Runs -/

/-- What happens to a resolver and to the files it looks at. -/
inductive Event where
  | change (files : FileSystem)
  | hasResource (resource : Bytes)
  | openResource (resource : Bytes)

inductive Answer where
  | nothing
  | known (found : Bool)
  | opened (container : Option Container)
  /-- The call does not come back. -/
  | lost
  deriving DecidableEq, Repr

structure State where
  files : FileSystem
  volumes : Volumes

/-- A step of a run, with the state that it was made in. -/
structure Moment where
  before : State
  event : Event
  answer : Answer
  after : State

namespace LightResolver

/-- The constructor. -/
def create (self : LightResolver) (files : FileSystem) : Option State :=
  match self.scanForAFF4Volumes files .empty with
  | none => none
  | some volumes => some ⟨files, volumes⟩

def step (self : LightResolver) (state : State) : Event → Moment
  | .change files => ⟨state, .change files, .nothing, { state with files := files }⟩
  | .hasResource resource =>
      match self.hasResource state.files resource state.volumes with
      | none => ⟨state, .hasResource resource, .lost, state⟩
      | some (found, volumes) =>
          ⟨state, .hasResource resource, .known found, { state with volumes := volumes }⟩
  | .openResource resource =>
      match self.openResource state.files resource state.volumes with
      | none => ⟨state, .openResource resource, .lost, state⟩
      | some (container, volumes) =>
          ⟨state, .openResource resource, .opened container, { state with volumes := volumes }⟩

/-- The steps of a run. A call that does not come back is the last one. -/
def run (self : LightResolver) (state : State) : List Event → List Moment
  | [] => []
  | event :: events =>
      let moment := self.step state event
      if moment.answer = .lost then [moment] else moment :: run self moment.after events

end LightResolver

end Aff4Lite.Resolver
