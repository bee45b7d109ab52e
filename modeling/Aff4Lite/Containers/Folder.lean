import Aff4Lite.Containers.WrittenContainer
import Aff4Lite.Resolver.CreateResolver
import Aff4Lite.Stream.StreamVector

/-!
# Folders of volumes

To the resolver a file is its resource ID, and whether it has entries and a model. Here the files
have contents, of which these are read. Over a folder whose volumes open, a `LightResolver` finds
exactly the volumes in the scope of its scan, whatever it was asked before.
-/

set_option autoImplicit false

namespace Aff4Lite.Resolver

open Lib Aff4Lite.Stream

/-! ## Resource IDs -/

/-- The resource ID of the volume at a path. -/
def FileSystem.resourceAt (files : FileSystem) (path : Bytes) : Option Bytes :=
  match files.stat path with
  | some (.file volume) =>
      if isAFF4Container path then volume.resourceID.filter (· ≠ []) else none
  | _ => none

theorem resourceAt_iff {files : FileSystem} {path resource : Bytes} :
    files.resourceAt path = some resource ↔ isAFF4Container path = true ∧ resource ≠ [] ∧
      ∃ volume, files.stat path = some (.file volume) ∧ volume.resourceID = some resource := by
  unfold FileSystem.resourceAt
  cases stat : files.stat path with
  | none => simp
  | some entity =>
      cases entity with
      | directory listing => simp
      | special => simp
      | file volume =>
          by_cases isContainer : isAFF4Container path
          · simp [isContainer, Option.filter_eq_some_iff, and_comm]
          · simp [isContainer]

private theorem hasSuffix_append {value ext : Bytes} (has : hasSuffix value ext = true)
    (front : Bytes) :
    hasSuffix (front ++ value) ext = true := by
  unfold hasSuffix at has ⊢
  have suffix := of_decide_eq_true has
  have long : ext.length ≤ value.length := by
    rw [← suffix, List.length_drop]
    omega
  apply decide_eq_true
  rw [List.length_append, Nat.add_sub_assoc long, List.drop_length_add_append, suffix]

private theorem isAFF4Container_child {filename : Bytes}
    (isContainer : isAFF4Container filename = true)
    (path : Bytes) : isAFF4Container (child path filename) = true := by
  unfold isAFF4Container at isContainer ⊢
  dsimp only at isContainer ⊢
  rw [Bool.or_eq_true] at isContainer ⊢
  rw [child, List.map_append]
  exact isContainer.imp (hasSuffix_append · _) (hasSuffix_append · _)

/-! ## Tables -/

/-- Only files with the extension of a container are recorded. -/
def AllContainers (volumes : Volumes) : Prop :=
  ∀ entry ∈ volumes.entries, isAFF4Container entry.2 = true

namespace LightResolver

section Scan

variable {self : LightResolver} {files : FileSystem}

private theorem visit_containers {descend : Bytes → Volumes → Option Volumes}
    (descends : ∀ path volumes result, AllContainers volumes → descend path volumes = some result →
      AllContainers result) {path filename : Bytes} {volumes result : Volumes}
    (before : AllContainers volumes)
    (visited : self.visit files descend path volumes filename = some result) :
    AllContainers result := by
  unfold visit at visited
  split at visited
  · cases visited
    exact before
  dsimp only at visited
  split at visited
  · split at visited
    · rename_i isContainer
      unfold addVolume at visited
      split at visited
      · cases visited
        exact before
      split at visited
      · cases visited
      · cases visited
        exact before
      · cases visited
        intro entry member
        rcases OrderedMap.mem_insert.mp member with rfl | ⟨old, _⟩
        · exact isAFF4Container_child isContainer path
        · exact before entry old
    · cases visited
      exact before
  · split at visited
    · exact descends _ _ _ before visited
    · cases visited
      exact before
  · cases visited
    exact before

theorem scanFolder_containers {fuel : Nat} {path : Bytes} {volumes result : Volumes}
    (before : AllContainers volumes)
    (scanned : self.scanFolder files fuel path volumes = some result) : AllContainers result := by
  induction fuel generalizing path volumes result with
  | zero => cases scanned
  | succ fuel ih =>
      unfold scanFolder at scanned
      split at scanned
      · cases scanned
        exact before
      split at scanned
      · refine foldlM_keeps ?_ before scanned
        intro volumes filename result before visited
        exact visit_containers (fun _ _ _ => ih) before visited
      · cases scanned

theorem hasResource_containers {resource : Bytes} {found : Bool} {volumes after : Volumes}
    (before : AllContainers volumes)
    (asked : self.hasResource files resource volumes = some (found, after)) :
    AllContainers after := by
  unfold hasResource at asked
  split at asked
  · cases asked
    exact before
  split at asked
  · cases asked
    exact before
  split at asked
  · cases asked
  · rename_i scanned
    cases asked
    exact scanFolder_containers before scanned

private theorem openResource_containers {resource : Bytes} {container : Option Container}
    {volumes after : Volumes} (before : AllContainers volumes)
    (opened : self.openResource files resource volumes = some (container, after)) :
    AllContainers after := by
  unfold openResource at opened
  split at opened
  · cases opened
  · rename_i asked
    cases opened
    exact hasResource_containers before asked
  · rename_i asked
    have kept := hasResource_containers before asked
    dsimp only at opened
    split at opened
    · split at opened
      · cases opened
      · cases opened
        exact kept
    · cases opened
      exact fun entry member => kept entry (OrderedMap.mem_erase.mp member).1

theorem Reaches.containers {start reached : Volumes} (reaches : self.Reaches files start reached)
    (before : AllContainers start) : AllContainers reached := by
  induction reaches with
  | refl => exact before
  | hasResource _ asked ih => exact hasResource_containers ih asked
  | openResource _ opened ih => exact openResource_containers ih opened

theorem create_scanned {state : State} (created : self.create files = some state) :
    ∃ volumes, self.scanForAFF4Volumes files .empty = some volumes ∧ state = ⟨files, volumes⟩ := by
  unfold create at created
  split at created
  · cases created
  · rename_i volumes scanned
    exact ⟨volumes, scanned, (Option.some.inj created).symm⟩

theorem scanFolder_directory {fuel : Nat} {path : Bytes} {volumes result : Volumes}
    (nonempty : path ≠ []) (scanned : self.scanFolder files fuel path volumes = some result) :
    ∃ listing, files.stat path = some (.directory listing) := by
  cases fuel with
  | zero => cases scanned
  | succ fuel =>
      unfold scanFolder at scanned
      rw [if_neg nonempty] at scanned
      split at scanned
      · rename_i listed
        exact ⟨_, listed⟩
      · cases scanned

end Scan

end LightResolver

/-- The resolver that `createResolver` makes has scanned a folder. -/
theorem createWithin_created {files : FileSystem} {fuel : Nat} {path : Bytes} {deep : Bool}
    {self : LightResolver} {state : State}
    (made : createWithin files fuel path deep = some (some (self, state))) :
    self.basePath ≠ [] ∧ self.create files = some state := by
  induction fuel generalizing path deep with
  | zero => cases made
  | succ fuel ih =>
      unfold createWithin at made
      dsimp only at made
      split at made
      · cases made
      rename_i nonempty
      split at made
      · cases made
      split at made
      · exact ih made
      split at made
      · cases made
      · rename_i created
        cases made
        exact ⟨nonempty, created⟩

end Aff4Lite.Resolver

namespace Aff4Lite.Containers

open Lib Rdf Zip Aff4Lite.Stream
open Aff4Lite.Resolver (FileSystem LightResolver State AllRead AllContainers Yields Within Returns
  isAFF4Container resourceAt_iff)

/-! ## Files with contents -/

/-- The resource ID and the entries of a file, as a resolver sees them. -/
structure ContainerFile.SeenAs (source : ContainerFile) (volume : Resolver.Volume) : Prop where
  resourceID : ∀ resource, volume.resourceID = some resource ↔ ∃ fuel,
    getResourceID source.inflate source.file source.decompbuffer source.memory source.heap fuel =
      some (.returned resource)
  hasEntries : ∀ found, volume.hasEntries = some found ↔ ∃ zipFile,
    ParsesTo source.file source.heap (.returned zipFile) ∧ found = !zipFile.entries.isEmpty
  hasModel : ∀ zipFile, ParsesTo source.file source.heap (.returned zipFile) →
    (volume.hasModel = true ↔ ∃ model, source.loadModel zipFile.entries = some model)

private theorem getResourceID_unique {inflate : Bytes → Nat → Option Bytes} {file : File}
    {decompbuffer memory : Nat → UInt8} {heap : Nat → Nat → UInt8} {zipFile : Parsed}
    (decoded : ParsesTo file heap (.returned zipFile)) {fuel more : Nat} {left right : Bytes}
    (first : getResourceID inflate file decompbuffer memory heap fuel = some (.returned left))
    (second : getResourceID inflate file decompbuffer memory heap more = some (.returned right)) :
    left = right := by
  unfold getResourceID at first second
  cases path : fastPath file memory with
  | returned resource =>
      rw [path] at first second
      cases first
      cases second
      rfl
  | slowPath =>
      rw [path] at first second
      exact (slowPath_unique decoded first).trans (slowPath_unique decoded second).symm

/-- A resolver sees the resource ID that a written volume was given. -/
theorem WrittenVolume.seen {source : ContainerFile} {segments : List (PackedSegment source.inflate)}
    {comment : Bytes} {turtle : PackedSegment source.inflate}
    (volume : WrittenVolume source segments comment turtle) :
    source.SeenAs ⟨some (givenResource segments comment), some true, true⟩ := by
  obtain ⟨fuel, finds⟩ := volume.finds
  have decoded : ParsesTo source.file source.heap (.returned (writtenParsed segments comment)) :=
    ⟨fuel, finds.parsed⟩
  have entries : (!(writtenParsed segments comment).entries.isEmpty) = true := by
    rw [List.isEmpty_eq_false_iff.mpr finds.someEntry]
    rfl
  refine ⟨fun resource => ?_, fun found => ?_, fun zipFile again => ?_⟩
  · constructor
    · rintro ⟨⟩
      exact ⟨fuel, finds.resourceID⟩
    · rintro ⟨more, read⟩
      exact congrArg some (getResourceID_unique decoded finds.resourceID read)
  · constructor
    · rintro ⟨⟩
      exact ⟨_, decoded, entries.symm⟩
    · rintro ⟨zipFile, again, rfl⟩
      cases decoded.unique again
      exact congrArg some entries.symm
  · cases decoded.unique again
    exact ⟨fun _ => ContainerFile.loaded_of_create volume.created, fun _ => rfl⟩

/-- Files whose volumes open, no two of them with one resource ID. `container` is what comes of
opening. -/
structure Folder where
  files : FileSystem
  source : Bytes → ContainerFile
  container : Bytes → ContainerObject
  readable : files.Readable
  named : ∀ path, (source path).filename = path
  seen : ∀ {path : Bytes} {volume : Resolver.Volume},
    files.stat path = some (.file volume) → (source path).SeenAs volume
  opens : ∀ {path resource : Bytes}, files.resourceAt path = some resource →
    ∃ fuel, (source path).openContainer fuel = some (.returned (some (container path)))
  unique : ∀ {left right resource : Bytes}, files.resourceAt left = some resource →
    files.resourceAt right = some resource → left = right

namespace Folder

variable (folder : Folder)

def statementsAt (path : Bytes) : List RaptorStatement :=
  (folder.source path).statements (folder.container path).zip.entries

/-- The volume at a path, with the model of its statements. -/
def volumeAt (path : Bytes) : AFF4ZipContainer :=
  ⟨(folder.container path).zip, modelOf (folder.source path).stof (folder.statementsAt path)⟩

variable {folder} {path resource : Bytes}

theorem finds (there : folder.files.resourceAt path = some resource) :
    ∃ fuel zipFile, (folder.source path).Finds fuel resource zipFile ∧
      (folder.source path).create resource zipFile = .ok (folder.container path) := by
  obtain ⟨_, _, volume, stat, read⟩ := resourceAt_iff.mp there
  obtain ⟨fuel, opened⟩ := folder.opens there
  obtain ⟨other, zipFile, finds, created⟩ := ContainerFile.openContainer_some opened
  have again := ((folder.seen stat).resourceID other).mpr ⟨fuel, finds.resourceID⟩
  cases read.symm.trans again
  exact ⟨fuel, zipFile, finds, created⟩

/-- What the resolver opens is the volume that its file has. -/
theorem opened (there : folder.files.resourceAt path = some resource) :
    Resolver.openContainer folder.files path = some (some ⟨path, resource⟩) ∧
      (folder.container path).zip.resourceID = resource ∧
      Warm (folder.container path).zip (folder.source path).stof (folder.statementsAt path)
        (folder.container path) := by
  obtain ⟨isContainer, nonempty, volume, stat, read⟩ := resourceAt_iff.mp there
  obtain ⟨fuel, zipFile, finds, created⟩ := folder.finds there
  obtain ⟨archive, warm⟩ := ContainerFile.create_warm created
  have entries : volume.hasEntries = some true := by
    refine ((folder.seen stat).hasEntries true).mpr ⟨zipFile, ⟨fuel, finds.parsed⟩, ?_⟩
    rw [List.isEmpty_eq_false_iff.mpr finds.someEntry]
    rfl
  have model : volume.hasModel = true :=
    ((folder.seen stat).hasModel zipFile ⟨fuel, finds.parsed⟩).mpr
      (ContainerFile.loaded_of_create created)
  refine ⟨LightResolver.openContainer_of_model stat isContainer read nonempty entries model, ?_, ?_⟩
  · rw [archive]
  · unfold statementsAt
    rw [archive] at warm ⊢
    exact warm

end Folder

/-- A volume that a folder holds at a path. -/
theorem WrittenVolume.heldAt {folder : Folder} {path : Bytes} {source : ContainerFile}
    {segments : List (PackedSegment source.inflate)} {comment : Bytes}
    {turtle : PackedSegment source.inflate}
    (volume : WrittenVolume source segments comment turtle)
    (isSource : folder.source path = source)
    (isObject : folder.container path = writtenObject source segments comment turtle) :
    (folder.container path).zip = volume.zip ∧
      folder.statementsAt path = writtenStatements source turtle := by
  have zip : (writtenObject source segments comment turtle).zip = volume.zip :=
    congrArg (fun file => ZipContainer.mk file _ _ _) volume.isWritten
  have statements := congrArg₂ (fun (source : ContainerFile) (object : ContainerObject) =>
    source.statements object.zip.entries) isSource isObject
  exact ⟨isObject ▸ zip, statements.trans volume.statements⟩

/-! ## The resolver of a folder -/

/-- The resolver has scanned the folder, and its table is that of the files in its scope. -/
structure Stocked (folder : Folder) (resolver : LightResolver) (state : State) : Prop where
  files : state.files = folder.files
  nonempty : resolver.basePath ≠ []
  directory : ∃ listing, folder.files.stat resolver.basePath = some (.directory listing)
  returns : Returns folder.files resolver.scanSubFolders resolver.basePath
  covers : LightResolver.Covers folder.files resolver.scanSubFolders resolver.basePath state.volumes
  containers : AllContainers state.volumes

section Stocked

variable {folder : Folder} {self : LightResolver} {state : State}

private theorem create_stocked (nonempty : self.basePath ≠ [])
    (created : self.create folder.files = some state) : Stocked folder self state := by
  obtain ⟨volumes, scanned, rfl⟩ := LightResolver.create_scanned created
  have empty : AllRead folder.files .empty := fun entry member => .inl member
  exact {
    files := rfl
    nonempty := nonempty
    directory := LightResolver.scanFolder_directory nonempty scanned
    returns := (LightResolver.scanFolder_scanned nonempty empty scanned).returns
    covers := LightResolver.scan_covers nonempty empty (by simp) scanned
    containers := LightResolver.scanFolder_containers (by simp [AllContainers]) scanned }

/-- `createResolver` for a folder, or for a file in one. -/
theorem createResolver_stocked {path : Bytes} {deep : Bool}
    (made : Resolver.createResolver folder.files path deep = some (some (self, state))) :
    Stocked folder self state := by
  obtain ⟨nonempty, created⟩ := Resolver.createWithin_created made
  exact create_stocked nonempty created

/-- Whatever the resolver was asked, its table stays that of the files. -/
theorem Stocked.reached (stocked : Stocked folder self state) {volumes : Resolver.Volumes}
    (reaches : self.Reaches folder.files state.volumes volumes) :
    Stocked folder self ⟨folder.files, volumes⟩ where
  files := rfl
  nonempty := stocked.nonempty
  directory := stocked.directory
  returns := stocked.returns
  covers := reaches.covers stocked.nonempty stocked.covers
  containers := reaches.containers stocked.containers

theorem Stocked.recorded (stocked : Stocked folder self state) {resource path : Bytes}
    (found : state.volumes.find? resource = some path) :
    folder.files.resourceAt path = some resource := by
  have member := OrderedMap.find?_eq_some_iff.mp found
  have yields := (stocked.covers.keys resource).mp (by rw [found]; rfl)
  rcases stocked.covers.allRead _ member with impossible | ⟨volume, stat, read⟩
  · cases impossible
  · exact resourceAt_iff.mpr
      ⟨stocked.containers _ member, yields.1, volume, stat, read⟩

theorem Stocked.hasResource (stocked : Stocked folder self state) (resource : Bytes) :
    ∃ found volumes, self.hasResource state.files resource state.volumes = some (found, volumes) ∧
      Stocked folder self { state with volumes := volumes } ∧
      (found = true ↔ Yields folder.files self.scanSubFolders self.basePath resource) := by
  obtain ⟨listing, directory⟩ := stocked.directory
  obtain ⟨found, volumes, asked⟩ := LightResolver.hasResource_returns folder.readable directory
    stocked.returns resource state.volumes
  obtain ⟨covers, known⟩ := stocked.covers.hasResource stocked.nonempty asked
  have containers := LightResolver.hasResource_containers stocked.containers asked
  refine ⟨found, volumes, stocked.files ▸ asked, ?_, known⟩
  exact { stocked with covers := covers, containers := containers }

/-- Through `open` the volume of a resource ID in the scope comes out, and nothing else does. -/
theorem Stocked.lookup {Stream : Type} (stocked : Stocked folder self state)
    (contents : Resolver.Container → Live.Resolver State Stream) (resource : Bytes) :
    ∃ after, Stocked folder self after ∧
      ((∃ path, Yields folder.files self.scanSubFolders self.basePath resource ∧
          folder.files.resourceAt path = some resource ∧
          (Live.lightResolver self contents).lookup resource state =
            (.found (.zipVolume (contents ⟨path, resource⟩)), after)) ∨
        ¬Yields folder.files self.scanSubFolders self.basePath resource ∧
          (Live.lightResolver self contents).lookup resource state = (.unknown, after)) := by
  obtain ⟨found, volumes, asked, kept, known⟩ := stocked.hasResource resource
  refine ⟨_, kept, ?_⟩
  cases found with
  | false =>
      refine .inr ⟨fun yields => Bool.noConfusion (known.mpr yields), ?_⟩
      unfold Live.Directory.lookup Live.lightResolver
      simp [asked]
  | true =>
      obtain ⟨nonempty, path, recorded⟩ := LightResolver.hasResource_true asked
      have there := kept.recorded recorded
      obtain ⟨_, _, volume, stat, _⟩ := resourceAt_iff.mp there
      have again : self.hasResource state.files resource volumes = some (true, volumes) := by
        unfold LightResolver.hasResource
        rw [if_neg nonempty, recorded]
        rfl
      have present := Resolver.fileExists_of_stat (stocked.files ▸ stat)
      have opened : self.openResource state.files resource volumes =
          some (some ⟨path, resource⟩, volumes) := by
        have opens := (folder.opened there).1
        rw [← stocked.files] at opens
        unfold LightResolver.openResource
        simp [again, recorded, present, opens]
      refine .inl ⟨path, known.mp rfl, there, ?_⟩
      unfold Live.Directory.lookup Live.lightResolver
      simp [asked, opened]

end Stocked

end Aff4Lite.Containers
