import Aff4Lite.Containers.ContainerObject
import Aff4Lite.Zip.Archive

/-!
# Containers without a model

With a model every operation of a container comes back, and the model stays. `loadModel` makes
one exactly where the archive has an entry `information.turtle`, whatever can be read from it.
-/

set_option autoImplicit false

namespace Aff4Lite.Containers

open Lib Rdf Zip Aff4Lite.Stream Aff4Lite.Map
open Aff4Lite.Resolver (isAFF4Container)

/-! ## Operations -/

theorem create_image (model : Model) (resource : Bytes) :
    ∃ image, AFF4Image.create (some model) resource = .ok image :=
  ⟨_, rfl⟩

private theorem create_images (model : Model) (resources : List Bytes) :
    ∃ images, resources.mapM (AFF4Image.create (some model)) = .ok images := by
  induction resources with
  | nil => exact ⟨[], rfl⟩
  | cons resource resources ih =>
      obtain ⟨image, created⟩ := create_image model resource
      obtain ⟨images, rest⟩ := ih
      refine ⟨image :: images, ?_⟩
      rw [List.mapM_cons, created, rest]
      rfl

namespace ContainerObject

section Present

variable {self : ContainerObject} {model : Model} (present : self.model = some model)

include present

private theorem getImages_ok : ∃ images after,
    self.getImages = .ok (images, after) ∧ after.model = some model := by
  unfold getImages
  cases self.images.isEmpty with
  | false => exact ⟨_, _, rfl, present⟩
  | true =>
      obtain ⟨images, created⟩ :=
        create_images model (model.getResourcesOfType .aff4ImageType)
      refine ⟨images, { self with images := images }, ?_, present⟩
      rw [present]
      dsimp only [dereference, bind, Except.bind]
      rw [created]
      rfl

private theorem getImage_ok (resource : Bytes) : ∃ image after,
    self.getImage resource = .ok (image, after) ∧ after.model = some model := by
  obtain ⟨images, after, found, kept⟩ := getImages_ok present
  refine ⟨images.find? fun image => image.resource = resource, after, ?_, kept⟩
  rw [getImage, found]
  rfl

private theorem getMap_ok (resource : Bytes) : ∃ map, self.getMap resource = .ok map := by
  unfold getMap createMap
  rw [present]
  by_cases listed : resource ∈ model.getResourcesOfType .aff4MapType
  · exact ⟨_, if_pos listed⟩
  · exact ⟨none, if_neg listed⟩

theorem getImageStream_ok (resource : Bytes) : self.getImageStream resource =
    .ok ((AFF4ZipContainer.mk self.zip model).getImageStream resource) := by
  unfold getImageStream AFF4ZipContainer.getImageStream
  rw [present]
  repeat' split
  all_goals rfl

private theorem openResource_ok (resource : Bytes) : ∃ opened after,
    self.openResource resource = .ok (opened, after) ∧ after.model = some model := by
  unfold openResource
  by_cases named : resource = []
  · exact ⟨none, self, if_pos named, present⟩
  · obtain ⟨image, after, found, kept⟩ := getImage_ok present resource
    obtain ⟨map, mapped⟩ := getMap_ok kept resource
    have streamed := getImageStream_ok kept resource
    simp only [if_neg named, found, bind, Except.bind]
    cases image with
    | some image => exact ⟨_, after, rfl, kept⟩
    | none =>
        simp only [mapped]
        cases map with
        | some map => exact ⟨_, after, rfl, kept⟩
        | none =>
            simp only [streamed]
            cases (AFF4ZipContainer.mk after.zip model).getImageStream resource with
            | some stream => exact ⟨_, after, rfl, kept⟩
            | none => exact ⟨_, after, rfl, kept⟩

private theorem step_ok (call : ContainerCall) : ∃ answer after,
    self.step call = .ok (answer, after) ∧ after.model = some model := by
  cases call with
  | getImages =>
      obtain ⟨images, after, found, kept⟩ := getImages_ok present
      refine ⟨.images images, after, ?_, kept⟩
      rw [step, found]
      rfl
  | getImage resource =>
      obtain ⟨image, after, found, kept⟩ := getImage_ok present resource
      refine ⟨.image image, after, ?_, kept⟩
      rw [step, found]
      rfl
  | getMap resource =>
      obtain ⟨map, found⟩ := getMap_ok present resource
      refine ⟨.map map, self, ?_, present⟩
      rw [step, found]
      rfl
  | getImageStream resource =>
      refine ⟨.stream ((AFF4ZipContainer.mk self.zip model).getImageStream resource), self, ?_,
        present⟩
      rw [step, getImageStream_ok present resource]
      rfl
  | getSegment segmentName => exact ⟨_, self, rfl, present⟩
  | hasResource resource =>
      obtain ⟨opened, after, found, kept⟩ := openResource_ok present resource
      refine ⟨.known opened.isSome, after, ?_, kept⟩
      rw [step, hasResource, found]
      rfl
  | openResource resource =>
      obtain ⟨opened, after, found, kept⟩ := openResource_ok present resource
      refine ⟨.opened opened, after, ?_, kept⟩
      rw [step, found]
      rfl

end Present

private theorem run_ok {self : ContainerObject} {model : Model} (present : self.model = some model)
    (calls : List ContainerCall) : ∃ answers after,
      self.run calls = .ok (answers, after) ∧ after.model = some model := by
  induction calls generalizing self with
  | nil => exact ⟨[], self, rfl, present⟩
  | cons call calls ih =>
      obtain ⟨answer, middle, stepped, kept⟩ := step_ok present call
      obtain ⟨answers, after, ran, keptAfter⟩ := ih kept
      refine ⟨answer :: answers, after, ?_, keptAfter⟩
      rw [run, stepped]
      dsimp only [bind, Except.bind]
      rw [ran]
      rfl

/-- What a sequence of calls gives to the caller. -/
def answers (self : ContainerObject) (calls : List ContainerCall) :
    Except ModelFault (List ContainerAnswer) :=
  (self.run calls).map (·.1)

/-- Every sequence of calls comes back, with the answers of a container with the model. -/
structure BehavesAsWith (container : ContainerObject) (model : Model) : Prop where
  returns : ∀ calls, ∃ given, container.answers calls = .ok given
  same : ∀ calls, container.answers calls = { container with model := some model }.answers calls

private theorem behavesAsWith_of_present {self : ContainerObject} {model : Model}
    (present : self.model = some model) : self.BehavesAsWith model where
  returns calls := by
    obtain ⟨given, after, ran, _⟩ := run_ok present calls
    refine ⟨given, ?_⟩
    rw [answers, ran]
    rfl
  same calls := by
    rw [← present]

end ContainerObject

/-! ## Opening -/

namespace ContainerFile

/-- `openContainer` gets to the constructor, with a resource ID and the entries of the file. -/
structure Finds (source : ContainerFile) (fuel : Nat) (resource : Bytes) (zipFile : Parsed) :
    Prop where
  isFile : source.isFile = true
  isAFF4 : isAFF4Container source.filename = true
  resourceID : getResourceID source.inflate source.file source.decompbuffer source.memory
    source.heap fuel = some (.returned resource)
  named : resource ≠ []
  parsed : parseCD source.file source.heap fuel = some (.returned zipFile)
  someEntry : zipFile.entries ≠ []

/-- The model of what can be read of `information.turtle`, or the empty one. -/
def usableModel (self : ContainerFile) (zipFile : Parsed) : Model :=
  (self.loadModel zipFile.entries).getD .empty

/-- The file is refused with null, or the container behaves as one with a model. -/
def NeverAbsentModel (self : ContainerFile) : Prop :=
  ∀ fuel resource zipFile, self.Finds fuel resource zipFile →
    ∃ result, self.openContainer fuel = some (.returned result) ∧
      ∀ container ∈ result, container.BehavesAsWith (self.usableModel zipFile)

theorem openContainer_found {self : ContainerFile} {fuel : Nat} {resource : Bytes}
    {zipFile : Parsed} (finds : self.Finds fuel resource zipFile) :
    self.openContainer fuel =
      match self.create resource zipFile with
      | .error .absentModel => some .absentModel
      | .ok container => some (.returned (some container)) := by
  unfold openContainer
  simp only [finds.isFile, finds.isAFF4, finds.resourceID, finds.parsed, if_neg finds.named,
    if_neg finds.someEntry]
  rfl

theorem getStream_name {entries : List ZipEntry} {entry : ZipEntry} {segmentName : Bytes}
    (found : getStream entries segmentName = some entry) : entry.segmentName = segmentName := by
  unfold getStream at found
  have named := List.find?_some found
  simpa using named

theorem loadModel_isSome_iff (self : ContainerFile) (entries : List ZipEntry) :
    (∃ model, self.loadModel entries = some model) ↔
      ∃ entry ∈ entries, entry.segmentName = informationTurtle := by
  unfold loadModel
  cases found : getStream entries informationTurtle with
  | none =>
      have missing := List.find?_eq_none.mp found
      constructor
      · rintro ⟨model, loaded⟩
        cases loaded
      · rintro ⟨entry, member, same⟩
        exact absurd (decide_eq_true same) (missing entry member)
  | some entry =>
      refine ⟨fun _ => ⟨entry, List.mem_of_find?_eq_some found,
        getStream_name found⟩, fun _ => ?_⟩
      by_cases readable : (self.readWhole entry).res > 0
      · exact ⟨_, if_pos readable⟩
      · exact ⟨_, if_neg readable⟩

private theorem create_of_loaded {self : ContainerFile} {zipFile : Parsed} {model : Model}
    (loaded : self.loadModel zipFile.entries = some model) (resource : Bytes) :
    ∃ container, self.create resource zipFile = .ok container ∧
      container.model = some model := by
  simp [create, loaded, dereference, bind, Except.bind, pure, Except.pure]

theorem create_of_missing {self : ContainerFile} {resource : Bytes} {zipFile : Parsed}
    (missing : self.loadModel zipFile.entries = none) :
    self.create resource zipFile = .error .absentModel := by
  simp [create, missing, dereference, bind, Except.bind]

theorem loaded_of_create {self : ContainerFile} {resource : Bytes} {zipFile : Parsed}
    {container : ContainerObject} (created : self.create resource zipFile = .ok container) :
    ∃ model, self.loadModel zipFile.entries = some model := by
  cases loaded : self.loadModel zipFile.entries with
  | some model => exact ⟨model, rfl⟩
  | none =>
      rw [create_of_missing loaded] at created
      cases created

/-- The model is never absent exactly where every archive that is opened has an entry
`information.turtle`; it may be empty, unreadable or malformed. -/
theorem neverAbsentModel_iff (self : ContainerFile) :
    self.NeverAbsentModel ↔ ∀ fuel resource zipFile, self.Finds fuel resource zipFile →
      ∃ entry ∈ zipFile.entries, entry.segmentName = informationTurtle := by
  constructor
  · intro never fuel resource zipFile finds
    obtain ⟨result, opened, _⟩ := never fuel resource zipFile finds
    rw [← loadModel_isSome_iff self]
    rw [openContainer_found finds] at opened
    cases loaded : self.loadModel zipFile.entries with
    | some model => exact ⟨model, rfl⟩
    | none =>
        rw [create_of_missing loaded] at opened
        cases opened
  · intro present fuel resource zipFile finds
    obtain ⟨model, loaded⟩ :=
      (loadModel_isSome_iff self _).mpr (present fuel resource zipFile finds)
    obtain ⟨container, created, held⟩ := create_of_loaded loaded resource
    refine ⟨some container, ?_, ?_⟩
    · rw [openContainer_found finds, created]
    · intro opened same
      cases same
      have usable : self.usableModel zipFile = model := by
        rw [usableModel, loaded]
        rfl
      rw [usable]
      exact ContainerObject.behavesAsWith_of_present held

end ContainerFile

/-! ## An archive without `information.turtle` -/

/-- One stored segment, padded to 4 KiB, and the resource ID as the comment. -/
def bareFile : File where
  content := localA ++ List.replicate 4096 0 ++ segmentA.bytes ++
    { endA with offset_of_cd := 4130, comment_len := 8 : EndCentralDirectory }.toBytes ++
    text "aff4://c"
  small := by decide +kernel

def bareContainer : ContainerFile where
  filename := text "/c.aff4"
  isFile := true
  file := bareFile
  inflate := fun _ _ => none
  stof := fun _ => false
  raptor := fun _ => []
  memory := fun _ => 0
  heap := fun _ _ => 0
  decompbuffer := fun _ => 0

def bareParsed : Parsed := ⟨[⟨[0x61], 0, 33, 1, 1, 0⟩], text "aff4://c", .zero⟩

private theorem bareContainer_found : bareContainer.Finds 3 (text "aff4://c") bareParsed where
  isFile := rfl
  isAFF4 := by decide
  resourceID := by decide +kernel
  named := by decide
  parsed := by decide +kernel
  someEntry := by decide

theorem bareContainer_absent :
    bareContainer.Finds 3 (text "aff4://c") bareParsed ∧
      bareContainer.openContainer 3 = some .absentModel ∧ ¬bareContainer.NeverAbsentModel := by
  have opened : bareContainer.openContainer 3 = some .absentModel := by
    rw [ContainerFile.openContainer_found bareContainer_found]
    rfl
  refine ⟨bareContainer_found, opened, ?_⟩
  intro never
  obtain ⟨result, returned, _⟩ := never 3 _ _ bareContainer_found
  rw [opened] at returned
  cases returned

end Aff4Lite.Containers
