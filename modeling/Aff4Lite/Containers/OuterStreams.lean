import Aff4Lite.Containers.Evidence
import Aff4Lite.Containers.Folder

/-!
# Streams of other volumes

A map may name streams that other volumes store. `MapStream` finds them through the resolver,
which opens the volumes of a folder, and takes the unknown stream where it finds none.
-/

set_option autoImplicit false

namespace Aff4Lite.Containers

open Lib Rdf Zip Codec Aff4Lite.Stream Aff4Lite.Map
open Aff4Lite.Resolver (Entity FileSystem LightResolver State Yields)
open Model (collected typedLiteral)

/-! ## Opened volumes -/

/-- A stream of the container itself, or what the volume at a path was asked for. -/
inductive OuterStream where
  | own (stream : ContainerStream)
  | stored (path : Bytes) (stream : ContainerStream)
  | segment (path : Bytes) (entry : ZipEntry)
  deriving DecidableEq

/-- The stream that an opened resource is; by its `getBaseType()` a segment is an image stream. -/
def OpenedResource.outerStream (path : Bytes) : OpenedResource → Option OuterStream
  | .stream child => some (.stored path child)
  | .segment entry => some (.segment path entry)
  | .image _ => none
  | .map _ => none

namespace ContainerObject

def placed (path : Bytes) (opened : OpenedResource) : Live.Resource State OuterStream :=
  match opened.outerStream path with
  | some stream => .imageStream stream
  | none => .other

/-- A container that the resolver has opened. The images that it lists after the first call do not
show in its answers. -/
def directory (self : ContainerObject) (path : Bytes) : Live.Resolver State OuterStream where
  hasResource resource state :=
    match self.hasResource resource with
    | .ok (found, _) => (found, state)
    | .error _ => (false, state)
  openResource resource state :=
    match self.openResource resource with
    | .ok (opened, _) => (opened.map (placed path), state)
    | .error _ => (none, state)

end ContainerObject

theorem Warm.lookup {zip : ZipContainer} {stof : Bytes → Bool} {statements : List RaptorStatement}
    {container : ContainerObject} (warm : Warm zip stof statements container) {resource : Bytes}
    (nonempty : resource ≠ []) (path : Bytes) (state : State) :
    (∃ opened, Opens zip stof statements resource opened ∧
        (container.directory path).lookup resource state =
          (.found (ContainerObject.placed path opened), state)) ∨
      (∀ opened, ¬Opens zip stof statements resource opened) ∧
        (container.directory path).lookup resource state = (.unknown, state) := by
  obtain ⟨answer, after, ran, _, isAnswer⟩ := warm.openResource resource
  have known : container.hasResource resource = .ok (answer.isSome, after) := by
    rw [ContainerObject.hasResource, ran]
    rfl
  cases answer with
  | none =>
      refine .inr ⟨fun opened opens => ?_, ?_⟩
      · cases (isAnswer opened).mpr ⟨nonempty, opens⟩
      · unfold Live.Directory.lookup ContainerObject.directory
        simp [known]
  | some opened =>
      refine .inl ⟨opened, ((isAnswer opened).mp rfl).2, ?_⟩
      unfold Live.Directory.lookup ContainerObject.directory
      simp [known, ran]

theorem Warm.opens_unique {zip : ZipContainer} {stof : Bytes → Bool}
    {statements : List RaptorStatement} {container : ContainerObject}
    (warm : Warm zip stof statements container) {resource : Bytes} (nonempty : resource ≠ [])
    {left right : OpenedResource} (first : Opens zip stof statements resource left)
    (second : Opens zip stof statements resource right) : left = right := by
  obtain ⟨answer, _, _, _, isAnswer⟩ := warm.openResource resource
  exact Option.some.inj
    (((isAnswer left).mpr ⟨nonempty, first⟩).symm.trans ((isAnswer right).mpr ⟨nonempty, second⟩))

/-- What the containers that the resolver opens answer. -/
def Folder.contents (folder : Folder) (opened : Resolver.Container) :
    Live.Resolver State OuterStream :=
  (folder.container opened.filename).directory opened.filename

/-- The container as the parent of its maps, with the resolver that it was given. -/
def AFF4ZipContainer.outerParent (container : AFF4ZipContainer)
    (resolver : Live.Resolver State OuterStream) (decompbuffer : Nat → UInt8) :
    Live.Parent State OuterStream where
  getSegment := container.zip.segment decompbuffer
  getImageStream line := (container.getImageStream line).map .own
  resolver := some resolver
  rdfModel := container.model
  createUnknownStreamFor line := .own (createUnknownStreamFor line)

/-! ## Where the streams of a map are -/

/-- What the volume at a path opens for a name. -/
def Folder.Opens (folder : Folder) (path : Bytes) : Bytes → OpenedResource → Prop :=
  Containers.Opens (folder.container path).zip (folder.source path).stof (folder.statementsAt path)

section Placed

variable (folder : Folder) (self : LightResolver) (zip : ZipContainer) (stof : Bytes → Bool)
  (statements : List RaptorStatement)

/-- The volume that the first `aff4:stored` of a stream names is in the scope of the resolver, and
stands at the path. -/
def StoredAt (line path : Bytes) : Prop :=
  ∃ value, (collected (typedLiteral stof) statements line .aff4Stored).head? = some value ∧
    Yields folder.files self.scanSubFolders self.basePath value.valueLiteral ∧
    folder.files.resourceAt path = some value.valueLiteral

/-- The stream of a line of `idx`: the one that the container has, then the one in the volume that
its statements name, and the unknown stream without either. -/
inductive Placed (line : Bytes) : OuterStream → Prop where
  | own {stream : ContainerStream} :
      HasStream zip stof statements line stream → Placed line (.own stream)
  | outer {path : Bytes} {opened : OpenedResource} {stream : OuterStream} :
      (∀ stream, ¬HasStream zip stof statements line stream) →
      StoredAt folder self stof statements line path → folder.Opens path line opened →
      opened.outerStream path = some stream → Placed line stream
  | unknown : (∀ stream, ¬HasStream zip stof statements line stream) →
      (∀ path opened, StoredAt folder self stof statements line path →
        folder.Opens path line opened → opened.outerStream path = none) →
      Placed line (.own (createUnknownStreamFor line))

/-- The streams that are constructed while the stream of a line is looked up, with the container
whose constructor it is: the container's own, and without one what the other volume opens for the
name. -/
inductive Constructs (line : Bytes) : AFF4ZipContainer → ContainerStream → Prop where
  | own {stream : ContainerStream} :
      HasStream zip stof statements line stream →
      Constructs line ⟨zip, modelOf stof statements⟩ stream
  | outer {path : Bytes} {opened : OpenedResource} {stream : ContainerStream} :
      (∀ stream, ¬HasStream zip stof statements line stream) →
      StoredAt folder self stof statements line path → folder.Opens path line opened →
      stream ∈ opened.streams → Constructs line (folder.volumeAt path) stream

end Placed

/-- No image stream of a volume in the folder divides by zero. -/
def Folder.UsableStreams (folder : Folder) : Prop :=
  ∀ path resource, folder.files.resourceAt path = some resource →
    Containers.UsableStreams (folder.container path).zip (folder.source path).stof
      (folder.statementsAt path)

section Places

variable {folder : Folder} {self : LightResolver} {zip : ZipContainer} {stof : Bytes → Bool}
  {statements : List RaptorStatement} {line : Bytes}

private theorem storedIn_modelOf (stof : Bytes → Bool) (statements : List RaptorStatement)
    (line : Bytes) : Live.storedIn (modelOf stof statements) line =
      (collected (typedLiteral stof) statements line .aff4Stored).head?.map
        (·.valueLiteral) := by
  have values : getProperty ((modelOf stof statements).getObjectInformation line) .aff4Stored =
      collected (typedLiteral stof) statements line .aff4Stored :=
    Model.parse_values _ statements line (by decide)
  rw [Live.storedIn, values]

private theorem StoredAt.of_first {path : Bytes} {value : RDFValue}
    (storedAt : StoredAt folder self stof statements line path)
    (isFirst : (collected (typedLiteral stof) statements line .aff4Stored).head? = some value) :
    Yields folder.files self.scanSubFolders self.basePath value.valueLiteral ∧
      folder.files.resourceAt path = some value.valueLiteral := by
  obtain ⟨given, isGiven, yields, there⟩ := storedAt
  cases isFirst.symm.trans isGiven
  exact ⟨yields, there⟩

theorem StoredAt.opens_unique {left right : Bytes}
    (first : StoredAt folder self stof statements line left)
    (second : StoredAt folder self stof statements line right) (nonempty : line ≠ [])
    {opened other : OpenedResource} (opens : folder.Opens left line opened)
    (alsoOpens : folder.Opens right line other) : left = right ∧ opened = other := by
  obtain ⟨value, isFirst, _, there⟩ := first
  cases folder.unique there (second.of_first isFirst).2
  exact ⟨rfl, (folder.opened there).2.2.opens_unique nonempty opens alsoOpens⟩

/-- A line has one stream. -/
theorem Placed.unique (nonempty : line ≠ []) {left right : OuterStream}
    (first : Placed folder self zip stof statements line left)
    (second : Placed folder self zip stof statements line right) : left = right := by
  cases first with
  | own has =>
      cases second with
      | own other =>
          exact congrArg OuterStream.own (Option.some.inj
            ((getImageStream_iff.mpr has).symm.trans (getImageStream_iff.mpr other)))
      | outer absent => exact absurd has (absent _)
      | unknown absent => exact absurd has (absent _)
  | outer absent there opens isStream =>
      cases second with
      | own has => exact absurd has (absent _)
      | outer _ other otherOpens isOther =>
          obtain ⟨rfl, rfl⟩ := there.opens_unique other nonempty opens otherOpens
          exact Option.some.inj (isStream.symm.trans isOther)
      | unknown _ others => cases (others _ _ there opens).symm.trans isStream
  | unknown absent others =>
      cases second with
      | own has => exact absurd has (absent _)
      | outer _ there opens isStream => cases (others _ _ there opens).symm.trans isStream
      | unknown => rfl

theorem Constructs.comesBack (usable : UsableStreams zip stof statements)
    (outer : folder.UsableStreams) {volume : AFF4ZipContainer} {stream : ContainerStream}
    (constructs : Constructs folder self zip stof statements line volume stream)
    (libraries : Libraries) (chunkCacheSize : U64) :
    stream.construct libraries chunkCacheSize volume.zip (some volume.model) = .ok () := by
  cases constructs with
  | own has => exact has.constructs usable
  | outer _ storedAt opens member =>
      obtain ⟨_, _, _, there⟩ := storedAt
      exact opens.constructs (outer _ _ there) _ member

/-- The streams of lines as a function, which says nothing of lines without one. -/
theorem exists_streamOf (folder : Folder) (self : LightResolver) (zip : ZipContainer)
    (stof : Bytes → Bool) (statements : List RaptorStatement) :
    ∃ streamOf : Bytes → OuterStream, ∀ lines streams, (∀ line ∈ lines, line ≠ []) →
      List.Forall₂ (Placed folder self zip stof statements) lines streams →
      lines.map streamOf = streams := by
  classical
  refine ⟨fun line => if placed : ∃ stream, Placed folder self zip stof statements line stream then
    placed.choose else .own createUnknownStream, ?_⟩
  intro lines streams nonempty known
  induction known with
  | nil => rfl
  | @cons line stream lines streams placed _ ih =>
      have filled : ∃ stream, Placed folder self zip stof statements line stream := ⟨stream, placed⟩
      rw [List.map_cons, dif_pos filled, ih fun other member =>
        nonempty other (List.mem_cons_of_mem _ member)]
      rw [filled.choose_spec.unique (nonempty line List.mem_cons_self) placed]

private theorem askParent_placed {state : State} (stocked : Stocked folder self state)
    (nonempty : line ≠ []) (absent : ∀ stream, ¬HasStream zip stof statements line stream) :
    ∃ found after, Stocked folder self after ∧
      Live.askParent (Live.lightResolver self folder.contents) (modelOf stof statements) line
        state = .ok (found, after) ∧
      Placed folder self zip stof statements line
        (found.getD (.own (createUnknownStreamFor line))) := by
  unfold Live.askParent
  rw [storedIn_modelOf]
  cases isFirst : (collected (typedLiteral stof) statements line .aff4Stored).head? with
  | none =>
      refine ⟨none, state, stocked, rfl, .unknown absent ?_⟩
      rintro path opened ⟨value, given, _⟩
      cases isFirst.symm.trans given
  | some value =>
      dsimp only [Option.map_some]
      obtain ⟨after, kept, ⟨path, yields, there, found⟩ | ⟨outside, unknown⟩⟩ :=
        stocked.lookup folder.contents value.valueLiteral
      · have storedAt : StoredAt folder self stof statements line path :=
          ⟨value, isFirst, yields, there⟩
        rw [found]
        dsimp only [Folder.contents]
        rcases (folder.opened there).2.2.lookup nonempty path after with
          ⟨opened, opens, child⟩ | ⟨nothing, child⟩
        · rw [child, ContainerObject.placed]
          cases isStream : opened.outerStream path with
          | some stream =>
              exact ⟨some stream, after, kept, rfl, .outer absent storedAt opens isStream⟩
          | none =>
              refine ⟨none, after, kept, rfl, .unknown absent ?_⟩
              intro other another otherAt otherOpens
              obtain ⟨rfl, rfl⟩ := storedAt.opens_unique otherAt nonempty opens otherOpens
              exact isStream
        · rw [child]
          refine ⟨none, after, kept, rfl, .unknown absent ?_⟩
          intro other opened otherAt otherOpens
          cases folder.unique there (otherAt.of_first isFirst).2
          exact absurd otherOpens (nothing opened)
      · rw [unknown]
        refine ⟨none, after, kept, rfl, .unknown absent ?_⟩
        intro path opened storedAt _
        exact absurd (storedAt.of_first isFirst).1 outside

/-- The resolver is asked for the stream, and then the volume that stores it. -/
theorem queryResolver_placed {state : State} (stocked : Stocked folder self state)
    (decompbuffer : Nat → UInt8) (nonempty : line ≠ [])
    (absent : ∀ stream, ¬HasStream zip stof statements line stream) :
    ∃ found after, Stocked folder self after ∧
      Live.queryResolver (AFF4ZipContainer.outerParent ⟨zip, modelOf stof statements⟩
        (Live.lightResolver self folder.contents) decompbuffer) line state = .ok (found, after) ∧
      Placed folder self zip stof statements line
        (found.getD (.own (createUnknownStreamFor line))) := by
  obtain ⟨between, kept, asked⟩ := stocked.lookup folder.contents line
  have askedParent : Live.queryResolver (AFF4ZipContainer.outerParent
      ⟨zip, modelOf stof statements⟩ (Live.lightResolver self folder.contents) decompbuffer)
      line state =
        Live.askParent (Live.lightResolver self folder.contents) (modelOf stof statements) line
          between := by
    unfold Live.queryResolver AFF4ZipContainer.outerParent
    dsimp only
    rcases asked with ⟨path, _, _, found⟩ | ⟨_, unknown⟩
    · rw [found]
    · rw [unknown]
  rw [askedParent]
  exact askParent_placed kept nonempty absent

private theorem resolveLine_placed {state : State} (stocked : Stocked folder self state)
    (decompbuffer : Nat → UInt8) (nonempty : line ≠ []) :
    ∃ stream after, Stocked folder self after ∧
      Live.resolveLine (AFF4ZipContainer.outerParent ⟨zip, modelOf stof statements⟩
        (Live.lightResolver self folder.contents) decompbuffer) none line state =
          .ok (some stream, after) ∧
      Placed folder self zip stof statements line stream := by
  have asked : Live.ownStream (AFF4ZipContainer.outerParent ⟨zip, modelOf stof statements⟩
      (Live.lightResolver self folder.contents) decompbuffer) none line =
        ((AFF4ZipContainer.mk zip (modelOf stof statements)).getImageStream line).map .own :=
    if_neg (by simp)
  unfold Live.resolveLine
  rw [asked]
  cases own : (AFF4ZipContainer.mk zip (modelOf stof statements)).getImageStream line with
  | some stream => exact ⟨.own stream, state, stocked, rfl, .own (getImageStream_iff.mp own)⟩
  | none =>
      have absent : ∀ stream, ¬HasStream zip stof statements line stream := by
        intro stream has
        cases own.symm.trans (getImageStream_iff.mpr has)
      obtain ⟨found, after, kept, answered, placed⟩ :=
        @queryResolver_placed folder self zip stof statements line state stocked decompbuffer
          nonempty absent
      refine ⟨_, after, kept, ?_, placed⟩
      dsimp only [Option.map_none]
      rw [answered]
      cases found with
      | none => rfl
      | some stream => rfl

theorem resolveLines_placed {lines : List Bytes} {state : State}
    (stocked : Stocked folder self state) (decompbuffer : Nat → UInt8)
    (nonempty : ∀ line ∈ lines, line ≠ []) :
    ∃ streams after, Stocked folder self after ∧
      Live.resolveLines (AFF4ZipContainer.outerParent ⟨zip, modelOf stof statements⟩
        (Live.lightResolver self folder.contents) decompbuffer) none lines state =
          .ok (streams.map some, after) ∧
      List.Forall₂ (Placed folder self zip stof statements) lines streams := by
  induction lines generalizing state with
  | nil => exact ⟨[], state, stocked, rfl, .nil⟩
  | cons line lines ih =>
      obtain ⟨stream, between, kept, resolved, placed⟩ :=
        @resolveLine_placed folder self zip stof statements line state stocked decompbuffer
          (nonempty line List.mem_cons_self)
      obtain ⟨streams, after, keptAfter, others, allPlaced⟩ :=
        ih kept fun other member => nonempty other (List.mem_cons_of_mem _ member)
      refine ⟨stream :: streams, after, keptAfter, ?_, .cons placed allPlaced⟩
      rw [Live.resolveLines_cons resolved, others]
      rfl

private theorem nonempty_idxLines {World Stream : Type} (parent : Live.Parent World Stream)
    (resource : Bytes) : ∀ line ∈ Live.idxLines parent resource, line ≠ [] := by
  intro line member
  unfold Live.idxLines at member
  split at member
  · cases member
  · unfold nonEmptyLines at member
    simpa using (List.mem_filter.mp member).2

end Places

/-! ## A small folder -/

/-- A map over a stream that another volume stores, and over one that is nowhere. -/
def stripeTurtle : Bytes :=
  text "@prefix aff4: <http://aff4.org/Schema#> .\n" ++
    (text "<aff4://i> a aff4:Image ; aff4:dataStream <aff4://map> .\n" ++
      (text "<aff4://map> a aff4:Map ; aff4:size 12 .\n" ++
        text "<aff4://s> aff4:stored <aff4://c> ."))

def stripeStatements : List RaptorStatement :=
  smallStatements.take 4 ++ [⟨.uri DeviceStream.streamName,
    .uri ⟨baseUri ++ text "stored", by decide⟩, .uri ⟨text "aff4://c", by decide⟩⟩]

private theorem length_informationTurtle_lt : informationTurtle.length < 2 ^ 16 := by decide

private theorem length_fileDescriptor_lt : fileDescriptor.length < 2 ^ 16 := by decide

def stripeTurtleSegment : PackedSegment fun _ _ => none :=
  storedSegment _ informationTurtle stripeTurtle length_informationTurtle_lt (by decide +kernel)

def stripeLines : List Bytes := [text "aff4://s", text "aff4://u"]

def stripeRecords : List MapEntryPoint := [⟨2, 9, 0, 0⟩, ⟨0, 1, 0, 1⟩]

def stripeSegments : List (PackedSegment fun _ _ => none) := [
    storedSegment _ fileDescriptor (text "aff4://v") length_fileDescriptor_lt (by decide +kernel),
    stripeTurtleSegment,
    storedSegment _ (text "aff4%3A%2F%2F" ++ text "map/idx") (idxOf stripeLines)
      (by decide +kernel) (by decide +kernel),
    storedSegment _ (text "aff4%3A%2F%2F" ++ text "map/map")
      (stripeRecords.flatMap MapEntryPoint.toBytes) (by decide +kernel) (by decide +kernel)] ++
  -- The padding.
  smallSegments.drop 8

private theorem stripeArchive_length : (writeArchive stripeSegments []).length = 4927 := by
  decide +kernel

private theorem stripeSegments_writable : Writable stripeSegments [] where
  nonempty := List.cons_ne_nil _ _
  few := by decide
  small := by
    rw [stripeArchive_length]
    decide
  window := by decide
  last := by
    intro later after within
    have comment : ([] : Bytes).length = 0 := rfl
    rw [comment] at after
    omega
  distinct := by decide +kernel

def stripeRaptor (bytes : Bytes) : List RaptorStatement :=
  if bytes = stripeTurtle then stripeStatements else []

def stripeContainer : ContainerFile where
  filename := text "d/a.aff4"
  isFile := true
  file := stripeSegments_writable.file
  inflate := fun _ _ => none
  stof := fun _ => false
  raptor := stripeRaptor
  memory := fun _ => 0
  heap := fun _ _ => 0
  decompbuffer := fun _ => 0

theorem stripeVolume : WrittenVolume stripeContainer stripeSegments [] stripeTurtleSegment where
  writable := stripeSegments_writable
  readable := by
    refine ⟨stripeArchive_length ▸ by decide, ?_⟩
    intro segment first _ _
    cases first
    decide
  isWritten := rfl
  isFile := rfl
  isAFF4 := by decide
  whole := by
    have short : ∀ segment ∈ stripeSegments, segment.name ∈ [fileDescriptor, informationTurtle] →
        segment.content.length ≤ segment.transfer := by
      decide +kernel
    exact short
  named := by decide +kernel
  present := List.mem_cons_of_mem _ List.mem_cons_self
  isTurtle := rfl

private theorem stripeVolume_statements :
    writtenStatements stripeContainer stripeTurtleSegment = stripeStatements := by
  have raptor : stripeContainer.raptor = stripeRaptor := rfl
  have content : stripeTurtleSegment.content = stripeTurtle := rfl
  have found : stripeRaptor stripeTurtle = stripeStatements := if_pos rfl
  have nonempty : stripeTurtleSegment.content ≠ [] := by decide +kernel
  refine writtenStatements_of nonempty ?_
  rw [raptor, content, found]

/-- The statements of the map declare no image stream. -/
theorem stripeStatements_streams : (modelOf (fun _ => false) stripeStatements).getResourcesOfType
    .aff4ImagestreamType = [] := by
  decide +kernel

private theorem stripeStatements_usable (zip : ZipContainer) :
    UsableStreams zip (fun _ => false) stripeStatements := by
  refine usableStreams_of_listed fun resource listed => ?_
  rw [stripeStatements_streams] at listed
  cases listed

/-- The small volume, as a file of the folder. -/
def storingContainer : ContainerFile := { smallContainer with filename := text "d/b.aff4" }

private theorem storingVolume :
    WrittenVolume storingContainer smallSegments [0x63] smallTurtleSegment where
  writable := smallSegments_writable
  readable := smallVolume.readable
  isWritten := rfl
  isFile := rfl
  isAFF4 := by decide
  whole := smallSegments_short
  named := by decide
  present := List.mem_cons_of_mem _ List.mem_cons_self
  isTurtle := rfl

private theorem storingVolume_statements :
    writtenStatements storingContainer smallTurtleSegment = smallStatements := by
  have raptor : storingContainer.raptor = smallRaptor := rfl
  refine writtenStatements_of smallTurtleSegment_some ?_
  rw [raptor]
  exact smallRaptor_smallTurtle

def stripedFiles : FileSystem :=
  ⟨[(text "d", .directory (some [text "a.aff4", text "b.aff4"])),
    (text "d/a.aff4", .file ⟨some (text "aff4://v"), some true, true⟩),
    (text "d/b.aff4", .file ⟨some (text "aff4://c"), some true, true⟩)]⟩

private theorem stripedFiles_stat {path : Bytes} {entity : Entity}
    (stat : stripedFiles.stat path = some entity) :
    path = text "d" ∧ entity = .directory (some [text "a.aff4", text "b.aff4"]) ∨
      path = text "d/a.aff4" ∧ entity = .file ⟨some (text "aff4://v"), some true, true⟩ ∨
      path = text "d/b.aff4" ∧ entity = .file ⟨some (text "aff4://c"), some true, true⟩ := by
  obtain ⟨item, found, same⟩ := Option.map_eq_some_iff.mp stat
  have member := List.mem_of_find?_eq_some found
  have named : item.1 = path := by simpa using List.find?_some found
  subst named same
  simp only [stripedFiles, List.mem_cons, List.not_mem_nil, or_false] at member
  rcases member with rfl | rfl | rfl
  · exact .inl ⟨rfl, rfl⟩
  · exact .inr (.inl ⟨rfl, rfl⟩)
  · exact .inr (.inr ⟨rfl, rfl⟩)

private theorem stripedFiles_readable : stripedFiles.Readable where
  listed stat := by
    rcases stripedFiles_stat stat with ⟨_, same⟩ | ⟨_, same⟩ | ⟨_, same⟩
    · exact ⟨_, Entity.directory.inj same⟩
    · cases same
    · cases same
  inDirectory stat _ := by
    rcases stripedFiles_stat stat with ⟨_, same⟩ | ⟨rfl, _⟩ | ⟨rfl, _⟩
    · cases same
    · exact ⟨[text "a.aff4", text "b.aff4"], by decide⟩
    · exact ⟨[text "a.aff4", text "b.aff4"], by decide⟩

theorem stripedFiles_resourceAt {path resource : Bytes}
    (there : stripedFiles.resourceAt path = some resource) :
    path = text "d/a.aff4" ∧ resource = text "aff4://v" ∨
      path = text "d/b.aff4" ∧ resource = text "aff4://c" := by
  obtain ⟨_, _, volume, stat, read⟩ := Resolver.resourceAt_iff.mp there
  rcases stripedFiles_stat stat with ⟨_, same⟩ | ⟨isFirst, same⟩ | ⟨isSecond, same⟩
  · cases same
  · cases same
    exact .inl ⟨isFirst, (Option.some.inj read).symm⟩
  · cases same
    exact .inr ⟨isSecond, (Option.some.inj read).symm⟩

/-- No other path has a file. -/
def stripedSource (path : Bytes) : ContainerFile :=
  if path = text "d/b.aff4" then storingContainer else { stripeContainer with filename := path }

def stripedObject (path : Bytes) : ContainerObject :=
  if path = text "d/b.aff4" then
    writtenObject storingContainer smallSegments [0x63] smallTurtleSegment
  else writtenObject stripeContainer stripeSegments [] stripeTurtleSegment

private theorem stripedSource_map : stripedSource (text "d/a.aff4") = stripeContainer :=
  if_neg (by decide)

private theorem stripedSource_stored : stripedSource (text "d/b.aff4") = storingContainer :=
  if_pos rfl

private theorem stripedObject_map : stripedObject (text "d/a.aff4") =
    writtenObject stripeContainer stripeSegments [] stripeTurtleSegment :=
  if_neg (by decide)

private theorem stripedObject_stored : stripedObject (text "d/b.aff4") =
    writtenObject storingContainer smallSegments [0x63] smallTurtleSegment :=
  if_pos rfl

def stripedFolder : Folder where
  files := stripedFiles
  source := stripedSource
  container := stripedObject
  readable := stripedFiles_readable
  named path := by
    unfold stripedSource
    split
    · rename_i isSecond
      exact isSecond.symm
    · rfl
  seen {path volume} stat := by
    rcases stripedFiles_stat stat with ⟨_, same⟩ | ⟨rfl, same⟩ | ⟨rfl, same⟩
    · cases same
    · cases same
      rw [stripedSource_map]
      exact stripeVolume.seen
    · cases same
      rw [stripedSource_stored]
      exact storingVolume.seen
  opens {path resource} there := by
    rcases stripedFiles_resourceAt there with ⟨rfl, _⟩ | ⟨rfl, _⟩
    · rw [stripedSource_map, stripedObject_map]
      exact stripeVolume.opened
    · rw [stripedSource_stored, stripedObject_stored]
      exact storingVolume.opened
  unique {left right resource} first second := by
    rcases stripedFiles_resourceAt first with ⟨rfl, rfl⟩ | ⟨rfl, rfl⟩
    · rcases stripedFiles_resourceAt second with ⟨rfl, _⟩ | ⟨_, impossible⟩
      · rfl
      · exact absurd impossible (by decide)
    · rcases stripedFiles_resourceAt second with ⟨_, impossible⟩ | ⟨rfl, _⟩
      · exact absurd impossible (by decide)
      · rfl

theorem stripedFolder_resolver : ∃ state,
    Resolver.createResolver stripedFiles (text "d/a.aff4") true =
      some (some (⟨text "d", true⟩, state)) :=
  ⟨_, rfl⟩

theorem stripedFolder_stored : (stripedFolder.container (text "d/b.aff4")).zip = smallVolume.zip ∧
    stripedFolder.statementsAt (text "d/b.aff4") = smallStatements := by
  obtain ⟨zip, statements⟩ := @WrittenVolume.heldAt stripedFolder (text "d/b.aff4") _ _ _ _
    storingVolume stripedSource_stored stripedObject_stored
  exact ⟨zip, statements.trans storingVolume_statements⟩

theorem stripedFolder_map : (stripedFolder.container (text "d/a.aff4")).zip = stripeVolume.zip ∧
    stripedFolder.statementsAt (text "d/a.aff4") = stripeStatements := by
  obtain ⟨zip, statements⟩ := @WrittenVolume.heldAt stripedFolder (text "d/a.aff4") _ _ _ _
    stripeVolume stripedSource_map stripedObject_map
  exact ⟨zip, statements.trans stripeVolume_statements⟩

private theorem stripedSource_stof (path : Bytes) : (stripedSource path).stof = fun _ => false := by
  unfold stripedSource
  split
  · rfl
  · rfl

theorem stripedFolder_stof (path : Bytes) : (stripedFolder.source path).stof = fun _ => false :=
  stripedSource_stof path

private theorem stripedFolder_usable : stripedFolder.UsableStreams := by
  intro path volume there
  rcases stripedFiles_resourceAt there with ⟨rfl, _⟩ | ⟨rfl, _⟩
  · rw [stripedFolder_map.2, stripedFolder_stof]
    exact stripeStatements_usable _
  · rw [stripedFolder_stored.2, stripedFolder_stof]
    exact smallStatements_usable _

/-- The volume with the map. -/
def stripedVolume : AFF4ZipContainer :=
  ⟨stripeVolume.zip, modelOf (fun _ => false) stripeStatements⟩

/-! ## The vector of streams -/

/-- With a resolver that `createResolver` made for a folder, whatever it was asked before, the
vector of a map has the stream of every line, in their order; no line fails, and no constructor
that is run for one divides by zero. -/
theorem initStreamVector_placed {folder : Folder} {self : LightResolver} {path : Bytes}
    {deep : Bool} {state : State}
    (made : Resolver.createResolver folder.files path deep = some (some (self, state)))
    {volumes : Resolver.Volumes} (reaches : self.Reaches folder.files state.volumes volumes)
    {zip : ZipContainer} {stof : Bytes → Bool} {statements : List RaptorStatement}
    (usable : UsableStreams zip stof statements) (outer : folder.UsableStreams)
    (libraries : Libraries) (chunkCacheSize : U64) (resource : Bytes)
    (decompbuffer : Nat → UInt8) :
    (∀ line ∈ Live.idxLines (AFF4ZipContainer.outerParent ⟨zip, modelOf stof statements⟩
        (Live.lightResolver self folder.contents) decompbuffer) resource,
      ∀ volume stream, Constructs folder self zip stof statements line volume stream →
        stream.construct libraries chunkCacheSize volume.zip (some volume.model) = .ok ()) ∧
    ∃ streams after,
      Live.initStreamVector (AFF4ZipContainer.outerParent ⟨zip, modelOf stof statements⟩
          (Live.lightResolver self folder.contents) decompbuffer) none resource
          ⟨folder.files, volumes⟩ = .ok (streams.map some, after) ∧
        List.Forall₂ (Placed folder self zip stof statements)
          (Live.idxLines (AFF4ZipContainer.outerParent ⟨zip, modelOf stof statements⟩
            (Live.lightResolver self folder.contents) decompbuffer) resource) streams := by
  have stocked := (createResolver_stocked made).reached reaches
  obtain ⟨streams, after, _, resolved, placed⟩ :=
    resolveLines_placed stocked decompbuffer (nonempty_idxLines _ resource)
  refine ⟨fun line _ volume stream constructs => ?_, streams, after, resolved, placed⟩
  exact constructs.comesBack usable outer libraries chunkCacheSize

theorem initStreamVector_placed_striped : ∃ self state,
    Resolver.createResolver stripedFiles (text "d/a.aff4") true = some (some (self, state)) ∧
      ∀ volumes, self.Reaches stripedFiles state.volumes volumes →
        ∀ resource decompbuffer,
          (∀ line ∈ Live.idxLines (AFF4ZipContainer.outerParent stripedVolume
              (Live.lightResolver self stripedFolder.contents) decompbuffer) resource,
            ∀ volume stream,
              Constructs stripedFolder self stripeVolume.zip (fun _ => false) stripeStatements line
                  volume stream →
                stream.construct CompressionCodec.literalLibraries 0x100000 volume.zip
                  (some volume.model) = .ok ()) ∧
          ∃ streams after,
            Live.initStreamVector (AFF4ZipContainer.outerParent stripedVolume
                (Live.lightResolver self stripedFolder.contents) decompbuffer) none resource
                ⟨stripedFiles, volumes⟩ = .ok (streams.map some, after) ∧
              List.Forall₂
                (Placed stripedFolder self stripeVolume.zip (fun _ => false) stripeStatements)
                (Live.idxLines (AFF4ZipContainer.outerParent stripedVolume
                  (Live.lightResolver self stripedFolder.contents) decompbuffer) resource)
                streams := by
  obtain ⟨state, made⟩ := stripedFolder_resolver
  refine ⟨⟨text "d", true⟩, state, made, ?_⟩
  intro volumes reaches
  exact @initStreamVector_placed stripedFolder ⟨text "d", true⟩ (text "d/a.aff4") true state made
    volumes reaches _ _ _ (stripeStatements_usable _) stripedFolder_usable _ _

end Aff4Lite.Containers
