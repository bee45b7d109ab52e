import Aff4Lite.Containers.OuterStreams

/-!
# Images over several volumes

The map of an image is opened with a resolver for the folder of its volume. What is read of the
image is the mosaic of what all the volumes store; where the stream of a record is in none of
them, it is the text of the unknown stream.
-/

set_option autoImplicit false

namespace Aff4Lite.Stream.Live

open Lib

section Create

variable {World Stream : Type}

/-- The parent as `initMap` uses it, which does not ask the resolver. -/
def Parent.segments (parent : Parent World Stream) (createUnknownStream : Stream) :
    Aff4Lite.Stream.Parent Stream where
  getSegment := parent.getSegment
  getImageStream := parent.getImageStream
  resolver := none
  rdfModel := none
  createUnknownStream := createUnknownStream
  createUnknownStreamFor := parent.createUnknownStreamFor

/-- The constructor of `MapStream`, with a resolver that changes. -/
def createMapStream (parent : Parent World Stream) (createUnknownStream : Stream)
    (resource : Bytes) (size : U64) (unknownOverride mapGapStream : Option Stream)
    (order : PointSort) (heap : Nat → UInt8) (world : World) :
    Except Fault (MapStream Stream × World) := do
  let (streams, world) ← initStreamVector parent unknownOverride resource world
  let stream ← initMap (parent.segments createUnknownStream) resource size streams mapGapStream
    order heap
  return (if stream.length = 0 then stream.close else stream, world)

/-- A parent that has a stream for every line. -/
def Parent.given (parent : Parent World Stream) (createUnknownStream : Stream)
    (streamOf : Bytes → Stream) : Aff4Lite.Stream.Parent Stream :=
  { parent.segments createUnknownStream with getImageStream := fun line => some (streamOf line) }

variable {parent : Parent World Stream} {resource : Bytes}

private theorem initStreamVector_given (createUnknownStream : Stream) (streamOf : Bytes → Stream) :
    Aff4Lite.Stream.initStreamVector (parent.given createUnknownStream streamOf) resource none =
      .ok (((idxLines parent resource).map streamOf).map some) := by
  have resolved : ∀ lines : List Bytes, lines.mapM
      (Aff4Lite.Stream.resolveLine (parent.given createUnknownStream streamOf) none) =
        .ok ((lines.map streamOf).map some) := by
    intro lines
    induction lines with
    | nil => rfl
    | cons line lines ih =>
        have head : Aff4Lite.Stream.resolveLine (parent.given createUnknownStream streamOf) none
            line = .ok (some (streamOf line)) := by
          unfold Aff4Lite.Stream.resolveLine Parent.given
          simp
        rw [List.mapM_cons, head, ih]
        rfl
  unfold Aff4Lite.Stream.initStreamVector idxLines
  cases found : parent.getSegment (resource ++ text "/idx") with
  | none =>
      have missing : (parent.given createUnknownStream streamOf).getSegment
          (resource ++ text "/idx") = none := found
      rw [missing]
      rfl
  | some idx =>
      have present : (parent.given createUnknownStream streamOf).getSegment
          (resource ++ text "/idx") = some idx := found
      rw [present]
      exact resolved (nonEmptyLines idx.bytes)

/-- The constructor gives the map that the streams of its lines make. -/
theorem createMapStream_given {createUnknownStream : Stream} {streamOf : Bytes → Stream}
    {size : U64} {mapGapStream : Option Stream} {order : PointSort} {heap : Nat → UInt8}
    {world after : World} {self : MapStream Stream}
    (resolved : initStreamVector parent none resource world =
      .ok (((idxLines parent resource).map streamOf).map some, after))
    (created : MapStream.create (parent.given createUnknownStream streamOf) resource size none
      mapGapStream order heap = .ok self) :
    createMapStream parent createUnknownStream resource size none mapGapStream order heap world =
      .ok (self, after) := by
  unfold createMapStream
  unfold MapStream.create at created
  rw [initStreamVector_given] at created
  rw [resolved]
  have same : initMap (parent.segments createUnknownStream) resource size
      (((idxLines parent resource).map streamOf).map some) mapGapStream order heap =
    initMap (parent.given createUnknownStream streamOf) resource size
      (((idxLines parent resource).map streamOf).map some) mapGapStream order heap := rfl
  dsimp only [bind, Except.bind] at created ⊢
  rw [same]
  cases made : initMap (parent.given createUnknownStream streamOf) resource size
      (((idxLines parent resource).map streamOf).map some) mapGapStream order heap with
  | error fault =>
      rw [made] at created
      cases created
  | ok stream =>
      rw [made] at created
      cases created
      rfl

end Create

end Aff4Lite.Stream.Live

namespace Aff4Lite.Containers

open Lib Rdf Zip Aff4Lite.Stream Aff4Lite.Map
open Aff4Lite.Resolver (LightResolver State)
open Model (collected typedLiteral)

/-- `AFF4Map::getStream`, where the container has a resolver. -/
def outerMapStream (map : AFF4Map) (parent : Live.Parent State OuterStream) (order : PointSort)
    (heap : Nat → UInt8) (state : State) : Except Fault (MapStream OuterStream × State) :=
  Live.createMapStream parent (.own createUnknownStream) map.resource map.length
    (map.unknownOverride.map .own) (map.mapGapStreamOverride.map .own) order heap state

/-! ## The streams of a folder -/

namespace Folder

variable (folder : Folder)

/-- The objects behind the streams of a map in the volume at `path`. A stream without an object is
never asked for. -/
def objects (machine : Machine) (path : Bytes) : OuterStream → StreamObject
  | .own stream => (folder.volumeAt path).objects machine stream
  | .stored other stream =>
      if (folder.files.resourceAt other).isSome then (folder.volumeAt other).objects machine stream
      else .symbolic ⟨[], 0⟩
  | .segment _ _ => .symbolic ⟨[], 0⟩

/-- What the streams show; `stored` are the contents of the image streams, by the paths of their
volumes. -/
def shown (stored : Bytes → Bytes → Bytes) (path : Bytes) : OuterStream → Extent UInt8
  | .own stream => (folder.volumeAt path).shown (stored path) stream
  | .stored other stream =>
      if (folder.files.resourceAt other).isSome then
        (folder.volumeAt other).shown (stored other) stream
      else ⟨(BitVec.allOnes 64).toNat, fun _ => 0⟩
  | .segment _ _ => ⟨(BitVec.allOnes 64).toNat, fun _ => 0⟩

/-- Every volume has the bevvies and the descriptions of its image streams. -/
def StoresStreams (machine : Machine) (stored : Bytes → Bytes → Bytes) : Prop :=
  ∀ path volume, folder.files.resourceAt path = some volume → ∀ resource,
    HasStream (folder.container path).zip (folder.source path).stof (folder.statementsAt path)
      resource (.image resource) →
    (folder.volumeAt path).StoresStream machine resource (stored path resource)

section Serve

variable {folder} {machine : Machine} {stored : Bytes → Bytes → Bytes} {path resource : Bytes}

theorem StoresStreams.volume (stores : folder.StoresStreams machine stored)
    (there : folder.files.resourceAt path = some resource) (name : Bytes)
    (found : (folder.volumeAt path).getImageStream name = some (.image name)) :
    (folder.volumeAt path).StoresStream machine name (stored path name) :=
  stores path resource there name (getImageStream_iff.mp found)

theorem shown_addressed (stores : folder.StoresStreams machine stored)
    (there : folder.files.resourceAt path = some resource) (stream : OuterStream) :
    (folder.shown stored path stream).size < 2 ^ 64 := by
  unfold shown
  cases stream with
  | own stream => exact AFF4ZipContainer.shown_addressed (stores.volume there) stream
  | stored other stream =>
      dsimp only
      split
      · rename_i nonempty
        obtain ⟨volume, otherThere⟩ := Option.isSome_iff_exists.mp nonempty
        exact AFF4ZipContainer.shown_addressed (stores.volume otherThere) stream
      · exact (BitVec.allOnes 64).isLt
  | segment other entry => exact (BitVec.allOnes 64).isLt

/-- Each object serves what its stream shows. -/
theorem objects_serve (stores : folder.StoresStreams machine stored)
    (there : folder.files.resourceAt path = some resource) (stream : OuterStream) :
    ∃ good : ImageState → Prop, good (folder.objects machine path stream).fresh ∧
      ∀ scratch, Transparent
        (fun (request : U64 × U64) =>
          (folder.objects machine path stream).read scratch request.1 request.2) good
        (ReadsExtent (folder.shown stored path stream)) := by
  unfold objects shown
  cases stream with
  | own stream => exact AFF4ZipContainer.objects_serve (stores.volume there) stream
  | stored other stream =>
      dsimp only
      split
      · rename_i nonempty
        obtain ⟨volume, otherThere⟩ := Option.isSome_iff_exists.mp nonempty
        exact AFF4ZipContainer.objects_serve (stores.volume otherThere) stream
      · exact AFF4ZipContainer.idle_serves
  | segment other entry => exact AFF4ZipContainer.idle_serves

end Serve

/-! ## Images -/

/-- The volume at `path` has an image with a map whose records stay inside their streams, wherever
these are. -/
structure HoldsImage (resolver : LightResolver) (stored : Bytes → Bytes → Bytes)
    (path image : Bytes) (map : AFF4Map) (lines : List Bytes) (streams : List OuterStream)
    (records : List MapEntryPoint) (gap : ContainerStream) : Prop where
  isImage : Declared (folder.statementsAt path) image .aff4ImageType
  dataStream : ∃ value, (collected (typedLiteral (folder.source path).stof)
    (folder.statementsAt path) image .aff4Datastream).head? = some value ∧
      value.valueLiteral = map.resource
  named : map.resource ≠ []
  created : map = AFF4Map.create (folder.volumeAt path) map.resource
  sized : map.length ≠ 0
  keeps : KeepsMap (folder.container path).zip map.resource lines records
  known : List.Forall₂ (Placed folder resolver (folder.container path).zip
    (folder.source path).stof (folder.statementsAt path)) lines streams
  noSegment : ∀ other entry, OuterStream.segment other entry ∉ streams
  disjoint : DisjointRecords records lines.length
  reaches : ∀ record ∈ records, ∀ stream, streams[record.streamID.toNat]? = some stream →
    record.streamOffset.toNat + record.length.toNat ≤ (folder.shown stored path stream).size
  isGap : map.mapGapStreamOverride = some gap
  gapReaches : map.length.toNat ≤ (folder.shown stored path (.own gap)).size

variable {folder}

/-- The map opens with its streams, wherever they are. -/
theorem HoldsImage.opened {self : LightResolver} {stored : Bytes → Bytes → Bytes}
    {path image : Bytes} {map : AFF4Map} {lines : List Bytes} {streams : List OuterStream}
    {records : List MapEntryPoint} {gap : ContainerStream}
    (holds : folder.HoldsImage self stored path image map lines streams records gap)
    {state : State} (stocked : Stocked folder self state) (decompbuffer : Nat → UInt8)
    (order : PointSort) (heap : Nat → UInt8) :
    ∃ (opened : OpenedMap OuterStream (folder.shown stored path)) (after : State),
      outerMapStream map ((folder.volumeAt path).outerParent
        (Live.lightResolver self folder.contents) decompbuffer) order heap state =
          .ok (opened.self, after) ∧
        opened.self.size = map.length ∧
        opened.image = recordMosaic map.length.toNat records (streams.map some) (.own gap)
          (folder.shown stored path) := by
  obtain ⟨parent, isParent⟩ : ∃ parent, parent = (folder.volumeAt path).outerParent
    (Live.lightResolver self folder.contents) decompbuffer := ⟨_, rfl⟩
  obtain ⟨idxFits, idx⟩ := holds.keeps.idx
  obtain ⟨mapFits, mapSegment⟩ := holds.keeps.map
  have fits : sizeofMapEntryPoint * records.length < 2 ^ 32 := by
    rwa [length_flatMap_of_width MapEntryPoint.length_toBytes] at mapFits
  have idxSegment : parent.getSegment (map.resource ++ text "/idx") =
      some (.full (idxOf lines) idxFits) := isParent ▸ idx decompbuffer
  have linesOf : Live.idxLines parent map.resource = lines := by
    unfold Live.idxLines
    rw [idxSegment]
    exact nonEmptyLines_idxOf holds.keeps.clean
  have nonempty : ∀ line ∈ lines, line ≠ [] := fun line member => (holds.keeps.clean line member).1
  obtain ⟨streamOf, isStreamOf⟩ := exists_streamOf folder self (folder.container path).zip
    (folder.source path).stof (folder.statementsAt path)
  have given := isStreamOf lines streams nonempty holds.known
  obtain ⟨found, after, _, resolved, placed⟩ := resolveLines_placed stocked decompbuffer nonempty
  cases (isStreamOf lines found nonempty placed).symm.trans given
  have vector : Live.initStreamVector parent none map.resource state =
      .ok (((Live.idxLines parent map.resource).map streamOf).map some, after) := by
    rw [linesOf, given]
    unfold Live.initStreamVector
    rw [linesOf, isParent]
    exact resolved
  have present : (parent.given (.own createUnknownStream) streamOf).getSegment
      (map.resource ++ text "/map") = some (.ofRecords records fits) :=
    isParent ▸ mapSegment decompbuffer
  have static := @Live.initStreamVector_given _ _ parent map.resource (.own createUnknownStream)
    streamOf
  rw [linesOf, given] at static
  obtain ⟨opened, created, size, isMosaic⟩ := @opened_of_segments _
    (parent.given (.own createUnknownStream) streamOf) _ _ _ _ _ _ _ holds.keeps.clean
    holds.keeps.nonempty _ idxSegment _ present static holds.disjoint holds.reaches holds.sized
    holds.gapReaches order heap
  refine ⟨opened, after, ?_, size, isMosaic⟩
  have plain : map.unknownOverride = none := by
    rw [holds.created]
    rfl
  rw [outerMapStream, plain, holds.isGap, ← isParent]
  exact Live.createMapStream_given vector created

/-- From a folder of volumes the library gets back what they store. The volume of the image opens;
whatever was asked of it before, the image leads to its map; whatever the resolver of the folder
was asked before, the map leads to a stream; and every run of reads of the stream is answered by
the mosaic of the contents, each from the volume that stores it. -/
theorem striped_readBack (folder : Folder) (machine : Machine)
    {stored : Bytes → Bytes → Bytes} (stores : folder.StoresStreams machine stored)
    {path volume : Bytes} (there : folder.files.resourceAt path = some volume) {deep : Bool}
    {resolver : LightResolver} {state : State}
    (made : Resolver.createResolver folder.files path deep = some (some (resolver, state)))
    {image : Bytes} {map : AFF4Map} {lines : List Bytes} {streams : List OuterStream}
    {records : List MapEntryPoint} {gap : ContainerStream}
    (holds : folder.HoldsImage resolver stored path image map lines streams records gap) :
    (∃ fuel, (folder.source path).openContainer fuel =
      some (.returned (some (folder.container path)))) ∧
      ∀ calls, ∃ given later object after,
        (folder.container path).run calls = .ok (given, later) ∧
        later.getImage image = .ok (some object, after) ∧
        after.mapOfImage object = .ok (some map) ∧
        ∀ volumes, resolver.Reaches folder.files state.volumes volumes →
          ∀ decompbuffer order heap, ∃ self reached,
            outerMapStream map ((folder.volumeAt path).outerParent
              (Live.lightResolver resolver folder.contents) decompbuffer) order heap
              ⟨folder.files, volumes⟩ = .ok (self, reached) ∧
            self.size = map.length ∧
            ∀ (scratch : OuterStream → Nat → UInt8) (memory : Nat → UInt8)
              (requests : List (U64 × U64)),
              List.Forall₂
                (ReadsExtent (recordMosaic map.length.toNat records (streams.map some) (.own gap)
                  (folder.shown stored path)))
                requests
                (replies (fun request =>
                  self.deliver (StreamObject.reader (folder.objects machine path) scratch) memory
                    request.1 request.2) requests
                  fun stream => (folder.objects machine path stream).fresh).1 := by
  obtain ⟨_, _, warm⟩ := folder.opened there
  have serve := folder.objects_serve stores there
  choose good fresh transparent using serve
  have addressed := folder.shown_addressed stores there
  refine ⟨folder.opens there, fun calls => ?_⟩
  obtain ⟨given, later, ran, stillWarm, _⟩ := warm.run calls
  obtain ⟨value, isGiven, names⟩ := holds.dataStream
  obtain ⟨object, after, found, _, mapped⟩ :=
    stillWarm.mapOfImage holds.isImage isGiven names holds.named
  refine ⟨given, later, object, after, ran, found, ?_, ?_⟩
  · rw [mapped]
    exact congrArg (fun created => Except.ok (some created)) holds.created.symm
  · intro volumes reaches decompbuffer order heap
    have stocked := (createResolver_stocked made).reached reaches
    obtain ⟨opened, reached, isStream, size, isMosaic⟩ :=
      holds.opened stocked decompbuffer order heap
    refine ⟨opened.self, reached, isStream, size, fun scratch memory requests => ?_⟩
    have serves : (StreamObject.reader (folder.objects machine path) scratch).ServesExtents
        (fun world => ∀ stream, good stream (world stream)) (folder.shown stored path) :=
      .family fun stream => transparent stream (scratch stream)
    have read := (opened.pictures addressed).transparent serves addressed memory
    rw [isMosaic] at read
    exact (read.replied requests fresh).1

end Folder

/-! ## The small folder -/

theorem stripedFolder_volumeAt_map : stripedFolder.volumeAt (text "d/a.aff4") =
    ⟨stripeVolume.zip, modelOf (fun _ => false) stripeStatements⟩ := by
  rw [Folder.volumeAt, stripedFolder_map.1, stripedFolder_map.2, stripedFolder_stof]

private theorem stripedFolder_volumeAt_stored : stripedFolder.volumeAt (text "d/b.aff4") =
    smallVolume.container := by
  rw [Folder.volumeAt, stripedFolder_stored.1, stripedFolder_stored.2, stripedFolder_stof,
    smallVolume_container]

private theorem stripedFolder_stores :
    stripedFolder.StoresStreams smallMachine fun _ _ => letters := by
  intro path volume there resource has
  rcases stripedFiles_resourceAt there with ⟨rfl, _⟩ | ⟨rfl, _⟩
  · have declared := has.declared
    rw [stripedFolder_map.2] at declared
    have member := (@declared_iff (fun _ => false) _ _ (by decide) resource).mpr declared
    rw [stripeStatements_streams] at member
    cases member
  · rw [stripedFolder_stored.1, stripedFolder_stored.2, stripedFolder_stof] at has
    rw [stripedFolder_volumeAt_stored]
    obtain ⟨coding, codec, bevvies, describes, room⟩ := smallVolume_stores resource
      (by rw [smallVolume_statements]; exact has)
    exact ⟨coding, codec, bevvies.holds, describes, room⟩

private theorem stripedFolder_placed : List.Forall₂
    (Placed stripedFolder ⟨text "d", true⟩ stripeVolume.zip (fun _ => false) stripeStatements)
    stripeLines
    [.stored (text "d/b.aff4") (.image (text "aff4://s")),
      .own (createUnknownStreamFor (text "aff4://u"))] := by
  have absent : ∀ line ∈ stripeLines, ∀ stream,
      ¬HasStream stripeVolume.zip (fun _ => false) stripeStatements line stream := by
    intro line member stream has
    have found := getImageStream_iff.mpr has
    have missing : ∀ line ∈ stripeLines, (AFF4ZipContainer.mk stripeVolume.zip
        (modelOf (fun _ => false) stripeStatements)).getImageStream line = none := by
      decide +kernel
    cases (missing line member).symm.trans found
  have storedAt : StoredAt stripedFolder ⟨text "d", true⟩ (fun _ => false) stripeStatements
      (text "aff4://s") (text "d/b.aff4") := by
    have listing : stripedFiles.stat (text "d") =
        some (.directory (some [text "a.aff4", text "b.aff4"])) := by decide
    refine ⟨.typed .resource .aff4Stored (text "aff4://c"), by decide +kernel, ⟨by decide, ?_⟩,
      by decide⟩
    refine ⟨⟨some (text "aff4://c"), some true, true⟩, ?_, rfl⟩
    exact .file listing (List.mem_cons_of_mem _ List.mem_cons_self)
      (by unfold Resolver.isDots; decide) (by decide) (by decide)
  have opens : stripedFolder.Opens (text "d/b.aff4") (text "aff4://s")
      (.stream (.image (text "aff4://s"))) := by
    have apart : ∀ type ∈ [Lexicon.aff4ImageType, .aff4MapType],
        ¬Declared smallStatements (text "aff4://s") type := by
      intro type member declared
      have lookedUp : ∀ type ∈ [Lexicon.aff4ImageType, .aff4MapType], type ∈ Model.lookedUp := by
        decide
      have missing : ∀ type ∈ [Lexicon.aff4ImageType, .aff4MapType], text "aff4://s" ∉
          (modelOf (fun _ => false) smallStatements).getResourcesOfType type := by
        decide +kernel
      exact missing type member ((declared_iff (lookedUp type member) _).mpr declared)
    unfold Folder.Opens
    rw [stripedFolder_stored.1, stripedFolder_stored.2, stripedFolder_stof]
    have stream := smallVolume_stream
    rw [smallVolume_container] at stream
    exact .stream (apart _ List.mem_cons_self)
      (apart _ (List.mem_cons_of_mem _ List.mem_cons_self)) (getImageStream_iff.mp stream)
  have first : Placed stripedFolder ⟨text "d", true⟩ stripeVolume.zip (fun _ => false)
      stripeStatements (text "aff4://s") (.stored (text "d/b.aff4") (.image (text "aff4://s"))) :=
    .outer (absent _ List.mem_cons_self) storedAt opens rfl
  refine .cons first (.cons (.unknown
    (absent _ (List.mem_cons_of_mem _ List.mem_cons_self)) ?_) .nil)
  rintro path opened ⟨value, given, _⟩
  have missing : (collected (typedLiteral fun _ => false) stripeStatements (text "aff4://u")
      .aff4Stored).head? = none := by
    decide +kernel
  cases missing.symm.trans given

private theorem stripedFolder_image : stripedFolder.HoldsImage ⟨text "d", true⟩ (fun _ _ => letters)
    (text "d/a.aff4") (text "aff4://i")
    (AFF4Map.create (stripedFolder.volumeAt (text "d/a.aff4")) (text "aff4://map")) stripeLines
    [.stored (text "d/b.aff4") (.image (text "aff4://s")),
      .own (createUnknownStreamFor (text "aff4://u"))] stripeRecords createZeroStream where
  isImage := by
    rw [stripedFolder_map.2]
    exact ⟨_, List.mem_cons_self, imageName, rdfType, ⟨baseUri ++ text "Image", by decide⟩,
      rfl, rfl, rfl, by decide +kernel⟩
  dataStream := by
    rw [stripedFolder_map.2, stripedFolder_stof]
    exact ⟨.typed .resource .aff4Datastream (text "aff4://map"), by decide +kernel, rfl⟩
  named := by decide
  created := rfl
  sized := by
    rw [stripedFolder_volumeAt_map]
    decide +kernel
  keeps := by
    rw [stripedFolder_map.1]
    have idx : stripeVolume.Packs (text "aff4://map" ++ text "/idx") (idxOf stripeLines) :=
      ⟨_, List.mem_iff_getElem?.mpr ⟨2, rfl⟩, by decide +kernel, by decide +kernel, rfl⟩
    have records : stripeVolume.Packs (text "aff4://map" ++ text "/map")
        (stripeRecords.flatMap MapEntryPoint.toBytes) :=
      ⟨_, List.mem_iff_getElem?.mpr ⟨3, rfl⟩, by decide +kernel, by decide +kernel, rfl⟩
    exact ⟨by decide, List.cons_ne_nil _ _, idx.keeps, records.keeps⟩
  known := by
    rw [stripedFolder_map.1, stripedFolder_map.2, stripedFolder_stof]
    exact stripedFolder_placed
  noSegment := by
    intro other entry member
    simp at member
  disjoint := ⟨by decide, by decide, by decide, by decide⟩
  reaches := by
    intro record member stream found
    rcases List.mem_cons.mp member with rfl | member
    · cases found
      unfold Folder.shown
      dsimp only
      rw [if_pos (by decide), stripedFolder_volumeAt_stored]
      unfold AFF4ZipContainer.shown
      dsimp only
      rw [if_pos smallVolume_stream]
      decide
    · cases List.mem_singleton.mp member
      cases found
      change 0 + 1 ≤ (BitVec.allOnes 64).toNat
      decide
  isGap := by
    rw [stripedFolder_volumeAt_map]
    decide +kernel
  gapReaches := Nat.le_of_lt_succ (BitVec.isLt _)

theorem striped_readBack_small : ∃ state,
    Resolver.createResolver stripedFiles (text "d/a.aff4") true =
      some (some (⟨text "d", true⟩, state)) ∧
    (∃ fuel, (stripedFolder.source (text "d/a.aff4")).openContainer fuel =
      some (.returned (some (stripedFolder.container (text "d/a.aff4"))))) ∧
      ∀ calls, ∃ given later object after,
        (stripedFolder.container (text "d/a.aff4")).run calls = .ok (given, later) ∧
        later.getImage (text "aff4://i") = .ok (some object, after) ∧
        after.mapOfImage object = .ok (some
          (AFF4Map.create (stripedFolder.volumeAt (text "d/a.aff4")) (text "aff4://map"))) ∧
        ∀ volumes, LightResolver.Reaches ⟨text "d", true⟩ stripedFiles state.volumes volumes →
          ∀ decompbuffer order heap, ∃ self reached,
            outerMapStream
              (AFF4Map.create (stripedFolder.volumeAt (text "d/a.aff4")) (text "aff4://map"))
              ((stripedFolder.volumeAt (text "d/a.aff4")).outerParent
                (Live.lightResolver ⟨text "d", true⟩ stripedFolder.contents) decompbuffer) order
              heap ⟨stripedFiles, volumes⟩ = .ok (self, reached) ∧
            self.size = (AFF4Map.create (stripedFolder.volumeAt (text "d/a.aff4"))
              (text "aff4://map")).length ∧
            ∀ (scratch : OuterStream → Nat → UInt8) (memory : Nat → UInt8)
              (requests : List (U64 × U64)),
              List.Forall₂
                (ReadsExtent (recordMosaic
                  (AFF4Map.create (stripedFolder.volumeAt (text "d/a.aff4"))
                    (text "aff4://map")).length.toNat stripeRecords
                  [some (.stored (text "d/b.aff4") (.image (text "aff4://s"))),
                    some (.own (createUnknownStreamFor (text "aff4://u")))]
                  (.own createZeroStream)
                  (stripedFolder.shown (fun _ _ => letters) (text "d/a.aff4"))))
                requests
                (replies (fun request =>
                  self.deliver (StreamObject.reader
                    (stripedFolder.objects smallMachine (text "d/a.aff4")) scratch) memory
                    request.1 request.2) requests
                  fun stream =>
                    (stripedFolder.objects smallMachine (text "d/a.aff4") stream).fresh).1 := by
  obtain ⟨state, made⟩ := stripedFolder_resolver
  have there : stripedFolder.files.resourceAt (text "d/a.aff4") = some (text "aff4://v") := by
    decide
  exact ⟨state, made, stripedFolder.striped_readBack smallMachine stripedFolder_stores there made
    stripedFolder_image⟩

end Aff4Lite.Containers
