import Aff4Lite.Containers.WrittenContainer
import Aff4Lite.Map.Overrides
import Aff4Lite.Stream.MapImage

/-!
# The evidence in a written volume

A volume is written with the statements of an image, the segments of its map and the bevvies of
the streams below the map. The library opens it, and what it reads of the image is the mosaic of
the contents that were stored.
-/

set_option autoImplicit false

namespace Aff4Lite.Containers

open Lib Rdf Zip Codec Aff4Lite.Stream Aff4Lite.Map
open Model (collected typedLiteral)

/-! ## The container behind a map -/

/-- One read gives at most one transfer, or one inflated buffer. -/
theorem length_readSegment_lt (inflate : Bytes → Nat → Option Bytes) (file : File)
    (entry : ZipEntry) (decompbuffer : Nat → UInt8) :
    (readSegment inflate file entry decompbuffer entry.length 0).bytes.length < 2 ^ 32 := by
  have whole := length_readSegment_le inflate file entry decompbuffer
  by_cases short : entry.length ≤ wholeStream
  · unfold wholeStream at short
    bv_omega
  · unfold readSegment readCompressed
    rw [if_neg (show ¬(0 : U64) > entry.length by bv_omega)]
    dsimp only
    rw [if_neg short]
    split
    · exact Nat.two_pow_pos 32
    split
    · exact Nat.two_pow_pos 32
    · have transfer := length_fileRead_le_transfer file
        (truncateCount entry.length 0 entry.length) (0 + entry.offset)
      unfold maxTransfer at transfer
      omega

/-- A segment, read into a buffer of its size. -/
def ZipContainer.segment (container : ZipContainer) (decompbuffer : Nat → UInt8)
    (segmentName : Bytes) : Option Segment :=
  (container.getSegment segmentName).map fun entry => {
    size := entry.length
    bytes :=
      (readSegment container.inflate container.file entry decompbuffer entry.length 0).bytes
    within := length_readSegment_le _ _ _ _
    oneTransfer := length_readSegment_lt _ _ _ _ }

/-- The container as the parent of its maps. -/
def AFF4ZipContainer.parent (container : AFF4ZipContainer)
    (resolver : Option (Resolver ContainerStream)) (decompbuffer : Nat → UInt8) :
    Parent ContainerStream where
  getSegment := container.zip.segment decompbuffer
  getImageStream := container.getImageStream
  resolver := resolver
  rdfModel := some (Volume.storedIn container.model)
  createUnknownStream := createUnknownStream
  createUnknownStreamFor := createUnknownStreamFor

/-! ## The streams of a container -/

/-- What the constructors of the streams find: the decompressors, the size of the caches and
fresh memory. -/
structure Machine where
  libraries : Libraries
  chunkCacheSize : U64
  heap : Nat → Nat → UInt8
  buffer : Nat → UInt8

namespace AFF4ZipContainer

variable (container : AFF4ZipContainer) (machine : Machine)

/-- The object behind a stream. An image stream has one where the container opens it. -/
def objectOf : ContainerStream → Option StreamObject
  | .symbolic resource symbol => some (.symbolic ⟨resource, symbol⟩)
  | .repeated _ symbol => (RepeatedImageStream.create symbol machine.buffer).map .repeated
  | .image resource =>
      if container.getImageStream resource = some (.image resource) then
        (ImageStream.create machine.libraries container.zip container.model resource
          machine.chunkCacheSize).map (StreamObject.image · machine.heap)
      else none

/-- The objects by their streams. A stream without an object is never asked for. -/
def objects (stream : ContainerStream) : StreamObject :=
  (container.objectOf machine stream).getD (.symbolic ⟨[], 0⟩)

/-- What the streams show where each image stream has the content that was stored for it. -/
def shown (stored : Bytes → Bytes) : ContainerStream → Extent UInt8
  | .symbolic _ symbol => ⟨(BitVec.allOnes 64).toNat, fun _ => symbol⟩
  | .repeated _ symbol =>
      ⟨(BitVec.allOnes 64).toNat, fun position =>
        (RepeatedImageStream.patternByte symbol position).getD 0⟩
  | .image resource =>
      if container.getImageStream resource = some (.image resource) then .ofBytes (stored resource)
      else ⟨(BitVec.allOnes 64).toNat, fun _ => 0⟩

/-- The segments and the description of a content that is stored as an image stream. -/
def StoresStream (resource content : Bytes) : Prop :=
  ∃ coding codec, HoldsBevvies container.zip resource coding content ∧
    Describes machine.libraries container.model resource coding content codec ∧
    machine.chunkCacheSize / coding.chunkSize.setWidth 64 ≠ 0

variable {container machine} {stored : Bytes → Bytes}

private theorem readsExtent_eq {left right : Extent UInt8}
    (same : ∀ offset count, left.read offset count = right.read offset count) :
    ReadsExtent left = ReadsExtent right := by
  funext request result
  unfold ReadsExtent
  rw [same]

theorem shown_addressed
    (stores : ∀ resource, container.getImageStream resource = some (.image resource) →
      container.StoresStream machine resource (stored resource)) (stream : ContainerStream) :
    (container.shown stored stream).size < 2 ^ 64 := by
  cases stream with
  | symbolic resource symbol => exact (BitVec.allOnes 64).isLt
  | repeated resource symbol => exact (BitVec.allOnes 64).isLt
  | image resource =>
      unfold shown
      dsimp only
      split
      · rename_i opened
        obtain ⟨_, _, _, describes, _⟩ := stores resource opened
        change (stored resource).length < 2 ^ 64
        exact describes.length ▸ (DeviceStream.lengthOf container.model resource).isLt
      · exact (BitVec.allOnes 64).isLt

/-- The object of a stream that is never asked for. -/
theorem idle_serves : ∃ good : ImageState → Prop,
    good (StreamObject.symbolic ⟨[], 0⟩).fresh ∧ ∀ scratch, Transparent
      (fun (request : U64 × U64) =>
        (StreamObject.symbolic ⟨[], 0⟩).read scratch request.1 request.2) good
      (ReadsExtent ⟨(BitVec.allOnes 64).toNat, fun _ => 0⟩) :=
  ⟨_, trivial, (StreamObject.Holds.symbolic ⟨[], 0⟩).transparent⟩

/-- Each object serves what its stream shows. -/
theorem objects_serve
    (stores : ∀ resource, container.getImageStream resource = some (.image resource) →
      container.StoresStream machine resource (stored resource)) (stream : ContainerStream) :
    ∃ good : ImageState → Prop, good (container.objects machine stream).fresh ∧
      ∀ scratch, Transparent
        (fun (request : U64 × U64) =>
          (container.objects machine stream).read scratch request.1 request.2) good
        (ReadsExtent (container.shown stored stream)) := by
  unfold objects objectOf shown
  cases stream with
  | symbolic resource symbol =>
      exact ⟨_, trivial, (StreamObject.Holds.symbolic ⟨resource, symbol⟩).transparent⟩
  | repeated resource symbol =>
      dsimp only
      by_cases empty : symbol = []
      · subst empty
        rw [RepeatedImageStream.create, RepeatedImageStream.create_empty]
        exact idle_serves
      · obtain ⟨stream, created, _⟩ := RepeatedImageStream.create_filled empty machine.buffer
        rw [created]
        exact ⟨_, trivial, (StreamObject.Holds.repeated empty created).transparent⟩
  | image resource =>
      dsimp only
      split
      · rename_i opened
        obtain ⟨coding, codec, holds, describes, room⟩ := stores resource opened
        have short : (stored resource).length < 2 ^ 64 :=
          describes.length ▸ (DeviceStream.lengthOf container.model resource).isLt
        have object := StreamObject.Holds.image machine.heap (holds.intact short room)
        rw [describes.created]
        refine ⟨_, object.fresh, fun scratch => ?_⟩
        rw [← readsExtent_eq]
        · exact object.transparent scratch
        · intro offset count
          rw [Extent.read_ofBytes, Extent.read_eq_slice, holds.extent_whole short]
      · exact idle_serves

end AFF4ZipContainer

/-! ## Maps in a container -/

/-- The container has a segment with the content, and gives the whole of it in one read. -/
def ZipContainer.Keeps (container : ZipContainer) (segmentName content : Bytes) : Prop :=
  ∃ fits, ∀ decompbuffer,
    container.segment decompbuffer segmentName = some (.full content fits)

/-- The lines of `idx`, each with its end. -/
def idxOf (lines : List Bytes) : Bytes := lines.flatMap (· ++ [10])

private theorem splitOn_line {line : Bytes} (clean : 10 ∉ line) (rest : Bytes) :
    (line ++ 10 :: rest).splitOn 10 = line :: rest.splitOn 10 := by
  induction line with
  | nil =>
      rw [List.nil_append, List.splitOn_cons_eq_if_modifyHead, if_pos (by simp)]
  | cons byte line ih =>
      obtain ⟨other, later⟩ := List.ne_and_not_mem_of_not_mem_cons clean
      rw [List.cons_append, List.splitOn_cons_eq_if_modifyHead,
        if_neg (by simpa using Ne.symm other),
        ih later, List.modifyHead_cons]

theorem nonEmptyLines_idxOf {lines : List Bytes} (clean : ∀ line ∈ lines, line ≠ [] ∧ 10 ∉ line) :
    nonEmptyLines (idxOf lines) = lines := by
  induction lines with
  | nil => rfl
  | cons line lines ih =>
      obtain ⟨nonempty, oneLine⟩ := clean line List.mem_cons_self
      have rest := ih fun other member => clean other (List.mem_cons_of_mem _ member)
      unfold nonEmptyLines at rest ⊢
      have split : (idxOf (line :: lines)).splitOn 10 = line :: (idxOf lines).splitOn 10 := by
        rw [idxOf, List.flatMap_cons, List.append_assoc, List.singleton_append,
          splitOn_line oneLine]
        rfl
      rw [split, List.filter_cons_of_pos (by simpa using nonempty), rest]

structure KeepsMap (container : ZipContainer) (resource : Bytes) (lines : List Bytes)
    (records : List MapEntryPoint) : Prop where
  clean : ∀ line ∈ lines, line ≠ [] ∧ 10 ∉ line
  nonempty : records ≠ []
  idx : container.Keeps (resource ++ text "/idx") (idxOf lines)
  map : container.Keeps (resource ++ text "/map") (records.flatMap MapEntryPoint.toBytes)

/-- A map opens where its segments are there and the lines of `idx` have their streams. -/
theorem opened_of_segments {Stream : Type} {parent : Parent Stream} {resource : Bytes}
    {length : U64} {lines : List Bytes} {records : List MapEntryPoint} {streams : List Stream}
    {gap : Stream} {content : Stream → Extent UInt8}
    (clean : ∀ line ∈ lines, line ≠ [] ∧ 10 ∉ line) (filled : records ≠ [])
    {idxFits : (idxOf lines).length < 2 ^ 32}
    (idx : parent.getSegment (resource ++ text "/idx") = some (.full (idxOf lines) idxFits))
    {fits : sizeofMapEntryPoint * records.length < 2 ^ 32}
    (present : parent.getSegment (resource ++ text "/map") = some (.ofRecords records fits))
    (resolved : initStreamVector parent resource none = .ok (streams.map some))
    (disjoint : DisjointRecords records lines.length)
    (reaches : ∀ record ∈ records, ∀ stream, streams[record.streamID.toNat]? = some stream →
      record.streamOffset.toNat + record.length.toNat ≤ (content stream).size)
    (sized : length ≠ 0) (gapReaches : length.toNat ≤ (content gap).size) (order : PointSort)
    (heap : Nat → UInt8) :
    ∃ opened : OpenedMap Stream content,
      MapStream.create parent resource length none (some gap) order heap = .ok opened.self ∧
        opened.self.size = length ∧
        opened.image = recordMosaic length.toNat records (streams.map some) gap content := by
  have linesOf := nonEmptyLines_idxOf clean
  have countable : (Segment.ofRecords records fits).recordCount < 2 ^ 32 := by
    rw [Segment.recordCount_ofRecords]
    unfold sizeofMapEntryPoint at fits
    omega
  obtain ⟨build, built⟩ : ∃ build, build = buildMap parent.createUnknownStream
      (streams.map some) (some gap)
      (order.sort ((Segment.ofRecords records fits).records heap)) := ⟨_, rfl⟩
  have size : build.size length = length := by
    rw [MapBuild.size, if_neg sized]
  have created := create_of_records resolved present (Segment.size_ofRecords_ne filled fits)
    (Segment.not_overruns_ofRecords records fits) countable built (size ▸ sized)
  rw [size] at created
  have recordsOf := Segment.records_ofRecords records fits heap
  refine ⟨{
    parent := parent
    resource := resource
    size := length
    unknownOverride := none
    gap := gap
    order := order
    heap := heap
    idx := .full (idxOf lines) idxFits
    segment := .ofRecords records fits
    streams := streams.map some
    self := _
    idxPresent := idx
    resolved := resolved
    mapPresent := present
    created := created
    isOpen := rfl
    disjoint := ?_
    reaches := ?_
    gapReaches := gapReaches }, created, rfl, ?_⟩
  · rw [recordsOf]
    change DisjointRecords records (nonEmptyLines (idxOf lines)).length
    rw [linesOf]
    exact disjoint
  · rw [recordsOf]
    intro record member lower found
    rw [List.getElem?_map, Option.map_eq_some_iff] at found
    obtain ⟨stream, listed, same⟩ := found
    cases same
    exact reaches record member _ listed
  · exact congrArg
      (fun listed => recordMosaic length.toNat listed (streams.map some) gap content) recordsOf

section Maps

variable {container : AFF4ZipContainer} {resource : Bytes} {lines : List Bytes}
  {records : List MapEntryPoint} {streams : List ContainerStream}

theorem resolveLines (resolver : Option (Resolver ContainerStream)) (decompbuffer : Nat → UInt8)
    (known : List.Forall₂ (fun line stream => container.getImageStream line = some stream)
      lines streams) :
    lines.mapM (resolveLine (container.parent resolver decompbuffer) none) =
      .ok (streams.map some) := by
  induction known with
  | nil => rfl
  | @cons line stream lines streams found _ ih =>
      have resolved : resolveLine (container.parent resolver decompbuffer) none line =
          .ok (some stream) := by
        unfold resolveLine AFF4ZipContainer.parent
        simp [found]
      rw [List.mapM_cons, resolved, ih]
      rfl

/-- The map that the container keeps, opened over what its streams show. -/
theorem KeepsMap.opened {map : AFF4Map} (keeps : KeepsMap container.zip map.resource lines records)
    (known : List.Forall₂ (fun line stream => container.getImageStream line = some stream)
      lines streams)
    (disjoint : DisjointRecords records lines.length) {content : ContainerStream → Extent UInt8}
    (reaches : ∀ record ∈ records, ∀ stream, streams[record.streamID.toNat]? = some stream →
      record.streamOffset.toNat + record.length.toNat ≤ (content stream).size)
    (plain : map.unknownOverride = none) {gap : ContainerStream}
    (isGap : map.mapGapStreamOverride = some gap) (sized : map.length ≠ 0)
    (gapReaches : map.length.toNat ≤ (content gap).size)
    (resolver : Option (Resolver ContainerStream)) (decompbuffer : Nat → UInt8)
    (order : PointSort) (heap : Nat → UInt8) :
    ∃ opened : OpenedMap ContainerStream content,
      map.getStream (container.parent resolver decompbuffer) order heap = .ok opened.self ∧
        opened.self.size = map.length ∧
        opened.image =
          recordMosaic map.length.toNat records (streams.map some) gap content := by
  obtain ⟨idxFits, idx⟩ := keeps.idx
  obtain ⟨mapFits, stored⟩ := keeps.map
  have fits : sizeofMapEntryPoint * records.length < 2 ^ 32 := by
    rwa [length_flatMap_of_width MapEntryPoint.length_toBytes] at mapFits
  have resolved : initStreamVector (container.parent resolver decompbuffer) map.resource none =
      .ok (streams.map some) := by
    unfold initStreamVector
    rw [show (container.parent resolver decompbuffer).getSegment _ = _ from idx decompbuffer]
    change (nonEmptyLines (idxOf lines)).mapM _ = _
    rw [nonEmptyLines_idxOf keeps.clean]
    exact resolveLines resolver decompbuffer known
  have present : (container.parent resolver decompbuffer).getSegment
      (map.resource ++ text "/map") = some (.ofRecords records fits) := stored decompbuffer
  rw [AFF4Map.getStream, plain, isGap]
  exact opened_of_segments keeps.clean keeps.nonempty (idx decompbuffer) present resolved disjoint
    reaches sized gapReaches order heap

end Maps

/-! ## Images -/

section Images

variable {zip : ZipContainer} {stof : Bytes → Bool} {statements : List RaptorStatement}

/-- No `aff4:CaseDetails` has a say in a property that is not a case term. -/
theorem imageOf_property {property : Lexicon} (known : property ≠ .unknown)
    (unwanted : property ∉ AFF4Image.caseTerms) (resource : Bytes) :
    getProperty (imageOf (modelOf stof statements) resource).properties property =
      collected (typedLiteral stof) statements resource property := by
  have keep : ∀ res ∈ (modelOf stof statements).getResourcesOfType .aff4CaseDetails,
      ¬AFF4Image.Overrides (modelOf stof statements) resource property res :=
    fun res _ overrides => unwanted overrides.1
  unfold imageOf
  dsimp only
  rw [getProperty, AFF4Image.foldl_keeps keep, AFF4Image.find?_addProperties_empty]
  exact Model.parse_values _ statements resource known

/-- The map of an image is the one that its first `aff4:dataStream` names. -/
theorem Warm.mapOfImage {container : ContainerObject} (warm : Warm zip stof statements container)
    {resource mapName : Bytes} (isImage : Declared statements resource .aff4ImageType)
    {value : RDFValue}
    (given : (collected (typedLiteral stof) statements resource .aff4Datastream).head? = some value)
    (named : value.valueLiteral = mapName) (nonempty : mapName ≠ []) :
    ∃ image after, container.getImage resource = .ok (some image, after) ∧
      Warm zip stof statements after ∧
      after.mapOfImage image =
        .ok (some (AFF4Map.create ⟨zip, modelOf stof statements⟩ mapName)) := by
  obtain ⟨answer, after, found, kept, isAnswer⟩ := warm.getImage resource
  have own := (isAnswer _).mpr (isImage_iff.mpr ⟨isImage, rfl⟩)
  obtain ⟨values, listed⟩ := List.head?_eq_some_iff.mp given
  have dataStream := (imageOf_property (show Lexicon.aff4Datastream ≠ .unknown by decide)
    (by decide) resource).trans listed
  refine ⟨_, after, own ▸ found, kept, ?_⟩
  unfold ContainerObject.mapOfImage
  rw [dataStream]
  dsimp only
  rw [named, if_pos nonempty, ContainerObject.createMap, kept.model, kept.zip]
  rfl

end Images

/-! ## Written evidence -/

namespace WrittenVolume

variable {source : ContainerFile} {segments : List (PackedSegment source.inflate)}
  {comment : Bytes} {turtle : PackedSegment source.inflate}

/-- The container of a written volume, with the model of its statements. -/
def container (volume : WrittenVolume source segments comment turtle) : AFF4ZipContainer :=
  ⟨volume.zip, modelOf source.stof (writtenStatements source turtle)⟩

/-- Among the segments is one with the content, under the name by which the container looks it
up. -/
def Packs (volume : WrittenVolume source segments comment turtle) (segmentName content : Bytes) :
    Prop :=
  ∃ segment ∈ segments, segment.name = volume.zip.sanitizeResource segmentName ∧
    segment.content.length ≤ segment.transfer ∧ segment.content = content

theorem Packs.keeps {volume : WrittenVolume source segments comment turtle}
    {segmentName content : Bytes} (packs : volume.Packs segmentName content) :
    volume.zip.Keeps segmentName content := by
  obtain ⟨segment, member, name, short, rfl⟩ := packs
  obtain ⟨index, isAt⟩ := List.mem_iff_getElem?.mp member
  have listed := getStream_listed volume.writable.distinct isAt
  rw [name] at listed
  have fits := segment.contentShort
  refine ⟨fits, ?_⟩
  intro decompbuffer
  have whole := readSegment_whole volume.writable isAt short decompbuffer
  obtain ⟨_, _, length, _⟩ := toNat_entry volume.writable isAt
  have size : (segment.entry (startOf segments index)).length =
      BitVec.ofNat 64 segment.content.length := by
    bv_omega
  unfold ZipContainer.segment ZipContainer.getSegment
  change (getStream (listedEntries segments) _).map _ = _
  rw [listed, Option.map_some]
  have bytes : (readSegment volume.zip.inflate volume.zip.file
      (segment.entry (startOf segments index)) decompbuffer
      (segment.entry (startOf segments index)).length 0).bytes = segment.content :=
    congrArg ReadResult.bytes whole
  rw [size] at bytes
  unfold Segment.full
  simp only [size, bytes]

/-- The volume has the bevvies and the description of the content of an image stream. -/
def PacksStream (volume : WrittenVolume source segments comment turtle) (machine : Machine)
    (resource content : Bytes) : Prop :=
  ∃ coding codec,
    PacksBevvies volume.writable (givenResource segments comment) resource coding content ∧
    Describes machine.libraries volume.container.model resource coding content codec ∧
    machine.chunkCacheSize / coding.chunkSize.setWidth 64 ≠ 0

/-- The volume has an image with a map: the statements, the segments of the map, and streams that
the records stay inside of. -/
structure PacksImage (volume : WrittenVolume source segments comment turtle)
    (stored : Bytes → Bytes) (image : Bytes) (map : AFF4Map) (lines : List Bytes)
    (streams : List ContainerStream) (records : List MapEntryPoint) (gap : ContainerStream) :
    Prop where
  isImage : Declared (writtenStatements source turtle) image .aff4ImageType
  dataStream : ∃ value, (collected (typedLiteral source.stof) (writtenStatements source turtle)
    image .aff4Datastream).head? = some value ∧ value.valueLiteral = map.resource
  named : map.resource ≠ []
  created : map = AFF4Map.create volume.container map.resource
  sized : map.length ≠ 0
  clean : ∀ line ∈ lines, line ≠ [] ∧ 10 ∉ line
  idxSegment : volume.Packs (map.resource ++ text "/idx") (idxOf lines)
  mapSegment : volume.Packs (map.resource ++ text "/map") (records.flatMap MapEntryPoint.toBytes)
  known : List.Forall₂
    (HasStream volume.zip source.stof (writtenStatements source turtle)) lines streams
  nonempty : records ≠ []
  disjoint : DisjointRecords records lines.length
  reaches : ∀ record ∈ records, ∀ stream, streams[record.streamID.toNat]? = some stream →
    record.streamOffset.toNat + record.length.toNat ≤ (volume.container.shown stored stream).size
  isGap : map.mapGapStreamOverride = some gap
  gapReaches : map.length.toNat ≤ (volume.container.shown stored gap).size

/-- What was written as an image is read from it. The volume opens; whatever was asked of the
container before, the image leads to its map and the map to a stream; and every run of reads of
the stream is answered by the mosaic of the stored contents. -/
theorem image_readBack (volume : WrittenVolume source segments comment turtle)
    (machine : Machine) {stored : Bytes → Bytes}
    (stores : ∀ resource, HasStream volume.zip source.stof (writtenStatements source turtle)
      resource (.image resource) → volume.PacksStream machine resource (stored resource))
    {image : Bytes} {map : AFF4Map} {lines : List Bytes} {streams : List ContainerStream}
    {records : List MapEntryPoint} {gap : ContainerStream}
    (packs : volume.PacksImage stored image map lines streams records gap) :
    ∃ fuel container, source.openContainer fuel = some (.returned (some container)) ∧
      ∀ calls, ∃ given later object after, container.run calls = .ok (given, later) ∧
        later.getImage image = .ok (some object, after) ∧
        after.mapOfImage object = .ok (some map) ∧
        ∀ resolver decompbuffer order heap, ∃ self,
          map.getStream (volume.container.parent resolver decompbuffer) order heap = .ok self ∧
          self.size = map.length ∧
          ∀ (scratch : ContainerStream → Nat → UInt8) (memory : Nat → UInt8)
            (requests : List (U64 × U64)),
            List.Forall₂
              (ReadsExtent (recordMosaic map.length.toNat records (streams.map some) gap
                (volume.container.shown stored)))
              requests
              (replies (fun request =>
                self.deliver (StreamObject.reader (volume.container.objects machine) scratch)
                  memory request.1 request.2) requests
                fun stream => (volume.container.objects machine stream).fresh).1 := by
  obtain ⟨fuel, container, opened, warm⟩ := volume.opens
  have keeps : ∀ resource, volume.container.getImageStream resource = some (.image resource) →
      volume.container.StoresStream machine resource (stored resource) := by
    intro resource found
    obtain ⟨coding, codec, bevvies, describes, room⟩ :=
      stores resource (getImageStream_iff.mp found)
    exact ⟨coding, codec, bevvies.holds, describes, room⟩
  have serve := AFF4ZipContainer.objects_serve keeps
  choose good fresh transparent using serve
  have addressed := AFF4ZipContainer.shown_addressed keeps
  have keepsMap : KeepsMap volume.zip map.resource lines records :=
    ⟨packs.clean, packs.nonempty, packs.idxSegment.keeps, packs.mapSegment.keeps⟩
  have known : List.Forall₂
      (fun line stream => volume.container.getImageStream line = some stream) lines streams :=
    packs.known.imp fun _ _ has => getImageStream_iff.mpr has
  have plain : map.unknownOverride = none := by
    rw [packs.created]
    rfl
  refine ⟨fuel, container, opened, fun calls => ?_⟩
  obtain ⟨given, later, ran, stillWarm, _⟩ := warm.run calls
  obtain ⟨value, isGiven, names⟩ := packs.dataStream
  obtain ⟨object, after, found, _, mapped⟩ :=
    stillWarm.mapOfImage packs.isImage isGiven names packs.named
  refine ⟨given, later, object, after, ran, found, ?_, ?_⟩
  · rw [mapped]
    exact congrArg (fun created => Except.ok (some created)) packs.created.symm
  · intro resolver decompbuffer order heap
    obtain ⟨openedMap, isStream, size, isMosaic⟩ :=
      keepsMap.opened known packs.disjoint packs.reaches plain packs.isGap packs.sized
        packs.gapReaches resolver decompbuffer order heap
    refine ⟨openedMap.self, isStream, size, fun scratch memory requests => ?_⟩
    have serves : (StreamObject.reader (volume.container.objects machine) scratch).ServesExtents
        (fun world => ∀ stream, good stream (world stream)) (volume.container.shown stored) :=
      .family fun stream => transparent stream (scratch stream)
    have read := (openedMap.pictures addressed).transparent serves addressed memory
    rw [isMosaic] at read
    exact (read.replied requests fresh).1

end WrittenVolume

/-! ## The small volume -/

theorem smallVolume_container : smallVolume.container =
    ⟨smallVolume.zip, modelOf (fun _ => false) smallStatements⟩ := by
  unfold WrittenVolume.container
  exact congrArg (fun statements => AFF4ZipContainer.mk smallVolume.zip
    (modelOf (fun _ => false) statements)) smallVolume_statements

def smallMachine : Machine where
  libraries := CompressionCodec.literalLibraries
  chunkCacheSize := chunkCacheSizeAfter []
  heap := fun _ _ => 0
  buffer := fun _ => 0

private theorem smallVolume_describes :
    Describes CompressionCodec.literalLibraries (modelOf (fun _ => false) smallStatements)
      (text "aff4://s") lettersCoding letters .lz4Compression where
  length := by decide +kernel
  chunkSize := by decide +kernel
  chunksInSegment := by decide +kernel
  known := by decide +kernel
  codec := rfl

private theorem smallVolume_packs : PacksBevvies smallVolume.writable
    (givenResource smallSegments [0x63])
    (text "aff4://s") lettersCoding letters := by
  refine ⟨?_, ?_, ?_⟩
  · intro number below
    rcases lettersCoding_bevvy below with bevvy | bevvy
    · rw [bevvy]
      decide
    · rw [bevvy]
      decide
  · intro number below
    rcases lettersCoding_bevvy below with bevvy | bevvy
    · rw [bevvy]
      exact ⟨_, List.mem_iff_getElem?.mpr ⟨4, rfl⟩, by decide +kernel, rfl, by decide +kernel⟩
    · rw [bevvy]
      exact ⟨_, List.mem_iff_getElem?.mpr ⟨6, rfl⟩, by decide +kernel, rfl, by decide +kernel⟩
  · intro number below
    rcases lettersCoding_bevvy below with bevvy | bevvy
    · rw [bevvy]
      exact ⟨_, List.mem_iff_getElem?.mpr ⟨5, rfl⟩, by decide +kernel, by decide,
        by decide +kernel⟩
    · rw [bevvy]
      exact ⟨_, List.mem_iff_getElem?.mpr ⟨7, rfl⟩, by decide +kernel, by decide,
        by decide +kernel⟩

theorem smallVolume_stream : smallVolume.container.getImageStream (text "aff4://s") =
    some (.image (text "aff4://s")) := by
  rw [smallVolume_container]
  decide +kernel

theorem smallVolume_stores (resource : Bytes)
    (has : HasStream smallVolume.zip smallContainer.stof
      (writtenStatements smallContainer smallTurtleSegment) resource (.image resource)) :
    smallVolume.PacksStream smallMachine resource letters := by
  have listed : (modelOf (fun _ => false) smallStatements).getResourcesOfType
      .aff4ImagestreamType = [text "aff4://s"] := by
    decide +kernel
  have declared := has.declared
  rw [smallVolume_statements] at declared
  have member := (@declared_iff (fun _ => false) _ _ (by decide) resource).mpr declared
  rw [listed, List.mem_singleton] at member
  rw [member]
  refine ⟨lettersCoding, .lz4Compression, smallVolume_packs, ?_, by decide⟩
  rw [smallVolume_container]
  exact smallVolume_describes

private theorem smallVolume_image :
    smallVolume.PacksImage (fun _ => letters) (text "aff4://i")
      (AFF4Map.create smallVolume.container (text "aff4://map")) [text "aff4://s"]
      [.image (text "aff4://s")] [smallRecord] createZeroStream where
  isImage := by
    rw [smallVolume_statements]
    exact ⟨_, List.mem_cons_self, imageName, rdfType, ⟨baseUri ++ text "Image", by decide⟩,
      rfl, rfl, rfl, by decide +kernel⟩
  dataStream := by
    rw [smallVolume_statements]
    exact ⟨.typed .resource .aff4Datastream (text "aff4://map"), by decide +kernel, rfl⟩
  named := by decide
  created := rfl
  sized := by
    rw [smallVolume_container]
    decide +kernel
  clean := by decide
  idxSegment := ⟨_, List.mem_iff_getElem?.mpr ⟨2, rfl⟩, by decide +kernel, by decide, by decide⟩
  mapSegment := ⟨_, List.mem_iff_getElem?.mpr ⟨3, rfl⟩, by decide +kernel, by decide, by decide⟩
  known := .cons (getImageStream_iff.mp smallVolume_stream) .nil
  nonempty := List.cons_ne_nil _ _
  disjoint := ⟨by decide, by decide, by decide, by decide⟩
  reaches := by
    intro record member stream found
    cases List.mem_singleton.mp member
    cases found
    unfold AFF4ZipContainer.shown
    dsimp only
    rw [if_pos smallVolume_stream]
    decide
  isGap := by
    rw [smallVolume_container]
    decide +kernel
  gapReaches := Nat.le_of_lt_succ (BitVec.isLt _)

theorem image_readBack_small : ∃ fuel container,
    smallContainer.openContainer fuel = some (.returned (some container)) ∧
      ∀ calls, ∃ given later object after, container.run calls = .ok (given, later) ∧
        later.getImage (text "aff4://i") = .ok (some object, after) ∧
        after.mapOfImage object =
          .ok (some (AFF4Map.create smallVolume.container (text "aff4://map"))) ∧
        ∀ resolver decompbuffer order heap, ∃ self,
          (AFF4Map.create smallVolume.container (text "aff4://map")).getStream
            (smallVolume.container.parent resolver decompbuffer) order heap = .ok self ∧
          self.size = (AFF4Map.create smallVolume.container (text "aff4://map")).length ∧
          ∀ (scratch : ContainerStream → Nat → UInt8) (memory : Nat → UInt8)
            (requests : List (U64 × U64)),
            List.Forall₂
              (ReadsExtent (recordMosaic
                (AFF4Map.create smallVolume.container (text "aff4://map")).length.toNat
                [smallRecord] [some (.image (text "aff4://s"))] createZeroStream
                (smallVolume.container.shown fun _ => letters)))
              requests
              (replies (fun request =>
                self.deliver (StreamObject.reader (smallVolume.container.objects smallMachine)
                  scratch) memory request.1 request.2) requests
                fun stream => (smallVolume.container.objects smallMachine stream).fresh).1 :=
  smallVolume.image_readBack smallMachine smallVolume_stores smallVolume_image

end Aff4Lite.Containers
