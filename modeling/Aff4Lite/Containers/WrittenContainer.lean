import Aff4Lite.Containers.ConstructedStreams
import Aff4Lite.Containers.ResourceIDProperties

/-!
# Opening a written archive

An archive that was written with `container.description` and `information.turtle` opens as a
container: `getResourceID` finds the resource ID that was put in on both of its paths, and
the model is that of the statements.
-/

set_option autoImplicit false

namespace Aff4Lite.Containers

open Lib Rdf Zip Codec Aff4Lite.Stream
open Aff4Lite.Resolver (isAFF4Container)

section Written

variable {inflate : Bytes → Nat → Option Bytes} {segments : List (PackedSegment inflate)}
  {comment : Bytes}

/-- The resource ID that an archive was given: `container.description`, or the comment without
one. -/
def givenResource (segments : List (PackedSegment inflate)) (comment : Bytes) : Bytes :=
  match segments.find? fun segment => segment.name = fileDescriptor with
  | some segment =>
      if segment.content = [] then comment.takeWhile fun byte => byte ≠ 0 else segment.content
  | none => comment.takeWhile fun byte => byte ≠ 0

/-- The first 4096 bytes are there, and hold the whole of a stored `container.description` that
comes first. -/
structure FastReadable (segments : List (PackedSegment inflate)) (comment : Bytes) : Prop where
  long : resourceBufferSize ≤ (writeArchive segments comment).length
  first : ∀ segment, segments.head? = some segment → segment.name = fileDescriptor →
    segment.method = stored → 51 + segment.content.length ≤ resourceBufferSize

private theorem head_at {first : PackedSegment inflate} (isFirst : segments.head? = some first) :
    ∃ rest, writeArchive segments comment =
      first.fileHeader.toBytes ++ (first.name ++ (first.packed ++ rest)) := by
  obtain ⟨others, rfl⟩ := List.head?_eq_some_iff.mp isFirst
  rw [writeArchive, localRecords, List.map_cons, List.flatten_cons, PackedSegment.localRecord]
  simp only [List.append_assoc]
  exact ⟨_, rfl⟩

private theorem stored_packed (segment : PackedSegment inflate) (method : segment.method = stored) :
    segment.packed = segment.content := by
  rcases segment.packs with ⟨_, same⟩ | ⟨isDeflate, _⟩
  · exact same
  · exact absurd (method.symm.trans isDeflate) (by decide)

private theorem fastSegment_size {buffer : Bytes} {position : Nat} {size : U64}
    (taken : fastSegment buffer = some (position, size)) :
    size = segmentEntrySize (firstHeader buffer) buffer := by
  unfold fastSegment at taken
  dsimp only at taken
  split at taken
  · cases taken
  split at taken
  · cases taken
  split at taken
  · cases taken
  split at taken
  · cases taken
  · cases taken
    rfl

/-- The fast path takes a `container.description` that is stored, comes first and is not empty, or
leaves the archive to the slow path. -/
theorem fastSegment_written (writable : Writable segments comment) {first : PackedSegment inflate}
    (isFirst : segments.head? = some first) :
    fastSegment (firstBytes writable.file) = none ∨
      first.name = fileDescriptor ∧ first.method = stored ∧ first.content ≠ [] ∧
        fastSegment (firstBytes writable.file) =
          some (51, BitVec.ofNat 64 first.content.length) := by
  cases taken : fastSegment (firstBytes writable.file) with
  | none => exact .inl rfl
  | some segment =>
      obtain ⟨position, size⟩ := segment
      obtain ⟨method, nameLength, name, place, nonempty, _⟩ := fastSegment_some taken
      obtain ⟨rest, layout⟩ := @head_at _ _ comment _ isFirst
      have header : firstHeader (firstBytes writable.file) = first.fileHeader := by
        rw [firstHeader_firstBytes]
        change ZipFileHeader.ofBytes (writeArchive segments comment) = _
        rw [layout, ZipFileHeader.ofBytes_append]
      rw [header] at method nameLength place
      have nameIs : first.name.length = 21 := by
        rw [← first.toNat_nameLength]
        exact congrArg BitVec.toNat nameLength
      have named : first.name = fileDescriptor := by
        have inside : ZipFileHeader.sizeof + 21 ≤ resourceBufferSize := by decide
        rw [firstBytes, slice_slice _ _ _ _ _ inside, Nat.zero_add] at name
        change slice (writeArchive segments comment) _ _ = _ at name
        rw [layout] at name
        have middle := slice_middle first.fileHeader.toBytes first.name (first.packed ++ rest)
        rw [ZipFileHeader.length_toBytes, nameIs, name] at middle
        exact middle.symm
      have small := startOf_small writable
        (show segments[0]? = some first from List.head?_eq_getElem? ▸ isFirst)
      have packed := stored_packed first method
      rw [PackedSegment.localRecord, List.length_append, List.length_append, packed] at small
      have isSize : size = BitVec.ofNat 64 first.content.length := by
        have unsaturated : first.fileHeader.file_size ≠ 0xffffffff := by
          change BitVec.ofNat 32 first.content.length ≠ 0xffffffff
          bv_omega
        rw [fastSegment_size taken, header, segmentEntrySize, if_neg unsaturated]
        change (BitVec.ofNat 32 first.content.length).setWidth 64 = _
        bv_omega
      have isPosition : position = 51 := by
        rw [place, nameLength]
        rfl
      refine .inr ⟨named, method, ?_, by rw [isSize, isPosition]⟩
      intro empty
      rw [isSize, empty] at nonempty
      exact nonempty rfl

private theorem listedEntries_ne (writable : Writable segments comment) :
    listedEntries segments ≠ [] := by
  intro absent
  have names := names_listed segments
  rw [absent] at names
  exact writable.nonempty (List.map_eq_nil_iff.mp names.symm)

private theorem slowResource_written (writable : Writable segments comment)
    (whole : ∀ segment ∈ segments, segment.name = fileDescriptor →
      segment.content.length ≤ segment.transfer) (decompbuffer : Nat → UInt8) :
    slowResource inflate writable.file decompbuffer {
        entries := listedEntries segments
        comment := comment.takeWhile fun byte => byte ≠ 0
        errno := .zero } = givenResource segments comment := by
  unfold slowResource givenResource
  rw [if_neg (listedEntries_ne writable)]
  dsimp only
  cases found : segments.find? fun segment => segment.name = fileDescriptor with
  | none =>
      have unlisted : fileDescriptor ∉ segments.map PackedSegment.name := by
        intro listed
        obtain ⟨segment, member, name⟩ := List.mem_map.mp listed
        exact List.find?_eq_none.mp found segment member (decide_eq_true name)
      rw [getStream_unlisted unlisted]
  | some segment =>
      have member := List.mem_of_find?_eq_some found
      have name : segment.name = fileDescriptor := by simpa using List.find?_some found
      obtain ⟨index, isAt⟩ := List.mem_iff_getElem?.mp member
      have opened := getStream_listed writable.distinct isAt
      rw [name] at opened
      rw [opened]
      dsimp only
      rw [readSegment_whole writable isAt (whole segment member name)]
      by_cases empty : segment.content = []
      · rw [if_pos empty, if_neg (by rw [empty]; decide)]
      · have positive := List.length_pos_iff.mpr empty
        rw [if_neg empty, if_pos (by rw [ReadResult.res_delivered]; omega),
          ReadResult.bytes_delivered]

/-- Both paths of `getResourceID` come back with the given resource ID. -/
theorem getResourceID_written (writable : Writable segments comment)
    (readable : FastReadable segments comment)
    (whole : ∀ segment ∈ segments, segment.name = fileDescriptor →
      segment.content.length ≤ segment.transfer)
    (decompbuffer memory : Nat → UInt8) (heap : Nat → Nat → UInt8) {fuel : Nat}
    (ran : parseCD writable.file heap fuel = some (.returned {
      entries := listedEntries segments
      comment := comment.takeWhile fun byte => byte ≠ 0
      errno := .zero })) :
    getResourceID inflate writable.file decompbuffer memory heap fuel =
      some (.returned (givenResource segments comment)) := by
  obtain ⟨first, others, isFirst⟩ := List.exists_cons_of_ne_nil writable.nonempty
  have head : segments.head? = some first := by rw [isFirst, List.head?_cons]
  obtain ⟨rest, layout⟩ := @head_at _ _ comment _ head
  have starts : StartsWithHeader writable.file := by
    refine ⟨readable.long, ?_⟩
    have magic := congrArg ZipFileHeader.magic (ZipFileHeader.ofBytes_append first.fileHeader
      (first.name ++ (first.packed ++ rest)))
    rw [← layout] at magic
    exact magic
  unfold getResourceID
  rw [fastPath_segment memory starts]
  rcases fastSegment_written writable head with slow | ⟨name, method, nonempty, fast⟩
  · rw [slow]
    change slowPath _ _ _ _ _ = _
    rw [slowPath, ran, Option.map_some]
    dsimp only
    rw [slowResource_written writable whole]
  · have description : segments.find? (fun segment => segment.name = fileDescriptor) =
        some first := by
      rw [isFirst]
      exact List.find?_cons_of_pos (decide_eq_true name)
    have fits := readable.first first head name method
    have packed := stored_packed first method
    have inside : 51 + first.content.length ≤ (firstBytes writable.file).length := by
      have long := readable.long
      change _ ≤ (slice (writeArchive segments comment) 0 resourceBufferSize).length
      rw [length_slice]
      omega
    rw [fast]
    change some (ResourceEnd.returned (firstCells _ _)) = _
    rw [givenResource, description]
    dsimp only
    have count : (BitVec.ofNat 64 first.content.length).toNat = first.content.length := by
      unfold resourceBufferSize at fits
      bv_omega
    have middle := slice_middle (first.fileHeader.toBytes ++ first.name) first.packed rest
    rw [List.append_assoc, ← layout, List.length_append, ZipFileHeader.length_toBytes, name,
      packed] at middle
    rw [if_neg nonempty, count, firstCells, map_store memory inside, firstBytes,
      slice_slice _ _ _ _ _ fits, Nat.zero_add]
    exact congrArg (fun resource => some (ResourceEnd.returned resource)) middle

end Written

/-! ## Volumes -/

/-- The statements of a volume, as raptor finds them in its `information.turtle`. -/
def writtenStatements (source : ContainerFile) (turtle : PackedSegment source.inflate) :
    List RaptorStatement :=
  if turtle.content = [] then [] else source.raptor turtle.content

theorem writtenStatements_of {source : ContainerFile} {turtle : PackedSegment source.inflate}
    {statements : List RaptorStatement} (nonempty : turtle.content ≠ [])
    (given : source.raptor turtle.content = statements) :
    writtenStatements source turtle = statements :=
  (if_neg nonempty).trans given

/-- A file `.aff4` with an archive that was written. It names a resource ID, and what
`openContainer` looks at is read in one go. -/
structure WrittenVolume (source : ContainerFile) (segments : List (PackedSegment source.inflate))
    (comment : Bytes) (turtle : PackedSegment source.inflate) : Prop where
  writable : Writable segments comment
  readable : FastReadable segments comment
  isWritten : source.file = writable.file
  isFile : source.isFile = true
  isAFF4 : isAFF4Container source.filename = true
  whole : ∀ segment ∈ segments, segment.name ∈ [fileDescriptor, informationTurtle] →
    segment.content.length ≤ segment.transfer
  named : givenResource segments comment ≠ []
  present : turtle ∈ segments
  isTurtle : turtle.name = informationTurtle

section Volumes

variable {source : ContainerFile} {segments : List (PackedSegment source.inflate)}
  {comment : Bytes} {turtle : PackedSegment source.inflate}

/-- The archive of the volume, under its resource ID. -/
def WrittenVolume.zip (volume : WrittenVolume source segments comment turtle) : ZipContainer :=
  writtenContainer volume.writable (givenResource segments comment)

theorem WrittenVolume.statements (volume : WrittenVolume source segments comment turtle) :
    source.statements (listedEntries segments) = writtenStatements source turtle := by
  obtain ⟨index, isAt⟩ := List.mem_iff_getElem?.mp volume.present
  have opened := getStream_listed volume.writable.distinct isAt
  have short := volume.whole turtle volume.present (by rw [volume.isTurtle]; decide)
  rw [volume.isTurtle] at opened
  unfold ContainerFile.statements writtenStatements
  rw [opened]
  dsimp only
  rw [ContainerFile.readWhole, volume.isWritten,
    readSegment_whole volume.writable isAt short source.decompbuffer]
  by_cases empty : turtle.content = []
  · rw [if_pos empty, if_neg (by rw [empty]; decide)]
  · have positive := List.length_pos_iff.mpr empty
    rw [if_neg empty, if_pos (by rw [ReadResult.res_delivered]; omega),
      ReadResult.bytes_delivered]

/-- The container that is constructed for a written volume. -/
def writtenObject (source : ContainerFile) (segments : List (PackedSegment source.inflate))
    (comment : Bytes) (turtle : PackedSegment source.inflate) : ContainerObject where
  zip := ⟨source.file, listedEntries segments, givenResource segments comment, source.inflate⟩
  properties :=
    addProperties (source.loadVersionInformation (listedEntries segments)
        (source.setBasicProperties .empty))
      ((modelOf source.stof (writtenStatements source turtle)).getObjectInformation
        (givenResource segments comment))
  model := some (modelOf source.stof (writtenStatements source turtle))
  images := []

/-- What `parseCD` returns for a written archive. -/
def writtenParsed {inflate : Bytes → Nat → Option Bytes}
    (segments : List (PackedSegment inflate)) (comment : Bytes) : Parsed :=
  ⟨listedEntries segments, comment.takeWhile fun byte => byte ≠ 0, .zero⟩

theorem WrittenVolume.finds (volume : WrittenVolume source segments comment turtle) :
    ∃ fuel, source.Finds fuel (givenResource segments comment)
      (writtenParsed segments comment) := by
  obtain ⟨fuel, ran⟩ := parseCD_writeArchive volume.writable source.heap
  refine ⟨fuel, volume.isFile, volume.isAFF4, ?_, volume.named, volume.isWritten ▸ ran,
    listedEntries_ne volume.writable⟩
  rw [volume.isWritten]
  exact getResourceID_written volume.writable volume.readable
    (fun segment member name => volume.whole segment member (name ▸ List.mem_cons_self))
    source.decompbuffer source.memory source.heap ran

theorem WrittenVolume.created (volume : WrittenVolume source segments comment turtle) :
    source.create (givenResource segments comment) (writtenParsed segments comment) =
      .ok (writtenObject source segments comment turtle) := by
  obtain ⟨index, isAt⟩ := List.mem_iff_getElem?.mp volume.present
  have listed := getStream_listed volume.writable.distinct isAt
  rw [volume.isTurtle] at listed
  obtain ⟨model, loaded⟩ := (ContainerFile.loadModel_isSome_iff source _).mpr
    ⟨_, List.mem_of_find?_eq_some listed, ContainerFile.getStream_name listed⟩
  have statements := ContainerFile.loadModel_statements loaded
  rw [volume.statements] at statements
  subst statements
  simp [ContainerFile.create, writtenParsed, loaded, dereference, writtenObject, bind, Except.bind,
    pure, Except.pure]

/-- A written volume opens with the resource ID and the statements that it was given. -/
theorem WrittenVolume.opened (volume : WrittenVolume source segments comment turtle) :
    ∃ fuel, source.openContainer fuel =
      some (.returned (some (writtenObject source segments comment turtle))) := by
  obtain ⟨fuel, finds⟩ := volume.finds
  exact ⟨fuel, by rw [ContainerFile.openContainer_found finds, volume.created]⟩

theorem WrittenVolume.warm (volume : WrittenVolume source segments comment turtle) :
    Warm volume.zip source.stof (writtenStatements source turtle)
      (writtenObject source segments comment turtle) := by
  obtain ⟨archive, warm⟩ := ContainerFile.create_warm volume.created
  rw [archive, writtenParsed, volume.statements, volume.isWritten] at warm
  exact warm

theorem WrittenVolume.opens (volume : WrittenVolume source segments comment turtle) :
    ∃ fuel container, source.openContainer fuel = some (.returned (some container)) ∧
      Warm volume.zip source.stof (writtenStatements source turtle) container := by
  obtain ⟨fuel, opened⟩ := volume.opened
  exact ⟨fuel, _, opened, volume.warm⟩

end Volumes

/-! ## A small volume -/

/-- An image of twelve bytes, with a map that takes all but the first two and the last of them from
a compressed stream. -/
def smallTurtle : Bytes :=
  text "@prefix aff4: <http://aff4.org/Schema#> .\n" ++
    (text "<aff4://i> a aff4:Image ; aff4:dataStream <aff4://map> .\n" ++
      (text "<aff4://map> a aff4:Map ; aff4:size 12 .\n" ++
        (text "<aff4://s> a aff4:ImageStream ; aff4:size 9 ; aff4:chunkSize 4 ;\n" ++
          (text "  aff4:chunksInSegment 2 ;\n" ++
            text "  aff4:compressionMethod <https://code.google.com/p/lz4/> ."))))

def rdfType : CString := ⟨rdfPrefix ++ text "type", by decide⟩

def xsdInteger : CString := ⟨xsdPrefix ++ text "integer", by decide⟩

def imageName : CString := ⟨text "aff4://i", by decide⟩

def mapName : CString := ⟨text "aff4://map", by decide⟩

def smallStatements : List RaptorStatement := [
  ⟨.uri imageName, .uri rdfType, .uri ⟨baseUri ++ text "Image", by decide⟩⟩,
  ⟨.uri imageName, .uri ⟨baseUri ++ text "dataStream", by decide⟩, .uri mapName⟩,
  ⟨.uri mapName, .uri rdfType, .uri ⟨baseUri ++ text "Map", by decide⟩⟩,
  ⟨.uri mapName, .uri DeviceStream.sizeProperty, .literal (some xsdInteger) (text "12")⟩,
  ⟨.uri DeviceStream.streamName, .uri rdfType, .uri ⟨baseUri ++ text "ImageStream", by decide⟩⟩,
  ⟨.uri DeviceStream.streamName, .uri DeviceStream.sizeProperty,
    .literal (some xsdInteger) (text "9")⟩,
  ⟨.uri DeviceStream.streamName, .uri DeviceStream.chunkSizeProperty,
    .literal (some xsdInteger) (text "4")⟩,
  ⟨.uri DeviceStream.streamName, .uri chunksInSegmentProperty,
    .literal (some xsdInteger) (text "2")⟩,
  ⟨.uri DeviceStream.streamName, .uri compressionProperty, .uri lz4Name⟩]

def smallTurtleSegment : PackedSegment fun _ _ => none :=
  storedSegment _ informationTurtle smallTurtle (by decide) (by decide +kernel)

def smallRecord : MapEntryPoint := ⟨2, 9, 0, 0⟩

def smallSegments : List (PackedSegment fun _ _ => none) := [
    storedSegment _ fileDescriptor (text "aff4://c") (by decide) (by decide),
    smallTurtleSegment,
    storedSegment _ (text "aff4%3A%2F%2Fmap/idx") (text "aff4://s" ++ [10]) (by decide)
      (by decide),
    storedSegment _ (text "aff4%3A%2F%2Fmap/map") smallRecord.toBytes (by decide) (by decide)] ++
  lettersSegments ++
  -- The fast path of `getResourceID` wants 4 KiB.
  [storedSegment _ (text "padding") (List.replicate 4096 0) (by decide)
    (by rw [List.length_replicate]; decide)]

private theorem smallArchive_length : (writeArchive smallSegments [0x63]).length = 5565 := by
  decide +kernel

theorem smallSegments_writable : Writable smallSegments [0x63] where
  nonempty := List.cons_ne_nil _ _
  few := by decide
  small := by
    rw [smallArchive_length]
    decide
  window := by decide
  last := by
    intro later after within
    have comment : ([0x63] : Bytes).length = 1 := rfl
    rw [smallArchive_length, comment] at after
    rw [smallArchive_length] at within
    unfold EndCentralDirectory.sizeof at after within
    obtain rfl : later = 5543 := by omega
    decide +kernel
  distinct := by decide

private theorem smallSegments_first : ∀ segment, smallSegments.head? = some segment →
    segment.name = fileDescriptor → segment.method = stored →
      51 + segment.content.length ≤ resourceBufferSize := by
  intro segment first _ _
  cases first
  decide

theorem smallSegments_short : ∀ segment ∈ smallSegments,
    segment.name ∈ [fileDescriptor, informationTurtle] →
      segment.content.length ≤ segment.transfer := by
  decide +kernel

def smallRaptor (bytes : Bytes) : List RaptorStatement :=
  if bytes = smallTurtle then smallStatements else []

def smallContainer : ContainerFile where
  filename := text "/small.aff4"
  isFile := true
  file := smallSegments_writable.file
  inflate := fun _ _ => none
  stof := fun _ => false
  raptor := smallRaptor
  memory := fun _ => 0
  heap := fun _ _ => 0
  decompbuffer := fun _ => 0

theorem smallVolume : WrittenVolume smallContainer smallSegments [0x63] smallTurtleSegment where
  writable := smallSegments_writable
  readable := ⟨smallArchive_length ▸ by decide, smallSegments_first⟩
  isWritten := rfl
  isFile := rfl
  isAFF4 := by decide
  whole := smallSegments_short
  named := by decide
  present := List.mem_cons_of_mem _ List.mem_cons_self
  isTurtle := rfl

theorem smallTurtleSegment_some : smallTurtleSegment.content ≠ [] := by decide +kernel

theorem smallRaptor_smallTurtle : smallRaptor smallTurtleSegment.content = smallStatements := by
  have content : smallTurtleSegment.content = smallTurtle := rfl
  rw [content]
  exact if_pos rfl

theorem smallVolume_statements :
    writtenStatements smallContainer smallTurtleSegment = smallStatements := by
  have raptor : smallContainer.raptor = smallRaptor := rfl
  refine writtenStatements_of smallTurtleSegment_some ?_
  rw [raptor]
  exact smallRaptor_smallTurtle

theorem smallStatements_usable (zip : ZipContainer) :
    UsableStreams zip (fun _ => false) smallStatements := by
  have chunked : ∀ resource ∈ (modelOf (fun _ => false) smallStatements).getResourcesOfType
      .aff4ImagestreamType,
        DeviceStream.chunkSizeOf (modelOf (fun _ => false) smallStatements) resource ≠ 0 := by
    decide +kernel
  exact usableStreams_of_listed fun resource listed => .inr (chunked resource listed)

/-! ## Answers -/

/-- Any sequence of calls on an opened container that comes back has the answers that the
statements of `information.turtle` and the entries of the archive give, whatever was asked
before. All come back exactly where no image stream of the container divides by zero. -/
theorem openContainer_answers (libraries : Libraries) (chunkCacheSize : U64)
    {self : ContainerFile} {fuel : Nat} {container : ContainerObject}
    (opened : self.openContainer fuel = some (.returned (some container))) :
    ∃ resource zipFile, self.Finds fuel resource zipFile ∧
      container.zip = ⟨self.file, zipFile.entries, resource, self.inflate⟩ ∧
      AnswersBy libraries chunkCacheSize container container.zip self.stof
        (self.statements zipFile.entries) := by
  obtain ⟨resource, zipFile, finds, created⟩ := ContainerFile.openContainer_some opened
  obtain ⟨archive, warm⟩ := ContainerFile.create_warm created
  exact ⟨resource, zipFile, finds, archive, warm.answersBy libraries chunkCacheSize⟩

theorem openContainer_answers_small : ∃ fuel container,
    smallContainer.openContainer fuel = some (.returned (some container)) ∧
      ∃ resource zipFile, smallContainer.Finds fuel resource zipFile ∧
        container.zip =
          ⟨smallContainer.file, zipFile.entries, resource, smallContainer.inflate⟩ ∧
        AnswersBy CompressionCodec.literalLibraries 0x100000 container container.zip
          smallContainer.stof (smallContainer.statements zipFile.entries) := by
  obtain ⟨fuel, container, opened, _⟩ := smallVolume.opens
  exact ⟨fuel, container, opened, openContainer_answers _ _ opened⟩

/-- A written volume opens, and whatever is then asked of the container is answered by the
statements and the segments that were written. -/
theorem openContainer_written (libraries : Libraries) (chunkCacheSize : U64)
    {source : ContainerFile} {segments : List (PackedSegment source.inflate)} {comment : Bytes}
    {turtle : PackedSegment source.inflate}
    (volume : WrittenVolume source segments comment turtle) :
    ∃ fuel container, source.openContainer fuel = some (.returned (some container)) ∧
      container.zip = volume.zip ∧
      AnswersBy libraries chunkCacheSize container volume.zip source.stof
        (writtenStatements source turtle) := by
  obtain ⟨fuel, container, opened, warm⟩ := volume.opens
  exact ⟨fuel, container, opened, warm.zip, warm.answersBy libraries chunkCacheSize⟩

theorem openContainer_written_small : ∃ fuel container,
    smallContainer.openContainer fuel = some (.returned (some container)) ∧
      container.zip = smallVolume.zip ∧
      ∀ calls, ∃ given,
        container.answersWithStreams CompressionCodec.literalLibraries 0x100000 calls = .ok given ∧
        List.Forall₂
          (Meets smallVolume.zip smallContainer.stof
            (writtenStatements smallContainer smallTurtleSegment)) calls given := by
  obtain ⟨fuel, container, opened, archive, answers⟩ :=
    openContainer_written CompressionCodec.literalLibraries 0x100000 smallVolume
  refine ⟨fuel, container, opened, archive, fun calls => ?_⟩
  have usable : UsableStreams smallVolume.zip smallContainer.stof
      (writtenStatements smallContainer smallTurtleSegment) := by
    rw [smallVolume_statements]
    exact smallStatements_usable _
  obtain ⟨given, came⟩ := answers.comesBack.mpr usable calls
  exact ⟨given, came, answers.meets calls given came⟩

end Aff4Lite.Containers
