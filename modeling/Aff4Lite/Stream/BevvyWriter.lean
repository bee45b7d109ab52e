import Aff4Lite.Lib.Blocks
import Aff4Lite.Stream.ImageStreamCreate
import Aff4Lite.Stream.StreamObject
import Aff4Lite.Zip.Writer

/-!
# Writing an image stream

The segments in which a writer keeps a content: chunks one after the other in bevvies, and an
index with a point for each chunk. A stream over a container with these segments reads the
content.
-/

set_option autoImplicit false

namespace Aff4Lite.Stream

open Lib Rdf Zip Containers Codec

/-- How a writer keeps the chunks of a stream. Whatever it keeps of a chunk, the reader makes the
chunk of it again, by the codec or, where as many bytes are kept as a chunk has, as they are. -/
structure ChunkCoding where
  chunkSize : U32
  chunksInSegment : U32
  codec : Codec
  encode : Bytes → Bytes
  chunkSize_ne : chunkSize ≠ 0
  chunksInSegment_ne : chunksInSegment ≠ 0
  encode_ne : ∀ chunk, chunk ≠ [] → encode chunk ≠ []
  encode_short : ∀ chunk, chunk.length ≤ chunkSize.toNat → (encode chunk).length < 2 ^ 32
  decodes : ∀ chunk, chunk ≠ [] → chunk.length ≤ chunkSize.toNat →
    chunk <+: if (encode chunk).length = chunkSize.toNat then encode chunk
      else codec (encode chunk) chunkSize.toNat

namespace ChunkCoding

variable (coding : ChunkCoding) (content : Bytes)

def chunk (number : Nat) : Bytes :=
  slice content (number * coding.chunkSize.toNat) coding.chunkSize.toNat

def chunkCount : Nat := (content.length + coding.chunkSize.toNat - 1) / coding.chunkSize.toNat

def chunksOfBevvy (bevvy : Nat) : Nat :=
  min coding.chunksInSegment.toNat
    (coding.chunkCount content - bevvy * coding.chunksInSegment.toNat)

/-- What is kept of the chunks of a bevvy. -/
def blocks (bevvy : Nat) : List Bytes :=
  (List.range (coding.chunksOfBevvy content bevvy)).map fun place =>
    coding.encode (coding.chunk content (bevvy * coding.chunksInSegment.toNat + place))

def points (bevvy : Nat) : List ImageStreamPoint :=
  (List.range (coding.chunksOfBevvy content bevvy)).map fun place =>
    ⟨BitVec.ofNat 64 (blockStart (coding.blocks content bevvy) place),
      BitVec.ofNat 32
        (coding.encode (coding.chunk content
          (bevvy * coding.chunksInSegment.toNat + place))).length⟩

def bevvy (bevvy : Nat) : Bytes := (coding.blocks content bevvy).flatten

def index (bevvy : Nat) : Bytes := (coding.points content bevvy).flatMap ImageStreamPoint.toBytes

/-- The point of a chunk. -/
def point (number : Nat) : ImageStreamPoint :=
  ⟨BitVec.ofNat 64 (blockStart (coding.blocks content (number / coding.chunksInSegment.toNat))
      (number % coding.chunksInSegment.toNat)),
    BitVec.ofNat 32 (coding.encode (coding.chunk content number)).length⟩

variable {coding content}

private theorem chunkSize_pos : 0 < coding.chunkSize.toNat := by
  have nonzero := coding.chunkSize_ne
  bv_omega

private theorem chunksInSegment_pos : 0 < coding.chunksInSegment.toNat := by
  have nonzero := coding.chunksInSegment_ne
  bv_omega

private theorem lt_chunkCount {number : Nat} :
    number < coding.chunkCount content ↔ number * coding.chunkSize.toNat < content.length := by
  have positive := @chunkSize_pos coding
  rw [chunkCount, ← Nat.succ_le_iff, Nat.le_div_iff_mul_le positive, Nat.succ_mul]
  omega

/-- The place of a chunk in its bevvy. -/
theorem place_inside {number : Nat} (below : number * coding.chunkSize.toNat < content.length) :
    number % coding.chunksInSegment.toNat <
      coding.chunksOfBevvy content (number / coding.chunksInSegment.toNat) := by
  have counted := lt_chunkCount.mpr below
  have parts := Nat.div_add_mod' number coding.chunksInSegment.toNat
  have within := Nat.mod_lt number (@chunksInSegment_pos coding)
  unfold chunksOfBevvy
  omega

private theorem length_chunk (number : Nat) :
    (coding.chunk content number).length =
      min coding.chunkSize.toNat (content.length - number * coding.chunkSize.toNat) :=
  length_slice ..

private theorem chunk_ne {number : Nat} (below : number * coding.chunkSize.toNat < content.length) :
    coding.chunk content number ≠ [] := by
  have positive := @chunkSize_pos coding
  have length := @length_chunk coding content number
  exact List.ne_nil_of_length_pos (by omega)

private theorem block_at {number : Nat} (below : number * coding.chunkSize.toNat < content.length) :
    (coding.blocks content (number / coding.chunksInSegment.toNat))[number %
      coding.chunksInSegment.toNat]? = some (coding.encode (coding.chunk content number)) := by
  rw [blocks, List.getElem?_map, List.getElem?_range (place_inside below), Option.map_some,
    Nat.div_add_mod']

private theorem point_at {number : Nat} (below : number * coding.chunkSize.toNat < content.length) :
    (coding.points content (number / coding.chunksInSegment.toNat))[number %
      coding.chunksInSegment.toNat]? = some (coding.point content number) := by
  rw [points, List.getElem?_map, List.getElem?_range (place_inside below), Option.map_some,
    Nat.div_add_mod']
  rfl

private theorem index_partAt {number : Nat}
    (below : number * coding.chunkSize.toNat < content.length) :
    PartAt (coding.index content (number / coding.chunksInSegment.toNat))
      (ImageStreamPoint.sizeof * (number % coding.chunksInSegment.toNat))
      (coding.point content number).toBytes := by
  have found := slice_flatMap ImageStreamPoint.length_toBytes (point_at below)
  unfold PartAt
  rw [ImageStreamPoint.length_toBytes]
  exact found

end ChunkCoding

/-! ## A container with the segments -/

section Stored

variable (container : ZipContainer) (resource : Bytes) (coding : ChunkCoding) (content : Bytes)

/-- The container has the segments of every bevvy that the content needs: the bevvy stored, its
index however it is packed. -/
structure HoldsBevvies : Prop where
  few : ∀ number, number * coding.chunkSize.toNat < content.length →
    number / coding.chunksInSegment.toNat < 10 ^ 8
  bevvies : ∀ number, number * coding.chunkSize.toNat < content.length →
    ∃ entry, container.getSegmentEntry
        (resource ++ text "/" ++ padded 8 (number / coding.chunksInSegment.toNat)) = some entry ∧
      PartAt container.file.content entry.offset.toNat
        (coding.bevvy content (number / coding.chunksInSegment.toNat))
  indexes : ∀ number, number * coding.chunkSize.toNat < content.length →
    ∃ entry, container.getSegment
        (resource ++ text "/" ++ padded 8 (number / coding.chunksInSegment.toNat) ++
          text ".index") = some entry ∧
      ∀ scratch, (readSegment container.inflate container.file entry scratch entry.length 0).bytes =
        coding.index content (number / coding.chunksInSegment.toNat)

/-- The stream over the segments. -/
def ChunkCoding.stream (cacheSize : U64) : ImageStream where
  container := container
  resource := resource
  length := BitVec.ofNat 64 content.length
  chunkSize := coding.chunkSize
  chunksInSegment := coding.chunksInSegment
  codec := coding.codec
  cacheSize := cacheSize
  closed := false

/-- The data offset and the point of each chunk. -/
def ChunkCoding.chunks (number : Nat) : U64 × ImageStreamPoint :=
  (((container.getSegmentEntry (resource ++ text "/" ++
      padded 8 (number / coding.chunksInSegment.toNat))).map ZipEntry.offset).getD 0,
    coding.point content number)

end Stored

section Loads

variable {container : ZipContainer} {resource : Bytes} {coding : ChunkCoding} {content : Bytes}

/-- Where the archive keeps a chunk, and that it does not end before it. -/
theorem HoldsBevvies.chunk_at (holds : HoldsBevvies container resource coding content)
    {number : Nat} (below : number * coding.chunkSize.toNat < content.length) :
    let chunk := coding.chunks container resource content number
    ∃ entry, container.getSegmentEntry (resource ++ text "/" ++
          padded 8 (number / coding.chunksInSegment.toNat)) = some entry ∧
      entry.offset = chunk.1 ∧
      (chunk.1 + chunk.2.offset).toNat + chunk.2.length.toNat ≤ container.file.content.length ∧
      chunk.2.length.toNat = (coding.encode (coding.chunk content number)).length ∧
      slice container.file.content (chunk.1 + chunk.2.offset).toNat chunk.2.length.toNat =
        coding.encode (coding.chunk content number) := by
  intro chunk
  obtain ⟨entry, found, stands⟩ := holds.bevvies number below
  have first : chunk.1 = entry.offset := by
    change ((container.getSegmentEntry _).map ZipEntry.offset).getD 0 = _
    rw [found]
    rfl
  have block := ChunkCoding.block_at below
  have inside := block_inside block
  have small := container.file.small
  have kept := coding.encode_ne _ (ChunkCoding.chunk_ne below)
  have positive := List.length_pos_iff.mpr kept
  have bevvyInside := stands.inside (List.ne_nil_of_length_pos (by
    unfold ChunkCoding.bevvy
    omega))
  have short := coding.encode_short (coding.chunk content number)
    ((ChunkCoding.length_chunk number).trans_le (min_le_left _ _))
  have length : chunk.2.length.toNat = (coding.encode (coding.chunk content number)).length := by
    change (BitVec.ofNat 32 _).toNat = _
    rw [BitVec.toNat_ofNat, Nat.mod_eq_of_lt short]
  unfold ChunkCoding.bevvy at stands bevvyInside
  have place : (chunk.1 + chunk.2.offset).toNat = entry.offset.toNat +
      blockStart (coding.blocks content (number / coding.chunksInSegment.toNat))
        (number % coding.chunksInSegment.toNat) := by
    rw [first]
    change (entry.offset + BitVec.ofNat 64 _).toNat = _
    bv_omega
  refine ⟨entry, found, first.symm, by omega, length, ?_⟩
  rw [place, length, stands.slice inside]
  exact partAt_block block

theorem HoldsBevvies.chunkBytes (holds : HoldsBevvies container resource coding content)
    (cacheSize : U64) {number : Nat} (below : number * coding.chunkSize.toNat < content.length) :
    coding.chunk content number <+:
      (coding.stream container resource content cacheSize).chunkBytes
        (coding.chunks container resource content number).1
        (coding.chunks container resource content number).2 := by
  obtain ⟨_, _, _, _, length, raw⟩ := holds.chunk_at below
  have size := @ChunkCoding.length_chunk coding content number
  have decoded := coding.decodes _ (ChunkCoding.chunk_ne below) (by omega)
  have whole : (coding.chunks container resource content number).2.length = coding.chunkSize ↔
      (coding.encode (coding.chunk content number)).length = coding.chunkSize.toNat := by
    rw [← length]
    exact BitVec.toNat_inj.symm
  unfold ImageStream.chunkBytes
  dsimp only
  change _ <+: if _ = coding.chunkSize then slice container.file.content _ _ else
    coding.codec (slice container.file.content _ _) coding.chunkSize.toNat
  rw [raw]
  simp only [whole]
  exact decoded

theorem HoldsBevvies.intact (holds : HoldsBevvies container resource coding content)
    (addressed : content.length < 2 ^ 64) {cacheSize : U64} (capacity : cacheSize ≠ 0) :
    (coding.stream container resource content cacheSize).Intact
      (coding.chunks container resource content) where
  isOpen := rfl
  chunkSize := coding.chunkSize_ne
  chunksInSegment := coding.chunksInSegment_ne
  capacity := capacity
  allLoadable := by
    intro number reaches
    have size : (coding.stream container resource content cacheSize).length.toNat =
        content.length := by
      change (BitVec.ofNat 64 content.length).toNat = _
      rw [BitVec.toNat_ofNat, Nat.mod_eq_of_lt addressed]
    have below : number * coding.chunkSize.toNat < content.length := size ▸ reaches
    obtain ⟨entry, found, dataOffset, inside, length, _⟩ := holds.chunk_at below
    obtain ⟨segment, segmentFound, bytes⟩ := holds.indexes number below
    have chunkLength := @ChunkCoding.length_chunk coding content number
    have kept := (holds.chunkBytes cacheSize below).length_le
    refine ⟨holds.few number below, ⟨⟨entry, found, dataOffset⟩, segment, segmentFound, ?_⟩, ?_,
      inside, ?_⟩
    · intro scratch
      have stands := ChunkCoding.index_partAt below
      have bounded := length_readSegment_le container.inflate container.file segment scratch
      rw [← bytes scratch] at stands
      refine ⟨stands, ?_⟩
      change List.length (readSegment container.inflate container.file segment scratch
        segment.length 0).bytes ≤ _
      rw [bytes scratch, ChunkCoding.index,
        length_flatMap_of_width ImageStreamPoint.length_toBytes] at bounded ⊢
      rw [ImageStreamPoint.sizeof] at bounded ⊢
      omega
    · intro empty
      have nonempty := List.length_pos_iff.mpr (coding.encode_ne _ (ChunkCoding.chunk_ne below))
      rw [empty] at length
      exact absurd length (Nat.ne_of_lt nonempty)
    · rw [size]
      exact chunkLength.symm.le.trans kept

/-- The image behind the stream is the content. -/
theorem HoldsBevvies.extent_whole (holds : HoldsBevvies container resource coding content)
    (addressed : content.length < 2 ^ 64) (cacheSize : U64) :
    ((coding.stream container resource content cacheSize).extent
      (coding.chunks container resource content)).whole = content := by
  have size : (coding.stream container resource content cacheSize).length.toNat =
      content.length := by
    change (BitVec.ofNat 64 content.length).toNat = _
    rw [BitVec.toNat_ofNat, Nat.mod_eq_of_lt addressed]
  have positive := @ChunkCoding.chunkSize_pos coding
  refine Extent.whole_eq size ?_
  intro address below
  have parts := Nat.div_add_mod' address coding.chunkSize.toNat
  obtain ⟨rest, bytes⟩ := holds.chunkBytes cacheSize
    (show address / coding.chunkSize.toNat * coding.chunkSize.toNat < content.length by omega)
  have byte : (coding.chunk content (address / coding.chunkSize.toNat))[address %
      coding.chunkSize.toNat]? = some content[address] := by
    rw [ChunkCoding.chunk, getElem?_slice, if_pos (Nat.mod_lt address positive), parts,
      List.getElem?_eq_getElem below]
  have loaded : (coding.stream container resource content cacheSize).addressByte
      (coding.chunks container resource content) address = some content[address] := by
    change (ImageStream.chunkBytes _ _ _)[address % coding.chunkSize.toNat]? = _
    rw [← byte, ← List.getElem?_append_left (List.getElem?_eq_some_iff.mp byte).1, bytes]
    rfl
  rw [List.getElem?_eq_getElem below]
  exact congrArg some (congrArg (Option.getD · 0) loaded).symm

end Loads

/-! ## From the archive -/

/-- The constructor of `ImageStream`, over a container and the decompressors of the libraries;
`none` for the division by a chunk size of 0. A stream without a codec is closed at once. -/
def ImageStream.create (libraries : Libraries) (container : ZipContainer) (model : Model)
    (resource : Bytes) (chunkCacheSize : U64) : Option ImageStream :=
  let chunkSize := DeviceStream.chunkSizeOf model resource
  let chunksInSegment := DeviceStream.chunksInSegmentOf model resource
  match DeviceStream.codecOf model resource with
  | none =>
      some ⟨container, resource, 0, chunkSize, chunksInSegment, fun _ _ => [], 0, true⟩
  | some codec =>
      if chunkSize = 0 then none
      else
        some {
          container := container
          resource := resource
          length := DeviceStream.lengthOf model resource
          chunkSize := chunkSize
          chunksInSegment := chunksInSegment
          codec := fun source destSize =>
            (DeviceStream.codecDecompress libraries codec source destSize).output
          cacheSize := chunkCacheSize / chunkSize.setWidth 64
          closed := false }

section Archive

variable {inflate : Bytes → Nat → Option Bytes} {segments : List (PackedSegment inflate)}
  {comment : Bytes}

/-- The container that opens a written archive. -/
def writtenContainer (writable : Writable segments comment) (resourceID : Bytes) :
    ZipContainer where
  file := writable.file
  entries := listedEntries segments
  resourceID := resourceID
  inflate := inflate

/-- Among the segments of the archive are those of a stream, under the names by which the container
looks them up. -/
structure PacksBevvies (writable : Writable segments comment) (resourceID resource : Bytes)
    (coding : ChunkCoding) (content : Bytes) : Prop where
  few : ∀ number, number * coding.chunkSize.toNat < content.length →
    number / coding.chunksInSegment.toNat < 10 ^ 8
  bevvies : ∀ number, number * coding.chunkSize.toNat < content.length →
    ∃ segment ∈ segments,
      segment.name = (writtenContainer writable resourceID).sanitizeResource
        (resource ++ text "/" ++ padded 8 (number / coding.chunksInSegment.toNat)) ∧
      segment.method = stored ∧
      segment.content = coding.bevvy content (number / coding.chunksInSegment.toNat)
  indexes : ∀ number, number * coding.chunkSize.toNat < content.length →
    ∃ segment ∈ segments,
      segment.name = (writtenContainer writable resourceID).sanitizeResource
        (resource ++ text "/" ++ padded 8 (number / coding.chunksInSegment.toNat) ++
          text ".index") ∧
      segment.content.length ≤ segment.transfer ∧
      segment.content = coding.index content (number / coding.chunksInSegment.toNat)

theorem PacksBevvies.holds {writable : Writable segments comment} {resourceID resource : Bytes}
    {coding : ChunkCoding} {content : Bytes}
    (packs : PacksBevvies writable resourceID resource coding content) :
    HoldsBevvies (writtenContainer writable resourceID) resource coding content where
  few := packs.few
  bevvies := by
    intro number below
    obtain ⟨segment, member, name, method, kept⟩ := packs.bevvies number below
    obtain ⟨index, found⟩ := List.mem_iff_getElem?.mp member
    have opened := getStream_listed writable.distinct found
    obtain ⟨start, _, _, _⟩ := toNat_entry writable found
    have stands := packed_at comment found
    have same : segment.packed = segment.content := by
      rcases segment.packs with ⟨_, same⟩ | ⟨isDeflate, _⟩
      · exact same
      · exact absurd (method.symm.trans isDeflate) (by decide)
    rw [← start, same, kept] at stands
    rw [name] at opened
    exact ⟨_, opened, stands⟩
  indexes := by
    intro number below
    obtain ⟨segment, member, name, short, kept⟩ := packs.indexes number below
    obtain ⟨index, found⟩ := List.mem_iff_getElem?.mp member
    have opened := getStream_listed writable.distinct found
    rw [name] at opened
    refine ⟨_, opened, ?_⟩
    intro scratch
    change (readSegment inflate writable.file _ _ _ _).bytes = _
    rw [readSegment_whole writable found short scratch, ReadResult.bytes_delivered, kept]

/-- What the model of the archive says of a stream. -/
structure Describes (libraries : Libraries) (model : Model) (resource : Bytes)
    (coding : ChunkCoding) (content : Bytes) (codec : CompressionCodec) : Prop where
  length : (DeviceStream.lengthOf model resource).toNat = content.length
  chunkSize : DeviceStream.chunkSizeOf model resource = coding.chunkSize
  chunksInSegment : DeviceStream.chunksInSegmentOf model resource = coding.chunksInSegment
  known : DeviceStream.codecOf model resource = some codec
  codec : coding.codec = fun source destSize =>
    (DeviceStream.codecDecompress libraries codec source destSize).output

theorem Describes.created {libraries : Libraries} {model : Model} {resource : Bytes}
    {coding : ChunkCoding} {content : Bytes} {codec : CompressionCodec}
    (describes : Describes libraries model resource coding content codec)
    (container : ZipContainer) (chunkCacheSize : U64) :
    ImageStream.create libraries container model resource chunkCacheSize =
      some (coding.stream container resource content
        (chunkCacheSize / coding.chunkSize.setWidth 64)) := by
  obtain ⟨length, chunkSize, chunksInSegment, known, codecs⟩ := describes
  have same : DeviceStream.lengthOf model resource = BitVec.ofNat 64 content.length := by
    rw [← length, BitVec.ofNat_toNat, BitVec.setWidth_eq]
  unfold ImageStream.create
  dsimp only
  rw [known, chunkSize, chunksInSegment]
  dsimp only
  rw [if_neg coding.chunkSize_ne, ← codecs, same]
  rfl

/-- A content that was written into an archive as an image stream is what the stream reads, when
the archive is parsed again and the stream is opened by its description: for every run of reads,
with whatever the caches hold in between. -/
theorem imageStream_readBack (writable : Writable segments comment) (heap : Nat → Nat → UInt8)
    {resourceID resource : Bytes} {coding : ChunkCoding} {content : Bytes}
    (packs : PacksBevvies writable resourceID resource coding content) {libraries : Libraries}
    {model : Model} {codec : CompressionCodec}
    (describes : Describes libraries model resource coding content codec) {chunkCacheSize : U64}
    (room : chunkCacheSize / coding.chunkSize.setWidth 64 ≠ 0) (fresh : Nat → Nat → UInt8)
    (scratch : Nat → UInt8) (requests : List (U64 × U64)) :
    ∃ entries stream,
      ParsesTo writable.file heap
          (.returned ⟨entries, comment.takeWhile fun byte => byte ≠ 0, .zero⟩) ∧
        ImageStream.create libraries ⟨writable.file, entries, resourceID, inflate⟩ model resource
          chunkCacheSize = some stream ∧
        stream.length.toNat = content.length ∧
        List.Forall₂
          (fun request result => request.1.toNat < 2 ^ 63 →
            request.2.toNat + request.1.toNat < 2 ^ 64 →
              result = .delivered (slice content request.2.toNat request.1.toNat))
          requests
          (replies (fun request : U64 × U64 =>
            (StreamObject.image stream fresh).read scratch request.1 request.2) requests
            stream.fresh).1 := by
  have addressed : content.length < 2 ^ 64 := by
    rw [← describes.length]
    exact (DeviceStream.lengthOf model resource).isLt
  have holds := packs.holds
  have intact := holds.intact addressed room
  have whole := holds.extent_whole addressed (chunkCacheSize / coding.chunkSize.setWidth 64)
  refine ⟨_, _, parseCD_writeArchive writable heap, describes.created _ chunkCacheSize, ?_, ?_⟩
  · rw [ChunkCoding.stream, BitVec.toNat_ofNat, Nat.mod_eq_of_lt addressed]
  · have object : (StreamObject.image _ fresh).Holds _ _ := .image fresh intact
    have answered := ((object.transparent scratch).replied requests object.fresh).1
    refine answered.imp ?_
    intro request result reads small noOverflow
    rw [reads small noOverflow, Extent.read_eq_slice, whole]

end Archive

/-- The coding of a compressor that a codec of the library undoes. A chunk that it does not make
shorter is kept as it is, filled up to the chunk size. -/
def ChunkCoding.ofCompressor (libraries : Libraries) (codec : CompressionCodec)
    (compress : Bytes → Bytes) {chunkSize chunksInSegment : U32} (chunkSize_ne : chunkSize ≠ 0)
    (chunksInSegment_ne : chunksInSegment ≠ 0)
    (inverse : ∀ chunk, chunk ≠ [] → chunk.length ≤ chunkSize.toNat →
      chunk <+: (DeviceStream.codecDecompress libraries codec (compress chunk)
        chunkSize.toNat).output) : ChunkCoding where
  chunkSize := chunkSize
  chunksInSegment := chunksInSegment
  codec source destSize := (DeviceStream.codecDecompress libraries codec source destSize).output
  encode chunk :=
    if compress chunk ≠ [] ∧ (compress chunk).length < chunkSize.toNat then compress chunk
    else chunk ++ List.replicate (chunkSize.toNat - chunk.length) 0
  chunkSize_ne := chunkSize_ne
  chunksInSegment_ne := chunksInSegment_ne
  encode_ne := by
    intro chunk nonempty
    split
    · rename_i shorter
      exact shorter.1
    · exact List.append_ne_nil_of_left_ne_nil nonempty _
  encode_short := by
    intro chunk short
    have size := chunkSize.isLt
    split
    · rename_i shorter
      exact lt_trans shorter.2 size
    · rw [List.length_append, List.length_replicate]
      omega
  decodes := by
    intro chunk nonempty short
    by_cases shorter : compress chunk ≠ [] ∧ (compress chunk).length < chunkSize.toNat
    · rw [if_pos shorter, if_neg (Nat.ne_of_lt shorter.2)]
      exact inverse chunk nonempty short
    · rw [if_neg shorter, if_pos (by rw [List.length_append, List.length_replicate]; omega)]
      exact List.prefix_append _ _

/-- A segment that is kept as it is. -/
def storedSegment (inflate : Bytes → Nat → Option Bytes) (name content : Bytes)
    (nameShort : name.length < 2 ^ 16) (contentShort : content.length < 2 ^ 32) :
    PackedSegment inflate where
  name := name
  content := content
  method := stored
  packed := content
  crc32 := 0
  nameShort := nameShort
  contentShort := contentShort
  packedShort := contentShort
  packs := .inl ⟨rfl, rfl⟩

/-! ## A small stream -/

/-- An LZ4 block of literals. -/
def literals (chunk : Bytes) : Bytes := UInt8.ofNat (16 * chunk.length) :: chunk

private theorem literalBlock_literals {chunk : Bytes} (short : chunk.length ≤ 4) :
    CompressionCodec.literalBlock (literals chunk) = some chunk := by
  refine if_pos ?_
  rw [UInt8.toNat_ofNat']
  omega

private theorem codecDecompress_literals {chunk : Bytes} (short : chunk.length ≤ 4) :
    (DeviceStream.codecDecompress CompressionCodec.literalLibraries .lz4Compression
      (literals chunk) 4).output = chunk := by
  have length : (literals chunk).length = chunk.length + 1 := rfl
  have size : ((BitVec.ofNat 64 (literals chunk).length).setWidth 32).toNat =
      (literals chunk).length := by
    rw [length]
    bv_omega
  have source : firstCells (memoryOf (literals chunk))
      ((BitVec.ofNat 64 (literals chunk).length).setWidth 32).toNat = literals chunk := by
    rw [size, firstCells_memoryOf _ le_rfl, List.take_length]
  change (CompressionCodec.attempt CompressionCodec.literalBlock (firstCells _ _) 4).2 = chunk
  rw [source, CompressionCodec.attempt, literalBlock_literals short]
  exact List.take_of_length_le short

/-- Bevvies of two chunks of four bytes. -/
def lettersCoding : ChunkCoding :=
  .ofCompressor CompressionCodec.literalLibraries .lz4Compression literals
    (show (4 : U32) ≠ 0 by decide) (show (2 : U32) ≠ 0 by decide) (by
      intro chunk _ short
      rw [show BitVec.toNat (4 : U32) = 4 from rfl, codecDecompress_literals short])

/-- Two chunks that do not get shorter, and a last one that does. -/
def letters : Bytes := text "abcdefghi"

def lettersSegments : List (PackedSegment fun _ _ => none) := [
  storedSegment _ (text "aff4%3A%2F%2Fs/00000000") (text "abcdefgh") (by decide) (by decide),
  storedSegment _ (text "aff4%3A%2F%2Fs/00000000.index")
    (ImageStreamPoint.toBytes ⟨0, 4⟩ ++ ImageStreamPoint.toBytes ⟨4, 4⟩) (by decide) (by decide),
  storedSegment _ (text "aff4%3A%2F%2Fs/00000001") (literals (text "i")) (by decide) (by decide),
  storedSegment _ (text "aff4%3A%2F%2Fs/00000001.index") (ImageStreamPoint.toBytes ⟨0, 2⟩)
    (by decide) (by decide)]

private theorem lettersArchive_length : (writeArchive lettersSegments [0x63]).length = 581 := by
  decide +kernel

private theorem lettersSegments_writable : Writable lettersSegments [0x63] where
  nonempty := List.cons_ne_nil _ _
  few := by decide
  small := by
    rw [lettersArchive_length]
    decide
  window := by decide
  last := by
    intro later after within
    have comment : ([0x63] : Bytes).length = 1 := rfl
    rw [lettersArchive_length, comment] at after
    rw [lettersArchive_length] at within
    unfold EndCentralDirectory.sizeof at after within
    obtain rfl : later = 559 := by omega
    decide +kernel
  distinct := by decide

theorem lettersCoding_bevvy {number : Nat}
    (below : number * lettersCoding.chunkSize.toNat < letters.length) :
    number / lettersCoding.chunksInSegment.toNat = 0 ∨
      number / lettersCoding.chunksInSegment.toNat = 1 := by
  have size : lettersCoding.chunkSize.toNat = 4 := rfl
  have segment : lettersCoding.chunksInSegment.toNat = 2 := rfl
  have length : letters.length = 9 := rfl
  rw [size, length] at below
  rw [segment]
  omega

private theorem lettersSegments_packs :
    PacksBevvies lettersSegments_writable (text "aff4://c") (text "aff4://s") lettersCoding
      letters := by
  refine ⟨?_, ?_, ?_⟩
  · intro number below
    rcases lettersCoding_bevvy below with bevvy | bevvy
    · rw [bevvy]
      decide
    · rw [bevvy]
      decide
  · intro number below
    rcases lettersCoding_bevvy below with bevvy | bevvy
    · rw [bevvy]
      exact ⟨_, List.mem_iff_getElem?.mpr ⟨0, rfl⟩, by decide +kernel, rfl, by decide +kernel⟩
    · rw [bevvy]
      exact ⟨_, List.mem_iff_getElem?.mpr ⟨2, rfl⟩, by decide +kernel, rfl, by decide +kernel⟩
  · intro number below
    rcases lettersCoding_bevvy below with bevvy | bevvy
    · rw [bevvy]
      exact ⟨_, List.mem_iff_getElem?.mpr ⟨1, rfl⟩, by decide +kernel, by decide,
        by decide +kernel⟩
    · rw [bevvy]
      exact ⟨_, List.mem_iff_getElem?.mpr ⟨3, rfl⟩, by decide +kernel, by decide,
        by decide +kernel⟩

def chunksInSegmentProperty : CString := ⟨baseUri ++ text "chunksInSegment", by decide⟩

def compressionProperty : CString := ⟨baseUri ++ text "compressionMethod", by decide⟩

def lz4Name : CString := ⟨text "https://code.google.com/p/lz4/", by decide⟩

def lettersStatements : List RaptorStatement := [
  DeviceStream.integerStatement DeviceStream.sizeProperty (text "9"),
  DeviceStream.integerStatement DeviceStream.chunkSizeProperty (text "4"),
  DeviceStream.integerStatement chunksInSegmentProperty (text "2"),
  ⟨.uri DeviceStream.streamName, .uri compressionProperty, .uri lz4Name⟩]

def lettersModel : Model := Model.parse (Model.typedLiteral fun _ => false) lettersStatements

private theorem lettersModel_describes :
    Describes CompressionCodec.literalLibraries lettersModel (text "aff4://s") lettersCoding
      letters .lz4Compression where
  length := by decide +kernel
  chunkSize := by decide +kernel
  chunksInSegment := by decide +kernel
  known := by decide +kernel
  codec := rfl

theorem imageStream_readBack_letters :
    ∃ entries stream,
      ParsesTo lettersSegments_writable.file (fun _ _ => 0)
          (.returned ⟨entries, [0x63], .zero⟩) ∧
        ImageStream.create CompressionCodec.literalLibraries
          ⟨lettersSegments_writable.file, entries, text "aff4://c", fun _ _ => none⟩
          lettersModel (text "aff4://s") (chunkCacheSizeAfter []) = some stream ∧
        stream.length.toNat = 9 ∧
        List.Forall₂
          (fun (request : U64 × U64) result => request.1.toNat < 2 ^ 63 →
            request.2.toNat + request.1.toNat < 2 ^ 64 →
              result = .delivered (slice letters request.2.toNat request.1.toNat))
          [(12, 0), (3, 6), (1, 8)]
          (replies (fun request : U64 × U64 =>
            (StreamObject.image stream fun _ _ => 0).read (fun _ => 0) request.1 request.2)
            [(12, 0), (3, 6), (1, 8)] stream.fresh).1 :=
  imageStream_readBack lettersSegments_writable (fun _ _ => 0) lettersSegments_packs
    lettersModel_describes
    (show chunkCacheSizeAfter [] / lettersCoding.chunkSize.setWidth 64 ≠ 0 by decide)
    (fun _ _ => 0) (fun _ => 0) _

end Aff4Lite.Stream
