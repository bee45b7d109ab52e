import Aff4Lite.Codec.CompressionCodec
import Aff4Lite.Rdf.TypedLiteral
import Aff4Lite.Stream.ChunkLoaderRead

/-!
# The constructor of `aff4::stream::ImageStream`

The members that are read from the RDF model, and which of their values the divisions of the
constructor, of `read` and of the chunk loader, and the lookups in the chunk cache rely on.
-/

set_option autoImplicit false

namespace Aff4Lite.Stream

open Lib Rdf Utils Codec

/-! ## The size of the chunk cache -/

/-- `AFF4_IMAGE_STREAM_CHUNK_CACHE_SIZE` -/
def defaultChunkCacheSize : U64 := 8 * 1024 * 1204

/-- `AFF4_MINIMUM_IMAGE_STREAM_CHUNK_CACHE_SIZE` -/
def minimumChunkCacheSize : U64 := 1024 * 1204

/-- The value that is returned, and `CHUNK_CACHE_SIZE` after the call. -/
def setImageStreamCacheSize (size chunkCacheSize : U64) : U64 × U64 :=
  let oldValue := chunkCacheSize
  if size ≥ minimumChunkCacheSize then
    -- Check for power 2
    if size &&& (size - 1) = 0 then (oldValue, size) else (oldValue, chunkCacheSize)
  else (oldValue, chunkCacheSize)

/-- `getImageStreamCacheSize` after calls of the setter. -/
def chunkCacheSizeAfter (sizes : List U64) : U64 :=
  sizes.foldl (fun chunkCacheSize size => (setImageStreamCacheSize size chunkCacheSize).2)
    defaultChunkCacheSize

namespace DeviceStream

/-! ## The members -/

/-- `getProperty` of the stream. A resource that the model does not know gets two properties. -/
def propertiesOf (model : Model) (resource : Bytes) : Properties :=
  let elements := model.getObjectInformation resource
  if elements.entries = [] then
    (OrderedMap.insert .empty .aff4Type [.ofType .aff4ImagestreamType]).insert .aff4Size [.ofLong 0]
  else elements

def lengthValue (values : List RDFValue) : U64 :=
  match values with
  | [] => 0
  | value :: _ =>
      if value.xsdType = .long then value.valueLong else value.valueInt.signExtend 64

/-- A count keeps its default when the property is missing or of another type. -/
def countValue (default : U32) (values : List RDFValue) : U32 :=
  match values with
  | [] => default
  | value :: _ =>
      match value.xsdType with
      | .long => value.valueLong.setWidth 32
      | .int => value.valueInt
      | .string =>
          match stoi 10 value.valueLiteral with
          | some count => BitVec.ofInt 32 count
          | none => default
      | _ => default

def codecValue (values : List RDFValue) : Option CompressionCodec :=
  match values with
  | [] => getCodec .aff4ImageCompressionStored
  | value :: _ =>
      if value.xsdType ≠ .resource then getCodecOf value.valueLiteral else getCodec value.rdfType

section Members

variable (model : Model) (resource : Bytes)

def lengthOf : U64 := lengthValue (getProperty (propertiesOf model resource) .aff4Size)

/-- Default: `AFF4_DEFAULT_CHUNK_SIZE` -/
def chunkSizeOf : U32 :=
  countValue 32768 (getProperty (propertiesOf model resource) .aff4StreamChunkSize)

/-- Default: `AFF4_DEFAULT_CHUNKS_PER_SEGMENT` -/
def chunksInSegmentOf : U32 :=
  countValue 2048 (getProperty (propertiesOf model resource) .aff4StreamChunksPerSegment)

def codecOf : Option CompressionCodec :=
  codecValue (getProperty (propertiesOf model resource) .aff4ImageCompression)

end Members

variable {World : Type}

/-- The constructor. `device` reads from the parent and decompresses with the codec; a stream
without a codec is closed at once. -/
def create (device : Option CompressionCodec → Device World) (model : Model) (resource : Bytes)
    (chunkCacheSize : U64) : Except (ReadFault World) (DeviceStream World) :=
  let length := lengthOf model resource
  let chunkSize := chunkSizeOf model resource
  let chunksInSegment := chunksInSegmentOf model resource
  match codecOf model resource with
  | none => .ok ⟨device none, 0, chunkSize, chunksInSegment, 0, true⟩
  | some codec =>
      if chunkSize = 0 then .error .divideByZero
      else
        let cacheSize := chunkCacheSize / chunkSize.setWidth 64
        .ok ⟨device (some codec), length, chunkSize, chunksInSegment, cacheSize, false⟩

def size (self : DeviceStream World) : U64 := self.length

/-! ## The codec of a stream -/

/-- `codec->decompress` on the buffers of the chunk loader. -/
def codecDecompress (libraries : Libraries) (codec : CompressionCodec) (source : Bytes)
    (destSize : Nat) : Decompressed where
  success := ¬codec.Failure libraries (memoryOf source) (BitVec.ofNat 64 source.length)
    (BitVec.ofNat 64 destSize)
  output := (codec.decompress libraries (some (memoryOf source)) (BitVec.ofNat 64 source.length)
    (some (memoryOf [])) (BitVec.ofNat 64 destSize)).written

/-- A container, read through a codec. A stream without one is never read. -/
def deviceWith (libraries : Libraries) (container : Device World) :
    Option CompressionCodec → Device World
  | none => container
  | some codec =>
      { container with
        decompress := fun source destSize world =>
          (codecDecompress libraries codec source destSize, world) }

theorem codecDecompress_null (libraries : Libraries) {source : Bytes} {destSize : Nat}
    (sourceFits : source.length < 2 ^ 64) (destFits : destSize < 2 ^ 64) :
    codecDecompress libraries .nullCompression source destSize =
      ⟨true, nullCompression source destSize⟩ := by
  have count : (stdMin (BitVec.ofNat 64 source.length) (BitVec.ofNat 64 destSize)).toNat =
      min source.length destSize := by
    rw [toNat_stdMin, BitVec.toNat_ofNat, BitVec.toNat_ofNat, Nat.mod_eq_of_lt sourceFits,
      Nat.mod_eq_of_lt destFits]
  have copied : firstCells (memoryOf source)
      (stdMin (BitVec.ofNat 64 source.length) (BitVec.ofNat 64 destSize)).toNat =
        source.take destSize := by
    rw [count, firstCells_memoryOf source (min_le_left _ _), min_comm, ← List.take_take,
      List.take_length]
  exact congrArg (Decompressed.mk true) copied

/-! ## Lookups without a fault -/

/-- Neither a division by zero nor an iterator behind the end of a cache. -/
def Harmless {Value : Type} (outcome : Except (ReadFault World) Value) : Prop :=
  ∀ fault, outcome = .error fault → ∃ event, fault = .notLoaded event

private theorem harmless_ok {Value : Type} (value : Value) :
    Harmless (.ok value : Except (ReadFault World) Value) := by
  intro fault failed
  cases failed

/-- What the divisions and the lookups rely on. -/
structure Usable (stream : DeviceStream World) : Prop where
  chunkSize : stream.chunkSize ≠ 0
  chunksInSegment : stream.chunksInSegment ≠ 0
  cacheSize : stream.cacheSize ≠ 0

structure InUse (stream : DeviceStream World) (state : DeviceState World) : Prop where
  cached : state.chunkCache.All fun _ value => Harmless value
  chunks : state.chunkCache.maxSize = stream.cacheSize
  indexes : state.bevvyIndexCache.maxSize = ImageStream.bevvyIndexCacheSize

variable {self : DeviceStream World}

private theorem fresh_inUse (self : DeviceStream World) (world : World) :
    self.InUse (self.fresh world) where
  cached := by
    intro item member
    cases member
  chunks := rfl
  indexes := rfl

private theorem loadPoint_harmless (self : DeviceStream World) (event : LoadEvent World) :
    Harmless (self.loadPoint event).1 := by
  rcases self.loadPoint_cases event with ⟨world, failed, _⟩ | ⟨buffer, world, loaded, _⟩
  · rw [failed]
    intro fault same
    cases same
    exact ⟨event, rfl⟩
  · rw [loaded]
    exact harmless_ok buffer

/-- The bevvy index cache is as large as it was made. -/
def Indexed (state : LoaderState World) : Prop :=
  state.1.maxSize = ImageStream.bevvyIndexCacheSize

private theorem loadChunk_harmless (usable : self.Usable) (key : U64) {state : LoaderState World}
    (indexed : Indexed state) :
    Harmless (self.loadChunk key state).1 ∧ Indexed (self.loadChunk key state).2 := by
  unfold loadChunk
  rw [if_neg (not_or.mpr ⟨usable.chunkSize, usable.chunksInSegment⟩)]
  dsimp only
  generalize (key / self.chunkSize.setWidth 64 / self.chunksInSegment.setWidth 64).setWidth 32 =
    bevvyID
  have capacity : 0 < state.1.maxSize.toNat := by
    rw [indexed]
    decide
  obtain ⟨⟨found, cache, world⟩, got⟩ : ∃ result, state.1.get bevvyID
      (fun world => some (self.device.loadIndex bevvyID world)) state.2 = some result :=
    Cache.get_total capacity ⟨_, rfl⟩
  have everything : state.1.All fun _ _ => True := fun _ _ => trivial
  have anywhere : (fun _ : World => True) state.2 := trivial
  have kept := Cache.get_preserves everything anywhere (fun _ _ _ => ⟨trivial, trivial⟩) got
  have same : Indexed (cache, world) := kept.2.2.1.trans indexed
  rw [got]
  cases found with
  | none => exact ⟨harmless_ok _, same⟩
  | some index =>
      dsimp only
      split
      · exact ⟨harmless_ok _, same⟩
      · exact ⟨loadPoint_harmless self _, same⟩

private theorem getChunk_harmless (usable : self.Usable) (key : U64) {state : DeviceState World}
    (inUse : self.InUse state) :
    Harmless (self.getChunk key state).1 ∧ self.InUse (self.getChunk key state).2 := by
  have capacity : 0 < state.chunkCache.maxSize.toNat := by
    rw [inUse.chunks]
    have nonzero := usable.cacheSize
    bv_omega
  have indexed : Indexed (state.bevvyIndexCache, state.world) := inUse.indexes
  obtain ⟨⟨found, cache, after⟩, got⟩ : ∃ result, state.chunkCache.get key
      (fun inner => some (self.loadChunk key inner)) (state.bevvyIndexCache, state.world) =
        some result :=
    Cache.get_total capacity ⟨_, rfl⟩
  have loads : ∀ loaded (inner : LoaderState World),
      some (self.loadChunk key (state.bevvyIndexCache, state.world)) = some (loaded, inner) →
        Harmless loaded ∧ Indexed inner := by
    intro loaded inner ran
    have here := loadChunk_harmless usable key indexed
    rwa [Option.some.inj ran] at here
  obtain ⟨harmless, cached, same, indexes⟩ := Cache.get_preserves inUse.cached indexed loads got
  unfold getChunk
  rw [got]
  exact ⟨harmless, cached, same.trans inUse.chunks, indexes⟩

def UsedTurn (self : DeviceStream World) :
    Turn (ReadState World) (Except (ReadFault World) (ReadEnd World)) → Prop
  | .next after => self.InUse after.state
  | .done (.ok finish) => self.InUse finish.state
  | .done (.error fault) => ∃ event, fault = .notLoaded event

private theorem readTurn_used (usable : self.Usable) {state : ReadState World}
    (inUse : self.InUse state.state) : self.UsedTurn (self.readTurn state) := by
  unfold readTurn
  split
  · rw [if_neg usable.chunkSize]
    obtain ⟨harmless, after⟩ := getChunk_harmless usable
      (state.offset / self.chunkSize.setWidth 64 * self.chunkSize.setWidth 64) inUse
    dsimp only
    cases got : self.getChunk (state.offset / self.chunkSize.setWidth 64 *
        self.chunkSize.setWidth 64) state.state with
    | mk found later =>
        rw [got] at harmless after
        cases found with
        | error fault => exact harmless fault rfl
        | ok entry =>
            dsimp only
            split
            · exact after
            · exact after
  · exact inUse

def UsedEnd (self : DeviceStream World) : Except (ReadFault World) (ReadEnd World) → Prop
  | .ok finish => self.InUse finish.state
  | .error fault => ∃ event, fault = .notLoaded event

private theorem read_used (usable : self.Usable) {state : DeviceState World}
    (inUse : self.InUse state)
    {memory : Nat → Cell} {count offset : U64} {outcome : Except (ReadFault World) (ReadEnd World)}
    (ran : self.read memory count offset state = some outcome) : self.UsedEnd outcome := by
  unfold read at ran
  split at ran
  · cases ran
    exact inUse
  · split at ran
    · cases ran
      exact inUse
    · obtain ⟨last, reached, left⟩ := Loop.run_reaches ran
      have invariant : self.InUse last.state := by
        refine reached.invariant (fun state => self.InUse state.state) inUse ?_
        intro before after held turned
        have turn := readTurn_used usable held
        rwa [turned] at turn
      have turn := readTurn_used usable invariant
      rw [left] at turn
      cases outcome with
      | error fault => exact turn
      | ok finish => exact turn

private theorem Reached.inUse (usable : self.Usable) {state : DeviceState World}
    (reached : self.Reached state) : self.InUse state := by
  induction reached with
  | fresh world => exact fresh_inUse self world
  | elsewhere world _ ih => exact ⟨ih.cached, ih.chunks, ih.indexes⟩
  | read _ ran ih => exact read_used usable ih ran

/-! ## Every read -/

/-- After any reads, every read ends without a division by zero, and finds what it looked up. -/
def Works (self : DeviceStream World) : Prop :=
  ∀ state, self.Reached state → ∀ memory count offset,
    ∃ outcome, self.read memory count offset state = some outcome ∧ Harmless outcome

private theorem works_of_usable (usable : self.Usable) : self.Works := by
  intro state reached memory count offset
  obtain ⟨outcome, ran⟩ := read_total reached memory count offset
  refine ⟨outcome, ran, ?_⟩
  intro fault failed
  subst failed
  exact read_used usable (reached.inUse usable) ran

private theorem works_of_closed (closed : self.closed = true) : self.Works := by
  intro state _ memory count offset
  refine ⟨.ok ⟨-1, memory, state, []⟩, ?_, harmless_ok _⟩
  rw [read, if_pos closed]

private theorem works_of_empty (isOpen : self.closed = false) (empty : self.length = 0) :
    self.Works := by
  intro state _ memory count offset
  unfold read
  rw [isOpen, if_neg Bool.false_ne_true, empty]
  by_cases behind : offset > 0
  · rw [if_pos behind]
    exact ⟨_, rfl, harmless_ok _⟩
  · have start : offset = 0 := by bv_omega
    subst start
    have nothing : truncateCount 0 0 count = 0 := by
      unfold truncateCount
      split <;> bv_omega
    rw [if_neg behind, nothing]
    exact ⟨_, rfl, harmless_ok _⟩

private theorem read_first (isOpen : self.closed = false) (nonzero : self.length ≠ 0)
    (divides : self.chunkSize ≠ 0) {world : World} {fault : ReadFault World}
    (failed : (self.getChunk 0 (self.fresh world)).1 = .error fault) (memory : Nat → Cell) :
    self.read memory 1 0 (self.fresh world) = some (.error fault) := by
  have whole : truncateCount self.length 0 1 = 1 := by
    unfold truncateCount
    rw [if_neg (by bv_omega)]
  have first : (0 : U64) / self.chunkSize.setWidth 64 * self.chunkSize.setWidth 64 = 0 := by
    simp
  unfold read
  rw [isOpen, if_neg Bool.false_ne_true, if_neg (by bv_omega), whole]
  refine Loop.run_done ?_ 1
  rw [readTurn, if_pos (show (1 : U64) > 0 by decide), if_neg divides]
  dsimp only
  rw [first]
  cases got : self.getChunk 0 (self.fresh world) with
  | mk found after =>
      rw [got] at failed
      dsimp only at failed
      subst failed
      rfl

private theorem getChunk_uncached (uncached : self.cacheSize = 0) (key : U64) (world : World) :
    (self.getChunk key (self.fresh world)).1 = .error .cacheEnd := by
  have lost : (self.fresh world).chunkCache.get key (fun inner => some (self.loadChunk key inner))
      ((self.fresh world).bevvyIndexCache, world) = none := by
    rw [fresh, uncached]
    exact Cache.get_empty_none rfl
  unfold getChunk
  rw [show (self.fresh world).world = world from rfl, lost]

private theorem getChunk_cached (cached : self.cacheSize ≠ 0) (key : U64) (world : World) :
    (self.getChunk key (self.fresh world)).1 =
      (self.loadChunk key ((self.fresh world).bevvyIndexCache, world)).1 := by
  obtain ⟨cache, got⟩ : ∃ cache, (Cache.empty self.cacheSize).get key
      (fun inner => some (self.loadChunk key inner)) ((self.fresh world).bevvyIndexCache, world) =
        some ((self.loadChunk key ((self.fresh world).bevvyIndexCache, world)).1, cache,
          (self.loadChunk key ((self.fresh world).bevvyIndexCache, world)).2) :=
    Cache.get_empty_some (by bv_omega) rfl
  unfold getChunk
  rw [show (self.fresh world).chunkCache = .empty self.cacheSize from rfl,
    show (self.fresh world).world = world from rfl, got]

private theorem loadChunk_undivided (undivided : self.chunksInSegment = 0) (key : U64)
    (state : LoaderState World) : (self.loadChunk key state).1 = .error .divideByZero := by
  rw [loadChunk, if_pos (.inr undivided)]

theorem Works.usable (works : self.Works) (isOpen : self.closed = false) (nonzero : self.length ≠ 0)
    (divides : self.chunkSize ≠ 0) (world : World) : self.Usable := by
  have harmless : ∀ fault, (self.getChunk 0 (self.fresh world)).1 = .error fault →
      ∃ event, fault = .notLoaded event := by
    intro fault failed
    have read := read_first isOpen nonzero divides failed fun _ => ⟨0, .uninitialised⟩
    obtain ⟨outcome, ran, ends⟩ := works _ (.fresh world) (fun _ => ⟨0, .uninitialised⟩) 1 0
    rw [read] at ran
    exact ends fault (Option.some.inj ran).symm
  have cached : self.cacheSize ≠ 0 := by
    intro uncached
    obtain ⟨event, same⟩ := harmless _ (getChunk_uncached uncached 0 world)
    cases same
  refine ⟨divides, ?_, cached⟩
  intro undivided
  obtain ⟨event, same⟩ := harmless .divideByZero
    ((getChunk_cached cached 0 world).trans (loadChunk_undivided undivided 0 _))
  cases same

/-! ## Descriptions -/

/-- A stream comes out of the constructor, and works. -/
def Safe (device : Option CompressionCodec → Device World) (model : Model) (resource : Bytes)
    (chunkCacheSize : U64) : Prop :=
  ∃ stream, create device model resource chunkCacheSize = .ok stream ∧ stream.Works

private theorem quotient_ne_zero {cacheSize : U64} {chunkSize : U32} (divides : chunkSize ≠ 0) :
    cacheSize / chunkSize.setWidth 64 ≠ 0 ↔ chunkSize.toNat ≤ cacheSize.toNat := by
  have positive : 0 < chunkSize.toNat := by bv_omega
  have quotient : (cacheSize / chunkSize.setWidth 64).toNat =
      cacheSize.toNat / chunkSize.toNat := by
    rw [BitVec.toNat_udiv, toNat_widen chunkSize (by decide)]
  have zero : cacheSize / chunkSize.setWidth 64 = 0 ↔ cacheSize.toNat / chunkSize.toNat = 0 := by
    rw [← quotient]
    exact BitVec.toNat_eq.trans Iff.rfl
  rw [ne_eq, zero, Nat.div_eq_zero_iff]
  omega

section

variable (device : Option CompressionCodec → Device World) {model : Model} {resource : Bytes}
  (chunkCacheSize : U64)

theorem create_rejected (rejected : codecOf model resource = none) :
    ∃ stream, create device model resource chunkCacheSize = .ok stream ∧ stream.closed = true ∧
      stream.length = 0 := by
  rw [create, rejected]
  exact ⟨_, rfl, rfl, rfl⟩

theorem create_undivided {codec : CompressionCodec} (known : codecOf model resource = some codec)
    (undivided : chunkSizeOf model resource = 0) :
    create device model resource chunkCacheSize = .error .divideByZero := by
  rw [create, known]
  exact if_pos undivided

theorem create_known {codec : CompressionCodec} (known : codecOf model resource = some codec)
    (divides : chunkSizeOf model resource ≠ 0) :
    create device model resource chunkCacheSize =
      .ok ⟨device (some codec), lengthOf model resource, chunkSizeOf model resource,
        chunksInSegmentOf model resource,
        chunkCacheSize / (chunkSizeOf model resource).setWidth 64, false⟩ := by
  rw [create, known]
  exact if_neg divides

end

/-- Whatever the setter was called with, a stream is safe exactly when it is rejected because of
its codec, or its chunks are not empty and it is empty itself or has chunks in its segments, and
chunks that fit the cache. -/
theorem create_safe_iff (device : Option CompressionCodec → Device World) (world : World)
    (model : Model) (resource : Bytes) (sizes : List U64) :
    Safe device model resource (chunkCacheSizeAfter sizes) ↔
      codecOf model resource = none ∨
        chunkSizeOf model resource ≠ 0 ∧ (lengthOf model resource = 0 ∨
          chunksInSegmentOf model resource ≠ 0 ∧
            (chunkSizeOf model resource).toNat ≤ (chunkCacheSizeAfter sizes).toNat) := by
  unfold Safe
  cases codec : codecOf model resource with
  | none =>
      obtain ⟨stream, created, closed, _⟩ :=
        create_rejected device (chunkCacheSizeAfter sizes) codec
      exact ⟨fun _ => .inl rfl, fun _ => ⟨stream, created, works_of_closed closed⟩⟩
  | some codec' =>
      by_cases divides : chunkSizeOf model resource = 0
      · rw [create_undivided device (chunkCacheSizeAfter sizes) codec divides]
        constructor
        · rintro ⟨stream, created, _⟩
          cases created
        · rintro (rejected | ⟨nonzero, _⟩)
          · cases rejected
          · exact absurd divides nonzero
      · rw [create_known device (chunkCacheSizeAfter sizes) codec divides]
        have fits : chunkCacheSizeAfter sizes / (chunkSizeOf model resource).setWidth 64 ≠ 0 ↔
            (chunkSizeOf model resource).toNat ≤ (chunkCacheSizeAfter sizes).toNat :=
          quotient_ne_zero divides
        constructor
        · rintro ⟨stream, created, works⟩
          cases created
          refine .inr ⟨divides, ?_⟩
          by_cases empty : lengthOf model resource = 0
          · exact .inl empty
          · have usable := works.usable rfl empty divides world
            exact .inr ⟨usable.chunksInSegment, fits.mp usable.cacheSize⟩
        · rintro (rejected | ⟨_, empty | ⟨segments, small⟩⟩)
          · cases rejected
          · exact ⟨_, rfl, works_of_empty rfl empty⟩
          · exact ⟨_, rfl, works_of_usable ⟨divides, segments, fits.mpr small⟩⟩

def streamName : CString := ⟨text "aff4://s", by decide⟩

def integerStatement (property : CString) (string : Bytes) : RaptorStatement :=
  ⟨.uri streamName, .uri property,
    .literal (some ⟨xsdPrefix ++ text "int", by decide⟩) string⟩

def sizeProperty : CString := ⟨baseUri ++ text "size", by decide⟩

def chunkSizeProperty : CString := ⟨baseUri ++ text "chunkSize", by decide⟩

/-- A stream of one byte with chunks of the given size. -/
def chunkModel (chunkSize : Bytes) : Model :=
  Model.parse (Model.typedLiteral fun _ => false)
    [integerStatement sizeProperty (text "1"), integerStatement chunkSizeProperty chunkSize]

private theorem chunkModel_zero :
    codecOf (chunkModel (text "0")) (text "aff4://s") = some .nullCompression ∧
      chunkSizeOf (chunkModel (text "0")) (text "aff4://s") = 0 := by
  decide +kernel

private theorem chunkModel_large :
    codecOf (chunkModel (text "16777216")) (text "aff4://s") = some .nullCompression ∧
      chunkSizeOf (chunkModel (text "16777216")) (text "aff4://s") = 16777216 ∧
      lengthOf (chunkModel (text "16777216")) (text "aff4://s") = 1 := by
  decide +kernel

def anyDevice : Option CompressionCodec → Device Unit :=
  deviceWith CompressionCodec.literalLibraries damagedStream.device

/-- With a chunk size of 0 the constructor divides by zero; with one of 16 MiB the first read does
not find the chunk that it has loaded. -/
theorem unusable_chunks_accepted :
    (create anyDevice (chunkModel (text "0")) (text "aff4://s") (chunkCacheSizeAfter []) =
        .error .divideByZero ∧
      ¬Safe anyDevice (chunkModel (text "0")) (text "aff4://s") (chunkCacheSizeAfter [])) ∧
    ¬Safe anyDevice (chunkModel (text "16777216")) (text "aff4://s") (chunkCacheSizeAfter []) := by
  obtain ⟨known, undivided⟩ := chunkModel_zero
  obtain ⟨knownToo, size, length⟩ := chunkModel_large
  have divides : chunkSizeOf (chunkModel (text "16777216")) (text "aff4://s") ≠ 0 := by
    rw [size]
    decide
  have nonzero : lengthOf (chunkModel (text "16777216")) (text "aff4://s") ≠ 0 := by
    rw [length]
    decide
  have uncached : chunkCacheSizeAfter [] /
      (chunkSizeOf (chunkModel (text "16777216")) (text "aff4://s")).setWidth 64 = 0 := by
    rw [size]
    decide
  have fault := create_undivided anyDevice (chunkCacheSizeAfter []) known undivided
  have accepted := create_known anyDevice (chunkCacheSizeAfter []) knownToo divides
  refine ⟨⟨fault, ?_⟩, ?_⟩
  · rintro ⟨stream, created, _⟩
    rw [fault] at created
    cases created
  · rintro ⟨stream, created, works⟩
    rw [accepted] at created
    cases created
    exact (works.usable rfl nonzero divides ()).cacheSize uncached

end DeviceStream

end Aff4Lite.Stream
