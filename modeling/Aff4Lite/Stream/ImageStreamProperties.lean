import Aff4Lite.Stream.ImageStream

/-!
What an image stream reads. A cached value is always what its loader makes for the key, so
the caches never show in the result; the chunk of a key below the length is the one that
the index of its bevvy describes.
-/

set_option autoImplicit false

namespace Aff4Lite.Stream.ImageStream

open Lib Zip Containers Utils

/-! ## Chunks -/

def bevvyName (self : ImageStream) (bevvy : Nat) : Bytes :=
  self.resource ++ text "/" ++ padded 8 bevvy

/-- `chunk` is described by its point in the index of its bevvy, whose data start at
`dataOffset`. The index fits the buffer of whole points that it is read into. -/
structure Describes (stream : ImageStream) (chunk : Nat) (dataOffset : U64)
    (point : ImageStreamPoint) : Prop where
  data : ∃ zipEntry, stream.container.getSegmentEntry
      (stream.bevvyName (chunk / stream.chunksInSegment.toNat)) = some zipEntry ∧
    zipEntry.offset = dataOffset
  index : ∃ segment, stream.container.getSegment
      (stream.bevvyName (chunk / stream.chunksInSegment.toNat) ++ text ".index") = some segment ∧
    ∀ scratch,
      let bytes := (readSegment stream.container.inflate stream.container.file segment scratch
        segment.length 0).bytes
      PartAt bytes (ImageStreamPoint.sizeof * (chunk % stream.chunksInSegment.toNat))
          point.toBytes ∧
        bytes.length ≤ ImageStreamPoint.sizeof * (segment.length.toNat / ImageStreamPoint.sizeof)

/-- The bytes of a chunk: those of the container when they are as many as a chunk has, and
otherwise what the codec makes of them. -/
def chunkBytes (self : ImageStream) (dataOffset : U64) (point : ImageStreamPoint) : Bytes :=
  let raw := slice self.container.file.content (dataOffset + point.offset).toNat
    point.length.toNat
  if point.length = self.chunkSize then raw else self.codec raw self.chunkSize.toNat

/-- The chunk can be loaded, as far as the stream reaches. -/
structure Loadable (stream : ImageStream) (chunk : Nat) (dataOffset : U64)
    (point : ImageStreamPoint) : Prop where
  describes : stream.Describes chunk dataOffset point
  nonempty : point.length ≠ 0
  inside : (dataOffset + point.offset).toNat + point.length.toNat ≤
    stream.container.file.content.length
  covers : min stream.chunkSize.toNat (stream.length.toNat - chunk * stream.chunkSize.toNat) ≤
    (stream.chunkBytes dataOffset point).length

/-- Every chunk of the stream can be loaded, from a bevvy whose number has 8 digits. -/
def AllLoadable (self : ImageStream) (chunks : Nat → U64 × ImageStreamPoint) : Prop :=
  ∀ chunk, chunk * self.chunkSize.toNat < self.length.toNat →
    chunk / self.chunksInSegment.toNat < 10 ^ 8 ∧
      self.Loadable chunk (chunks chunk).1 (chunks chunk).2

/-! ## The bevvy index -/

def GoodIndex (self : ImageStream) (bevvyID : U32) (index : BevvyIndex) : Prop :=
  ∃ heap decompbuffer, index = .create self.container self.resource bevvyID heap decompbuffer

private theorem bevvyName_eq (self : ImageStream) {bevvyID : U32} (small : bevvyID.toNat < 10 ^ 8) :
    self.bevvyName bevvyID.toNat = self.resource ++ text "/" ++ bevvyText bevvyID := by
  rw [bevvyText_of_lt small]
  rfl

/-- The index of a described chunk is made without a fault. -/
theorem Describes.not_overruns {self : ImageStream} {chunk : Nat} {dataOffset : U64}
    {point : ImageStreamPoint} (describes : self.Describes chunk dataOffset point) {bevvyID : U32}
    (bevvy : bevvyID.toNat = chunk / self.chunksInSegment.toNat) (small : bevvyID.toNat < 10 ^ 8)
    (scratch : Nat → UInt8) :
    ¬BevvyIndex.overruns self.container self.resource bevvyID scratch := by
  obtain ⟨⟨zipEntry, entryFound, _⟩, stream, streamFound, stands⟩ := describes
  rw [← bevvy, self.bevvyName_eq small] at entryFound streamFound
  rw [BevvyIndex.overruns_found entryFound streamFound]
  exact Nat.not_lt.mpr (stands scratch).2

theorem GoodIndex.point {self : ImageStream} {bevvyID : U32} {index : BevvyIndex}
    (good : self.GoodIndex bevvyID index) {chunk : Nat} {dataOffset : U64}
    {point : ImageStreamPoint} (describes : self.Describes chunk dataOffset point)
    (bevvy : bevvyID.toNat = chunk / self.chunksInSegment.toNat) (small : bevvyID.toNat < 10 ^ 8)
    {chunkID : U32} (place : chunkID.toNat = chunk % self.chunksInSegment.toNat) :
    index.dataChunkOffset = dataOffset ∧ index.getPoint chunkID = point := by
  obtain ⟨heap, decompbuffer, rfl⟩ := good
  obtain ⟨⟨zipEntry, entryFound, rfl⟩, stream, streamFound, stands⟩ := describes
  have stands := (stands decompbuffer).1
  have inside := stands.inside (List.ne_nil_of_length_pos (by
    rw [ImageStreamPoint.length_toBytes]
    decide))
  have bounded := length_readSegment_le self.container.inflate self.container.file stream
    decompbuffer
  rw [← place] at stands
  rw [ImageStreamPoint.length_toBytes, ← place] at inside
  unfold ImageStreamPoint.sizeof at inside
  rw [← bevvy, self.bevvyName_eq small] at entryFound streamFound
  have entries : (stream.length / BitVec.ofNat 64 ImageStreamPoint.sizeof).toNat =
      stream.length.toNat / 12 := by
    rw [BitVec.toNat_udiv]
    rfl
  rw [BevvyIndex.create_found entryFound streamFound (by bv_omega)]
  exact ⟨rfl, BevvyIndex.getPoint_of_partAt stands (by omega)⟩

/-! ## Loading a chunk -/

theorem readChunk_slice (file : File) {fuel : Nat} {toRead : U64}
    (representable : toRead.toNat < 2 ^ 63) (enough : toRead.toNat ≤ fuel) (chunkOffset : U64) :
    readChunk file fuel toRead chunkOffset =
      slice file.content chunkOffset.toNat toRead.toNat := by
  induction fuel generalizing toRead chunkOffset with
  | zero =>
      have nothing : toRead.toNat = 0 := Nat.le_zero.mp enough
      rw [nothing, slice_zero]
      rfl
  | succ fuel ih =>
      have small := file.small
      unfold readChunk
      by_cases more : toRead > 0
      · have transfer : 0 < maxTransfer := by decide
        have read : (fileRead file toRead chunkOffset).bytes =
            slice file.content chunkOffset.toNat (min toRead.toNat maxTransfer) :=
          congrArg ReadResult.bytes (fileRead_slice file representable chunkOffset)
        have length : (fileRead file toRead chunkOffset).bytes.length =
            min (min toRead.toNat maxTransfer) (file.content.length - chunkOffset.toNat) := by
          rw [read, length_slice]
        rw [if_pos more]
        dsimp only
        by_cases behind : file.content.length ≤ chunkOffset.toNat
        · rw [length, if_pos (by bv_omega), slice_of_length_le behind]
        · rw [if_neg (by bv_omega)]
          have part : (fileRead file toRead chunkOffset).bytes =
              slice file.content chunkOffset.toNat
                (fileRead file toRead chunkOffset).bytes.length := by
            rw [length, slice_truncate, read]
          have after : (chunkOffset + BitVec.ofNat 64
              (fileRead file toRead chunkOffset).bytes.length).toNat =
              chunkOffset.toNat + (fileRead file toRead chunkOffset).bytes.length := by
            bv_omega
          have left : (toRead - BitVec.ofNat 64
              (fileRead file toRead chunkOffset).bytes.length).toNat =
              toRead.toNat - (fileRead file toRead chunkOffset).bytes.length := by
            bv_omega
          rw [ih (by omega) (by omega), after, left]
          nth_rewrite 1 [part]
          rw [← slice_add, Nat.add_sub_cancel' (by omega)]
      · have nothing : toRead.toNat = 0 := by bv_omega
        rw [if_neg more, nothing, slice_zero]

/-- What a cached buffer has to be for its key: below the length of the stream, the chunk
of the key, as far as the stream reaches. -/
def GoodChunk (self : ImageStream) (chunks : Nat → U64 × ImageStreamPoint) (key : U64)
    (buffer : CacheBuffer) : Prop :=
  ∀ chunk, key.toNat = chunk * self.chunkSize.toNat → key < self.length →
    buffer.size = self.chunkSize ∧
      ∀ index, index < self.chunkSize.toNat → key.toNat + index < self.length.toNat →
        (self.chunkBytes (chunks chunk).1 (chunks chunk).2)[index]? = some (buffer.bytes index)

/-- Stored or decompressed, a fresh buffer gets the bytes of the chunk. -/
theorem loadPoint_fills (self : ImageStream) (heap : Nat → Nat → UInt8) {dataOffset : U64}
    {point : ImageStreamPoint}
    (inside : (dataOffset + point.offset).toNat + point.length.toNat ≤
      self.container.file.content.length) (allocations : Nat) :
    ∃ place, (self.loadPoint heap dataOffset point allocations).1 =
      ⟨store (heap place) 0 (self.chunkBytes dataOffset point), self.chunkSize⟩ := by
  have wide := toNat_widen point.length (by decide : 32 ≤ 64)
  have sizeWide := toNat_widen self.chunkSize (by decide : 32 ≤ 64)
  have length := length_slice_of_le inside
  have raw : readChunk self.container.file (point.length.setWidth 64).toNat
      (point.length.setWidth 64) (dataOffset + point.offset) =
      slice self.container.file.content (dataOffset + point.offset).toNat point.length.toNat := by
    rw [readChunk_slice self.container.file (by rw [wide]; omega) le_rfl, wide]
  have sizes : point.length.setWidth 64 ≠ self.chunkSize.setWidth 64 ↔
      ¬point.length = self.chunkSize := by
    bv_omega
  unfold loadPoint chunkBytes
  dsimp only
  rw [raw, wide]
  generalize slice self.container.file.content (dataOffset + point.offset).toNat
    point.length.toNat = content at length ⊢
  by_cases whole : point.length = self.chunkSize
  · rw [if_neg fun differ => sizes.mp differ whole, if_pos whole]
    exact ⟨allocations, rfl⟩
  · have source := firstCells_store (heap allocations) content
    rw [length] at source
    rw [if_pos (sizes.mpr whole), if_neg whole, source]
    exact ⟨allocations + 1, rfl⟩

/-- What the bevvy index cache holds between two loads. -/
structure LoaderGood (stream : ImageStream) (state : LoaderState) : Prop where
  indexes : state.bevvyIndexCache.All stream.GoodIndex
  maxSize : state.bevvyIndexCache.maxSize = bevvyIndexCacheSize

section Load

variable {self : ImageStream} {heap : Nat → Nat → UInt8} {chunks : Nat → U64 × ImageStreamPoint}
  {key : U64} {state : LoaderState}

/-- The bevvy of a key, and the place of its chunk there. -/
theorem bevvy_of_key (chunkSize : self.chunkSize ≠ 0) (chunksInSegment : self.chunksInSegment ≠ 0)
    {chunk : Nat} (small : chunk / self.chunksInSegment.toNat < 10 ^ 8)
    (place : key.toNat = chunk * self.chunkSize.toNat) :
    ((key / self.chunkSize.setWidth 64 / self.chunksInSegment.setWidth 64).setWidth 32).toNat =
        chunk / self.chunksInSegment.toNat ∧
      ((key / self.chunkSize.setWidth 64 % self.chunksInSegment.setWidth 64).setWidth 32).toNat =
        chunk % self.chunksInSegment.toNat := by
  have sizePositive : 0 < self.chunkSize.toNat := by bv_omega
  have segmentPositive : 0 < self.chunksInSegment.toNat := by bv_omega
  have quotient : (key / self.chunkSize.setWidth 64).toNat = chunk := by
    rw [BitVec.toNat_udiv, toNat_widen self.chunkSize (by decide), place,
      Nat.mul_div_cancel chunk sizePositive]
  constructor
  · rw [BitVec.toNat_setWidth, BitVec.toNat_udiv, toNat_widen self.chunksInSegment (by decide),
      quotient, Nat.mod_eq_of_lt (lt_trans small (by decide))]
  · rw [BitVec.toNat_setWidth, BitVec.toNat_umod, toNat_widen self.chunksInSegment (by decide),
      quotient]
    exact Nat.mod_eq_of_lt (lt_trans (Nat.mod_lt _ segmentPositive) self.chunksInSegment.isLt)

private theorem GoodIndex.chunkPoint (chunkSize : self.chunkSize ≠ 0)
    (chunksInSegment : self.chunksInSegment ≠ 0) {chunk : Nat} {dataOffset : U64}
    {point : ImageStreamPoint} (describes : self.Describes chunk dataOffset point)
    (small : chunk / self.chunksInSegment.toNat < 10 ^ 8)
    (place : key.toNat = chunk * self.chunkSize.toNat) {index : BevvyIndex}
    (good : self.GoodIndex ((key / self.chunkSize.setWidth 64 /
      self.chunksInSegment.setWidth 64).setWidth 32) index) :
    index.dataChunkOffset = dataOffset ∧ index.getPoint ((key / self.chunkSize.setWidth 64 %
      self.chunksInSegment.setWidth 64).setWidth 32) = point := by
  obtain ⟨bevvy, position⟩ := bevvy_of_key chunkSize chunksInSegment small place
  exact good.point describes bevvy (bevvy ▸ small) position

private theorem goodChunk_loadPoint (allLoadable : self.AllLoadable chunks) (allocations : Nat)
    {chunk : Nat} (place : key.toNat = chunk * self.chunkSize.toNat) (below : key < self.length)
    {buffer : CacheBuffer}
    (loaded : (self.loadPoint heap (chunks chunk).1 (chunks chunk).2 allocations).1 = buffer) :
    buffer.size = self.chunkSize ∧
      ∀ index, index < self.chunkSize.toNat → key.toNat + index < self.length.toNat →
        (self.chunkBytes (chunks chunk).1 (chunks chunk).2)[index]? =
          some (buffer.bytes index) := by
  obtain ⟨_, _, _, inside, covers⟩ := allLoadable chunk (by bv_omega)
  obtain ⟨fresh, filled⟩ := self.loadPoint_fills heap inside allocations
  rw [← loaded, filled]
  refine ⟨rfl, ?_⟩
  intro index within reaches
  have found := List.getElem?_eq_getElem (show index <
    (self.chunkBytes (chunks chunk).1 (chunks chunk).2).length by omega)
  have stored := store_inside (heap fresh) 0 found
  rw [Nat.zero_add] at stored
  rw [found]
  exact congrArg some stored.symm

private theorem goodIndex_loadBevvyIndex {bevvyID : U32} {allocations after : Nat}
    {index : BevvyIndex}
    (ran : self.loadBevvyIndex heap bevvyID allocations = some (index, after)) :
    self.GoodIndex bevvyID index := by
  unfold loadBevvyIndex at ran
  split at ran
  · cases ran
  · cases ran
    exact ⟨_, _, rfl⟩

theorem loadChunk_good (chunkSize : self.chunkSize ≠ 0) (chunksInSegment : self.chunksInSegment ≠ 0)
    (allLoadable : self.AllLoadable chunks) (good : self.LoaderGood state)
    {loaded : CacheBuffer} {after : LoaderState}
    (ran : self.loadChunk heap key state = some (loaded, after)) :
    self.GoodChunk chunks key loaded ∧ self.LoaderGood after := by
  unfold loadChunk at ran
  dsimp only at ran
  cases got : state.bevvyIndexCache.get
      ((key / self.chunkSize.setWidth 64 / self.chunksInSegment.setWidth 64).setWidth 32)
      (self.loadBevvyIndex heap
        ((key / self.chunkSize.setWidth 64 / self.chunksInSegment.setWidth 64).setWidth 32))
      state.allocations with
  | none =>
      rw [got] at ran
      cases ran
  | some result =>
      obtain ⟨index, bevvyIndexCache, allocations⟩ := result
      obtain ⟨goodIndex, indexes, maxSize, _⟩ := Cache.get_preserves good.indexes
        (show (fun _ : Nat => True) state.allocations from trivial)
        (fun _ _ made => ⟨goodIndex_loadBevvyIndex made, trivial⟩) got
      have kept : ∀ count, self.LoaderGood ⟨bevvyIndexCache, count⟩ :=
        fun _ => ⟨indexes, maxSize.trans good.maxSize⟩
      have point : ∀ chunk, key.toNat = chunk * self.chunkSize.toNat → key < self.length →
          index.dataChunkOffset = (chunks chunk).1 ∧
            index.getPoint ((key / self.chunkSize.setWidth 64 %
              self.chunksInSegment.setWidth 64).setWidth 32) = (chunks chunk).2 := by
        intro chunk place below
        obtain ⟨small, loadable⟩ := allLoadable chunk (by bv_omega)
        exact goodIndex.chunkPoint chunkSize chunksInSegment loadable.describes small place
      rw [got] at ran
      dsimp only at ran
      split at ran
      · rename_i empty
        cases ran
        refine ⟨?_, kept _⟩
        intro chunk place below
        obtain ⟨_, loadable⟩ := allLoadable chunk (by bv_omega)
        rw [(point chunk place below).2] at empty
        exact absurd empty loadable.nonempty
      · cases ran
        refine ⟨?_, kept _⟩
        intro chunk place below
        obtain ⟨dataOffset, found⟩ := point chunk place below
        exact goodChunk_loadPoint allLoadable allocations place below
          (by rw [dataOffset, found])

theorem loadChunk_total (heap : Nat → Nat → UInt8) (chunkSize : self.chunkSize ≠ 0)
    (chunksInSegment : self.chunksInSegment ≠ 0) (allLoadable : self.AllLoadable chunks)
    (good : self.LoaderGood state) {chunk : Nat} (place : key.toNat = chunk * self.chunkSize.toNat)
    (below : key < self.length) :
    ∃ loaded, self.loadChunk heap key state = some loaded := by
  have room : 0 < state.bevvyIndexCache.maxSize.toNat := by
    rw [good.maxSize]
    decide
  obtain ⟨small, loadable⟩ := allLoadable chunk (by bv_omega)
  obtain ⟨bevvy, _⟩ := bevvy_of_key chunkSize chunksInSegment small place
  have index : ∃ index, self.loadBevvyIndex heap ((key / self.chunkSize.setWidth 64 /
      self.chunksInSegment.setWidth 64).setWidth 32) state.allocations = some index :=
    ⟨_, if_neg (loadable.describes.not_overruns bevvy (bevvy ▸ small) _)⟩
  obtain ⟨result, got⟩ := Cache.get_total room index
  unfold loadChunk
  dsimp only
  rw [got]
  dsimp only
  split
  · exact ⟨_, rfl⟩
  · exact ⟨_, rfl⟩

end Load

/-! ## Reading -/

def addressByte (self : ImageStream) (chunks : Nat → U64 × ImageStreamPoint) (address : Nat) :
    Option UInt8 :=
  (self.chunkBytes (chunks (address / self.chunkSize.toNat)).1
    (chunks (address / self.chunkSize.toNat)).2)[address % self.chunkSize.toNat]?

/-- What both caches hold between two reads. -/
structure Sound (stream : ImageStream) (chunks : Nat → U64 × ImageStreamPoint)
    (caches : ImageState) : Prop where
  buffers : caches.chunkCache.All (stream.GoodChunk chunks)
  maxSize : caches.chunkCache.maxSize = stream.cacheSize
  loader : stream.LoaderGood caches.loader

theorem fresh_sound (self : ImageStream) (chunks : Nat → U64 × ImageStreamPoint) :
    self.Sound chunks self.fresh where
  buffers := by
    intro item member
    cases member
  maxSize := rfl
  loader := by
    refine ⟨?_, rfl⟩
    intro item member
    cases member

/-- The states of the caches after the reads of a program. -/
inductive Reached (self : ImageStream) (heap : Nat → Nat → UInt8) : ImageState → Prop where
  | fresh : Reached self heap self.fresh
  | read {caches : ImageState} {memory : Buffer} {count offset : U64} {fuel : Nat}
      {result : ReadEnd} : Reached self heap caches →
      self.read heap memory count offset caches fuel = some (some result) →
      Reached self heap result.caches

section Read

variable {self : ImageStream} {heap : Nat → Nat → UInt8} {chunks : Nat → U64 × ImageStreamPoint}

theorem Sound.get (chunkSize : self.chunkSize ≠ 0) (chunksInSegment : self.chunksInSegment ≠ 0)
    (allLoadable : self.AllLoadable chunks) {caches : ImageState} (sound : self.Sound chunks caches)
    {key : U64} {entry : CacheBuffer} {chunkCache : Cache U64 CacheBuffer} {loader : LoaderState}
    (got : caches.chunkCache.get key (self.loadChunk heap key) caches.loader =
      some (entry, chunkCache, loader)) :
    self.GoodChunk chunks key entry ∧ self.Sound chunks ⟨chunkCache, loader⟩ := by
  obtain ⟨buffers, size, good⟩ := sound
  obtain ⟨fits, kept, maxSize, after⟩ := Cache.get_preserves buffers good
    (fun _ _ ran => loadChunk_good chunkSize chunksInSegment allLoadable good ran) got
  exact ⟨fits, kept, maxSize.trans size, after⟩

theorem readTurn_cases (self : ImageStream) (heap : Nat → Nat → UInt8) (state : ReadState) :
    (¬state.leftToRead > 0 ∧ self.readTurn heap state =
      .done (some ⟨state.actualRead.toInt, state.memory, state.caches⟩)) ∨
    (state.leftToRead > 0 ∧
      let chunkOffset := state.offset / self.chunkSize.setWidth 64 * self.chunkSize.setWidth 64
      let got := state.caches.chunkCache.get chunkOffset (self.loadChunk heap chunkOffset)
        state.caches.loader
      (got = none ∧ self.readTurn heap state = .done none) ∨
        ∃ entry chunkCache loader, got = some (entry, chunkCache, loader) ∧
          ((entry.size = 0 ∧
              self.readTurn heap state = .done (some ⟨-1, state.memory, ⟨chunkCache, loader⟩⟩)) ∨
            (entry.size ≠ 0 ∧ self.readTurn heap state =
              .next (copyChunk state chunkOffset entry ⟨chunkCache, loader⟩)))) := by
  by_cases unfinished : state.leftToRead > 0
  · refine .inr ⟨unfinished, ?_⟩
    unfold readTurn
    rw [if_pos unfinished]
    dsimp only
    cases state.caches.chunkCache.get (state.offset / self.chunkSize.setWidth 64 *
        self.chunkSize.setWidth 64) (self.loadChunk heap (state.offset /
          self.chunkSize.setWidth 64 * self.chunkSize.setWidth 64)) state.caches.loader with
    | none => exact .inl ⟨rfl, rfl⟩
    | some found =>
        refine .inr ⟨found.1, found.2.1, found.2.2, rfl, ?_⟩
        by_cases failed : found.1.size = 0
        · exact .inl ⟨failed, if_pos failed⟩
        · exact .inr ⟨failed, if_neg failed⟩
  · exact .inl ⟨unfinished, if_neg unfinished⟩

private theorem readTurn_sound (chunkSize : self.chunkSize ≠ 0)
    (chunksInSegment : self.chunksInSegment ≠ 0) (allLoadable : self.AllLoadable chunks)
    {state : ReadState} (sound : self.Sound chunks state.caches) :
    (∀ after, self.readTurn heap state = .next after → self.Sound chunks after.caches) ∧
      ∀ result, self.readTurn heap state = .done (some result) →
        self.Sound chunks result.caches := by
  rcases self.readTurn_cases heap state with ⟨_, turned⟩ | ⟨_, ⟨_, turned⟩ |
    ⟨entry, chunkCache, loader, got, ⟨_, turned⟩ | ⟨_, turned⟩⟩⟩
  · simpa [turned] using sound
  · simp [turned]
  · simpa [turned] using (sound.get chunkSize chunksInSegment allLoadable got).2
  · simpa [turned, copyChunk] using (sound.get chunkSize chunksInSegment allLoadable got).2

theorem read_sound (chunkSize : self.chunkSize ≠ 0) (chunksInSegment : self.chunksInSegment ≠ 0)
    (allLoadable : self.AllLoadable chunks) {memory : Buffer} {count offset : U64}
    {caches : ImageState} (sound : self.Sound chunks caches) {fuel : Nat} {result : ReadEnd}
    (ran : self.read heap memory count offset caches fuel = some (some result)) :
    self.Sound chunks result.caches := by
  unfold read at ran
  split at ran
  · cases ran
    exact sound
  split at ran
  · cases ran
    exact sound
  · obtain ⟨last, reached, left⟩ := Loop.run_reaches ran
    have held := reached.invariant (fun state => self.Sound chunks state.caches) sound
      fun before after holds moved =>
        (readTurn_sound chunkSize chunksInSegment allLoadable holds).1 after moved
    exact (readTurn_sound chunkSize chunksInSegment allLoadable held).2 result left

theorem Reached.sound (chunkSize : self.chunkSize ≠ 0) (chunksInSegment : self.chunksInSegment ≠ 0)
    (allLoadable : self.AllLoadable chunks) {caches : ImageState}
    (reached : Reached self heap caches) : self.Sound chunks caches := by
  induction reached with
  | fresh => exact self.fresh_sound chunks
  | read _ ran ih => exact read_sound chunkSize chunksInSegment allLoadable ih ran

end Read

end Aff4Lite.Stream.ImageStream
