import Aff4Lite.Stream.ImageStreamProperties

/-!
The bytes that a read of an image stream delivers, after any earlier reads.
-/

set_option autoImplicit false

namespace Aff4Lite.Stream.ImageStream

open Lib Zip Containers Utils

theorem toNat_chunkOffset (offset : U64) (chunkSize : U32) :
    (offset / chunkSize.setWidth 64 * chunkSize.setWidth 64).toNat =
        offset.toNat / chunkSize.toNat * chunkSize.toNat ∧
      (offset - offset / chunkSize.setWidth 64 * chunkSize.setWidth 64).toNat =
        offset.toNat % chunkSize.toNat := by
  have wide := toNat_widen chunkSize (by decide : 32 ≤ 64)
  have parts := Nat.div_add_mod offset.toNat chunkSize.toNat
  rw [Nat.mul_comm] at parts
  have start : (offset / chunkSize.setWidth 64 * chunkSize.setWidth 64).toNat =
      offset.toNat / chunkSize.toNat * chunkSize.toNat := by
    rw [BitVec.toNat_mul, BitVec.toNat_udiv, wide, Nat.mod_eq_of_lt]
    have small := offset.isLt
    omega
  refine ⟨start, ?_⟩
  rw [toNat_sub_of_le (by omega), start]
  omega

/-- The read loop has delivered the first `state.buffer` of `total` bytes. -/
structure Delivers (stream : ImageStream) (chunks : Nat → U64 × ImageStreamPoint) (start : U64)
    (total : Nat) (state : ReadState) : Prop where
  sound : stream.Sound chunks state.caches
  left : state.buffer + state.leftToRead.toNat = total
  actual : state.actualRead.toNat = state.buffer
  position : state.offset.toNat = start.toNat + state.buffer
  bytes : ∀ index, index < state.buffer →
    stream.addressByte chunks (start.toNat + index) = some (state.memory.bytes index)

section Read

variable {self : ImageStream} {heap : Nat → Nat → UInt8} {chunks : Nat → U64 × ImageStreamPoint}

private theorem readTurn_copies (chunkSize : self.chunkSize ≠ 0)
    (chunksInSegment : self.chunksInSegment ≠ 0) (capacity : self.cacheSize ≠ 0)
    (allLoadable : self.AllLoadable chunks) {state : ReadState}
    (sound : self.Sound chunks state.caches) (unfinished : state.leftToRead > 0)
    (below : state.offset < self.length) :
    ∃ entry caches, self.readTurn heap state = .next (copyChunk state
        (state.offset / self.chunkSize.setWidth 64 * self.chunkSize.setWidth 64) entry caches) ∧
      self.Sound chunks caches ∧ entry.size = self.chunkSize ∧
      ∀ step, state.offset.toNat % self.chunkSize.toNat + step < self.chunkSize.toNat →
        state.offset.toNat + step < self.length.toNat →
          self.addressByte chunks (state.offset.toNat + step) =
            some (entry.bytes (state.offset.toNat % self.chunkSize.toNat + step)) := by
  have room : 0 < state.caches.chunkCache.maxSize.toNat := by
    rw [sound.maxSize]
    bv_omega
  obtain ⟨start, _⟩ := toNat_chunkOffset state.offset self.chunkSize
  have parts := Nat.div_add_mod state.offset.toNat self.chunkSize.toNat
  rw [Nat.mul_comm] at parts
  obtain ⟨result, loaded⟩ := Cache.get_total room
    (loadChunk_total heap chunkSize chunksInSegment allLoadable sound.loader start (by bv_omega))
  rcases self.readTurn_cases heap state with ⟨finished, _⟩ | ⟨_, ⟨missing, _⟩ |
    ⟨entry, chunkCache, loader, got, turned⟩⟩
  · exact absurd unfinished finished
  · cases missing.symm.trans loaded
  obtain ⟨good, kept⟩ := sound.get chunkSize chunksInSegment allLoadable got
  obtain ⟨size, bytes⟩ := good _ start (by bv_omega)
  rcases turned with ⟨failed, _⟩ | ⟨_, turned⟩
  · exact absurd (size.symm.trans failed) chunkSize
  refine ⟨entry, ⟨chunkCache, loader⟩, turned, kept, size, ?_⟩
  intro step within reaches
  have positive : 0 < self.chunkSize.toNat := by omega
  have sum : state.offset.toNat % self.chunkSize.toNat + step + self.chunkSize.toNat *
      (state.offset.toNat / self.chunkSize.toNat) = state.offset.toNat + step := by
    rw [Nat.mul_comm]
    omega
  obtain ⟨quotient, remainder⟩ := (Nat.div_mod_unique positive).mpr ⟨sum, within⟩
  unfold addressByte
  rw [quotient, remainder]
  exact bytes _ within (by omega)

private theorem readTurn_delivers (chunkSize : self.chunkSize ≠ 0)
    (chunksInSegment : self.chunksInSegment ≠ 0) (capacity : self.cacheSize ≠ 0)
    (allLoadable : self.AllLoadable chunks) {start : U64} {total : Nat}
    (inside : start.toNat + total ≤ self.length.toNat) {state : ReadState}
    (delivers : self.Delivers chunks start total state) (unfinished : state.leftToRead > 0) :
    ∃ after, self.readTurn heap state = .next after ∧ self.Delivers chunks start total after ∧
      after.leftToRead.toNat < state.leftToRead.toNat := by
  obtain ⟨sound, left, actual, position, bytes⟩ := delivers
  obtain ⟨entry, caches, moved, kept, size, copied⟩ := readTurn_copies chunkSize chunksInSegment
    capacity allLoadable sound unfinished (by bv_omega)
  obtain ⟨_, delta⟩ := toNat_chunkOffset state.offset self.chunkSize
  have wide := toNat_widen self.chunkSize (by decide : 32 ≤ 64)
  have within : state.offset.toNat % self.chunkSize.toNat < self.chunkSize.toNat :=
    Nat.mod_lt _ (by bv_omega)
  refine ⟨_, moved, ?_⟩
  unfold copyChunk
  dsimp only
  rw [size]
  have toCopy : (stdMin (self.chunkSize.setWidth 64 - (state.offset - state.offset /
      self.chunkSize.setWidth 64 * self.chunkSize.setWidth 64)) state.leftToRead).toNat =
      min (self.chunkSize.toNat - state.offset.toNat % self.chunkSize.toNat)
        state.leftToRead.toNat := by
    rw [toNat_stdMin, toNat_sub_of_le (by omega), wide, delta]
  generalize stdMin (self.chunkSize.setWidth 64 - (state.offset - state.offset /
    self.chunkSize.setWidth 64 * self.chunkSize.setWidth 64)) state.leftToRead = asked at toCopy ⊢
  refine ⟨⟨kept, ?_, ?_, ?_, ?_⟩, ?_⟩
  · dsimp only
    bv_omega
  · dsimp only
    bv_omega
  · dsimp only
    bv_omega
  · intro index written
    dsimp only [Buffer.write] at written ⊢
    refine store_cells (fun index byte => self.addressByte chunks (start.toNat + index) =
      some byte) bytes ?_ (by rwa [length_firstCells])
    intro step byte found
    obtain ⟨within, rfl⟩ := getElem?_firstCells found
    rw [← Nat.add_assoc, ← position, delta]
    exact copied step (by omega) (by omega)
  · bv_omega

theorem readTurn_progress (chunkSize : self.chunkSize ≠ 0)
    (chunksInSegment : self.chunksInSegment ≠ 0) (capacity : self.cacheSize ≠ 0)
    (allLoadable : self.AllLoadable chunks) {start : U64} {total : Nat} (small : total < 2 ^ 63)
    (inside : start.toNat + total ≤ self.length.toNat) (state : ReadState)
    (delivers : self.Delivers chunks start total state) :
    Loop.Progress (self.readTurn heap) (self.Delivers chunks start total)
      (fun state => state.leftToRead.toNat)
      (fun outcome => ∃ result, outcome = some result ∧ result.res = (total : Int) ∧
        ∀ index, index < total →
          self.addressByte chunks (start.toNat + index) = some (result.memory.bytes index))
      state := by
  by_cases unfinished : state.leftToRead > 0
  · exact .inr (readTurn_delivers chunkSize chunksInSegment capacity allLoadable inside delivers
      unfinished)
  · obtain ⟨_, left, actual, _, bytes⟩ := delivers
    have all : state.buffer = total := by bv_omega
    have stops : self.readTurn heap state =
        .done (some ⟨state.actualRead.toInt, state.memory, state.caches⟩) := if_neg unfinished
    refine .inl ⟨_, stops, _, rfl, ?_, all ▸ bytes⟩
    rw [toInt_of_lt (by omega), actual, all]

private theorem start_delivers {caches : ImageState} (sound : self.Sound chunks caches)
    (memory : Buffer) (offset asked : U64) :
    self.Delivers chunks offset asked.toNat ⟨asked, 0, offset, 0, memory, caches⟩ where
  sound := sound
  left := Nat.zero_add _
  actual := rfl
  position := rfl
  bytes := by
    intro index negative
    cases negative

/-- After any reads, a read delivers the bytes of the chunks that the index describes,
truncated at the length. -/
theorem read_chunks (isOpen : self.closed = false) (chunkSize : self.chunkSize ≠ 0)
    (chunksInSegment : self.chunksInSegment ≠ 0) (capacity : self.cacheSize ≠ 0)
    (allLoadable : self.AllLoadable chunks) {caches : ImageState}
    (reached : Reached self heap caches) {offset count : U64} (inside : offset ≤ self.length)
    (noOverflow : offset.toNat + count.toNat < 2 ^ 64) (memory : Buffer)
    (room : min count.toNat (self.length.toNat - offset.toNat) ≤ memory.capacity) {fuel : Nat}
    (enough : count.toNat < fuel) :
    ∃ result, self.read heap memory count offset caches fuel = some (some result) ∧
      result.res = ((min count.toNat (self.length.toNat - offset.toNat) : Nat) : Int) ∧
      ∀ index, index < min count.toNat (self.length.toNat - offset.toNat) →
        self.addressByte chunks (offset.toNat + index) = some (result.memory.bytes index) := by
  have truncated := toNat_truncateCount inside noOverflow
  have small := memory.capacity_lt
  have sound := reached.sound chunkSize chunksInSegment allLoadable
  unfold read
  rw [isOpen, if_neg Bool.false_ne_true, if_neg (by bv_omega)]
  generalize truncateCount self.length offset count = asked at *
  rw [← truncated] at room ⊢
  obtain ⟨_, ran, result, rfl, returned, bytes⟩ := Loop.run_total
    (self.Delivers chunks offset asked.toNat) (fun state => state.leftToRead.toNat) _
    (readTurn_progress chunkSize chunksInSegment capacity allLoadable (by omega) (by bv_omega))
    (start_delivers sound memory offset asked)
    (show asked.toNat < fuel by omega)
  exact ⟨result, ran, returned, bytes⟩

end Read

def smallContainer : ZipContainer where
  file := {
    content := [1, 2, 3, 4, 5, 6] ++ ImageStreamPoint.toBytes ⟨0, 4⟩ ++
      ImageStreamPoint.toBytes ⟨4, 2⟩
    small := by decide }
  entries := [⟨text "aff4%3A%2F%2Fs/00000000", 0, 0, 6, 6, stored⟩,
    ⟨text "aff4%3A%2F%2Fs/00000000.index", 0, 6, 24, 24, stored⟩]
  resourceID := text "aff4://c"
  inflate := fun _ _ => none

def smallImage : ImageStream where
  container := smallContainer
  resource := text "aff4://s"
  length := 6
  chunkSize := 4
  chunksInSegment := 2
  codec := nullCompression
  cacheSize := 1
  closed := false

def smallChunks (chunk : Nat) : U64 × ImageStreamPoint :=
  (0, if chunk = 0 then ⟨0, 4⟩ else ⟨4, 2⟩)

theorem smallImage_allLoadable : smallImage.AllLoadable smallChunks := by
  intro chunk below
  have few : chunk = 0 ∨ chunk = 1 := by
    have size : smallImage.chunkSize.toNat = 4 := rfl
    have length : smallImage.length.toNat = 6 := rfl
    rw [size, length] at below
    omega
  rcases few with rfl | rfl
  · refine ⟨by decide, ⟨⟨_, rfl, rfl⟩, _, rfl, ?_⟩, by decide, by decide, by decide⟩
    intro scratch
    rw [readSegment_stored _ _ rfl]
    exact ⟨rfl, by decide⟩
  · refine ⟨by decide, ⟨⟨_, rfl, rfl⟩, _, rfl, ?_⟩, by decide, by decide, by decide⟩
    intro scratch
    rw [readSegment_stored _ _ rfl]
    exact ⟨rfl, by decide⟩

theorem read_smallImage :
    ∃ result, smallImage.read (fun _ _ => 0) ⟨fun _ => 0, 8, by decide⟩ 8 1 smallImage.fresh 9 =
        some (some result) ∧ result.res = 5 ∧
      ∀ index, index < 5 → smallImage.addressByte smallChunks (1 + index) =
        some (result.memory.bytes index) :=
  read_chunks rfl (by decide) (by decide) (by decide) smallImage_allLoadable .fresh (by decide)
    (by decide) _ (by decide) (by decide)

end Aff4Lite.Stream.ImageStream
