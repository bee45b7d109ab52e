import Aff4Lite.Stream.ChunkLoaderRead

/-!
# An image stream of one archive, as a device stream

`ImageStream` reads its archive without failures and without telling where a byte is from.
The stream over the device that this archive is makes the same calls and returns the same
bytes, from every pair of states that agree.
-/

set_option autoImplicit false

namespace Aff4Lite.Stream.ImageStream

open Lib Zip Containers Utils

section Same

variable (self : ImageStream) (heap : Nat → Nat → UInt8) (succeeds : Bytes → Nat → Bool)

/-- The archive and its codec; what the codec reports does not matter. -/
def device : Device Nat where
  turns := 2 ^ 32
  fileRead := fun count offset allocations =>
    (fileRead self.container.file count offset, allocations)
  loadIndex := fun bevvyID allocations =>
    (some (.create self.container self.resource bevvyID (heap allocations)
      (heap (allocations + 1))), allocations + 2)
  decompress := fun source destSize allocations =>
    (⟨succeeds source destSize, self.codec source destSize⟩, allocations)
  allocate := fun allocations => (heap allocations, allocations + 1)
  bounded := fun count offset _ => length_fileRead_le self.container.file count offset

def toDevice : DeviceStream Nat where
  device := self.device heap succeeds
  length := self.length
  chunkSize := self.chunkSize
  chunksInSegment := self.chunksInSegment
  cacheSize := self.cacheSize
  closed := self.closed

/-- Every index fits the buffer of whole points that it is read into. -/
def IndexesFit : Prop :=
  ∀ bevvyID scratch, ¬BevvyIndex.overruns self.container self.resource bevvyID scratch

/-! ## What it means to agree -/

/-- The same bytes; a fault is like nothing that `ImageStream` loads. -/
def SameChunk : Except (ReadFault Nat) (ChunkBuffer Nat) → CacheBuffer → Prop
  | .ok chunk, buffer =>
      chunk.size = buffer.size ∧ ∀ index, (chunk.cells index).byte = buffer.bytes index
  | .error _, _ => False

structure SameLoader (state : DeviceStream.LoaderState Nat) (loader : LoaderState) : Prop where
  indices : Cache.Rel (fun found index => found = some index) state.1 loader.bevvyIndexCache
  allocations : state.2 = loader.allocations
  room : 0 < state.1.maxSize.toNat

structure SameState (state : DeviceState Nat) (caches : ImageState) : Prop where
  chunks : Cache.Rel SameChunk state.chunkCache caches.chunkCache
  loader : SameLoader (state.bevvyIndexCache, state.world) caches.loader

structure SameRead (state : DeviceStream.ReadState Nat) (read : ReadState) : Prop where
  leftToRead : state.leftToRead = read.leftToRead
  actualRead : state.actualRead = read.actualRead
  offset : state.offset = read.offset
  buffer : state.buffer = read.buffer
  memory : ∀ index, (state.memory index).byte = read.memory.bytes index
  caches : SameState state.state read.caches

/-- The same return value and bytes; `none` is the only fault that both have. -/
def SameEnd : Except (ReadFault Nat) (DeviceStream.ReadEnd Nat) → Option ReadEnd → Prop
  | .ok finish, some result =>
      finish.res = result.res ∧ (∀ index, (finish.memory index).byte = result.memory.bytes index) ∧
        SameState finish.state result.caches
  | .error .cacheEnd, none => True
  | _, _ => False

private theorem fresh_same : SameState ((self.toDevice heap succeeds).fresh 0) self.fresh where
  chunks := ⟨rfl, .nil⟩
  loader := ⟨⟨rfl, .nil⟩, rfl, show 0 < bevvyIndexCacheSize.toNat by decide⟩

/-! ## The loader -/

theorem serves_readChunk {fuel : Nat} {toRead : U64} (representable : toRead.toNat < 2 ^ 63)
    (enough : toRead.toNat ≤ fuel) (chunkOffset : U64) (allocations : Nat) :
    (self.device heap succeeds).Serves toRead chunkOffset allocations
      (readChunk self.container.file fuel toRead chunkOffset) allocations := by
  induction fuel generalizing toRead chunkOffset with
  | zero =>
      have nothing : toRead = 0 := by bv_omega
      rw [nothing]
      exact .full
  | succ fuel ih =>
      unfold readChunk
      by_cases more : toRead > 0
      · rw [if_pos more]
        dsimp only
        have bounded := length_fileRead_le self.container.file toRead chunkOffset
        obtain ⟨bytes, read⟩ : ∃ bytes, fileRead self.container.file toRead chunkOffset =
            .delivered bytes := ⟨_, fileRead_slice self.container.file representable chunkOffset⟩
        have answered : (self.device heap succeeds).fileRead toRead chunkOffset allocations =
            (.delivered bytes, allocations) := Prod.ext read rfl
        rw [read, ReadResult.bytes_delivered] at bounded ⊢
        split
        · rename_i ended
          have nothing : bytes = [] := List.eq_nil_of_length_eq_zero (by bv_omega)
          exact .ended more (nothing ▸ answered)
        · rename_i something
          refine .more more answered ?_ (ih (by bv_omega) (by bv_omega) _)
          rintro rfl
          exact something rfl
      · have nothing : toRead = 0 := by bv_omega
        rw [if_neg more, nothing]
        exact .full

private theorem readChunk_same (length : U32) (chunkOffset : U64) (allocations : Nat) :
    (self.device heap succeeds).readChunk length chunkOffset allocations =
      some (readChunk self.container.file (length.setWidth 64).toNat (length.setWidth 64)
        chunkOffset, allocations) := by
  have wide := toNat_widen length (by decide : 32 ≤ 64)
  have small := length.isLt
  exact Device.readChunk_of_serves small
    (serves_readChunk self heap succeeds (by omega) le_rfl chunkOffset allocations)

private theorem fill_byte (memory : Nat → UInt8) (bytes : Bytes) (origin : Origin) (index : Nat) :
    (Device.fill memory bytes origin index).byte = store memory 0 bytes index := by
  have seen := store_map Cell.byte (fun place => ⟨memory place, .uninitialised⟩) 0
    (bytes.map fun byte => Cell.mk byte origin) index
  rw [List.map_map] at seen
  exact seen.trans (congrFun (congrArg (store memory 0) (List.map_id bytes)) index)

private theorem loadPoint_same (event : LoadEvent Nat) :
    SameChunk ((self.toDevice heap succeeds).loadPoint event).1
        (self.loadPoint heap event.dataOffset event.point event.world).1 ∧
      ((self.toDevice heap succeeds).loadPoint event).2 =
        (self.loadPoint heap event.dataOffset event.point event.world).2 := by
  have read : (self.device heap succeeds).readChunk event.point.length
      (event.dataOffset + event.point.offset) (event.world + 1) =
    some (readChunk self.container.file (event.point.length.setWidth 64).toNat
      (event.point.length.setWidth 64) (event.dataOffset + event.point.offset),
      event.world + 1) := readChunk_same self heap succeeds _ _ _
  unfold DeviceStream.loadPoint loadPoint
  dsimp only [toDevice, device] at read ⊢
  rw [read]
  dsimp only
  by_cases whole : event.point.length.setWidth 64 = self.chunkSize.setWidth 64
  · simp only [ne_eq, whole, not_true_eq_false, if_false]
    exact ⟨⟨rfl, fill_byte _ _ _⟩, trivial⟩
  · simp only [ne_eq, whole, not_false_eq_true, if_true]
    exact ⟨⟨rfl, fill_byte _ _ _⟩, trivial⟩

private theorem bevvyIndex_same (fits : self.IndexesFit) {state : DeviceStream.LoaderState Nat}
    {loader : LoaderState}
    (same : SameLoader state loader) (bevvyID : U32) :
    ∃ index indices indices' allocations,
      state.1.get bevvyID
          (fun world => some ((self.device heap succeeds).loadIndex bevvyID world)) state.2 =
        some (some index, indices, allocations) ∧
      loader.bevvyIndexCache.get bevvyID (self.loadBevvyIndex heap bevvyID) loader.allocations =
        some (index, indices', allocations) ∧
      SameLoader (indices, allocations) ⟨indices', allocations⟩ := by
  have loads : Option.Rel (fun loaded loaded' => loaded.1 = some loaded'.1 ∧ loaded.2 = loaded'.2)
      (some ((self.device heap succeeds).loadIndex bevvyID state.2))
      (self.loadBevvyIndex heap bevvyID loader.allocations) := by
    rw [same.allocations, loadBevvyIndex, if_neg (fits _ _)]
    exact .some ⟨rfl, rfl⟩
  have results : Option.Rel (fun result result' => result.1 = some result'.1 ∧
        Cache.Rel (fun found index => found = some index) result.2.1 result'.2.1 ∧
          result.2.2 = result'.2.2)
      (state.1.get bevvyID
        (fun world => some ((self.device heap succeeds).loadIndex bevvyID world)) state.2)
      (loader.bevvyIndexCache.get bevvyID (self.loadBevvyIndex heap bevvyID)
        loader.allocations) :=
    same.indices.get bevvyID same.allocations loads
  have total : ∃ result, state.1.get bevvyID
      (fun world => some ((self.device heap succeeds).loadIndex bevvyID world)) state.2 =
        some result := Cache.get_total same.room ⟨_, rfl⟩
  obtain ⟨⟨found, indices, allocations⟩, got⟩ := total
  have all : Cache.All (fun _ _ => True) state.1 := fun _ _ => trivial
  obtain ⟨_, _, room, _⟩ := Cache.get_preserves all trivial (fun _ _ _ => ⟨trivial, trivial⟩) got
  rw [got] at results
  cases ran : loader.bevvyIndexCache.get bevvyID (self.loadBevvyIndex heap bevvyID)
      loader.allocations with
  | none =>
      rw [ran] at results
      cases results
  | some result =>
      obtain ⟨index, indices', allocations'⟩ := result
      rw [ran] at results
      cases results with
      | some facts =>
          have sameIndex : found = some index := facts.1
          have sameCount : allocations = allocations' := facts.2.2
          have stillRoom : 0 < indices.maxSize.toNat := by
            rw [show indices.maxSize = state.1.maxSize from room]
            exact same.room
          subst sameIndex sameCount
          exact ⟨index, indices, indices', allocations, got, rfl, facts.2.1, rfl, stillRoom⟩

private theorem loadChunk_same (fits : self.IndexesFit) (chunkSize : self.chunkSize ≠ 0)
    (chunksInSegment : self.chunksInSegment ≠ 0) (key : U64) {state : DeviceStream.LoaderState Nat}
    {loader : LoaderState}
    (same : SameLoader state loader) :
    Option.Rel (fun loaded loaded' => SameChunk loaded.1 loaded'.1 ∧ SameLoader loaded.2 loaded'.2)
      (some ((self.toDevice heap succeeds).loadChunk key state))
        (self.loadChunk heap key loader) := by
  obtain ⟨index, indices, indices', allocations, got, ran, related⟩ :=
    bevvyIndex_same self heap succeeds fits same
      ((key / self.chunkSize.setWidth 64 / self.chunksInSegment.setWidth 64).setWidth 32)
  unfold DeviceStream.loadChunk loadChunk
  rw [if_neg (show ¬((self.toDevice heap succeeds).chunkSize = 0 ∨
    (self.toDevice heap succeeds).chunksInSegment = 0) from
      not_or.mpr ⟨chunkSize, chunksInSegment⟩)]
  dsimp only [toDevice]
  rw [got, ran]
  dsimp only
  by_cases empty : (index.getPoint ((key / self.chunkSize.setWidth 64 %
      self.chunksInSegment.setWidth 64).setWidth 32)).length = 0
  · rw [if_pos empty, if_pos empty]
    exact .some ⟨⟨rfl, fun _ => rfl⟩, related⟩
  · rw [if_neg empty, if_neg empty]
    obtain ⟨chunk, world⟩ := loadPoint_same self heap succeeds
      ⟨index.dataChunkOffset, index.getPoint ((key / self.chunkSize.setWidth 64 %
        self.chunksInSegment.setWidth 64).setWidth 32), allocations⟩
    exact .some ⟨chunk, related.indices, world, related.room⟩

/-! ## The read -/

theorem copyChunk_same {state : DeviceStream.ReadState Nat} {read : ReadState}
    (same : SameRead state read) (chunkOffset : U64) {entry : ChunkBuffer Nat}
    {buffer : CacheBuffer} (chunk : SameChunk (.ok entry) buffer) {after : DeviceState Nat}
    {caches : ImageState} (kept : SameState after caches) :
    SameRead (DeviceStream.copyChunk state chunkOffset entry after)
      (copyChunk read chunkOffset buffer caches) := by
  obtain ⟨size, cells⟩ := chunk
  unfold DeviceStream.copyChunk copyChunk
  rw [same.leftToRead, same.actualRead, same.offset, same.buffer, size]
  refine ⟨rfl, rfl, rfl, rfl, ?_, kept⟩
  intro index
  dsimp only [Buffer.write]
  rw [store_map Cell.byte, map_firstCells]
  simp only [same.memory, cells]

private theorem getChunk_same (fits : self.IndexesFit) (chunkSize : self.chunkSize ≠ 0)
    (chunksInSegment : self.chunksInSegment ≠ 0) (key : U64) {state : DeviceState Nat}
    {caches : ImageState} (same : SameState state caches) :
    Option.Rel (fun result result' => SameChunk result.1 result'.1 ∧
        Cache.Rel SameChunk result.2.1 result'.2.1 ∧ SameLoader result.2.2 result'.2.2)
      (state.chunkCache.get key
        (fun inner => some ((self.toDevice heap succeeds).loadChunk key inner))
        (state.bevvyIndexCache, state.world))
      (caches.chunkCache.get key (self.loadChunk heap key) caches.loader) :=
  same.chunks.get key same.loader
    (loadChunk_same self heap succeeds fits chunkSize chunksInSegment key same.loader)

private theorem readTurn_same (fits : self.IndexesFit) (chunkSize : self.chunkSize ≠ 0)
    (chunksInSegment : self.chunksInSegment ≠ 0) (state : DeviceStream.ReadState Nat)
    (read : ReadState) (same : SameRead state read) :
    Loop.TurnRel SameRead SameEnd ((self.toDevice heap succeeds).readTurn state)
      (self.readTurn heap read) := by
  have caches := same.caches
  unfold DeviceStream.readTurn readTurn DeviceStream.getChunk
  rw [same.leftToRead, same.offset]
  by_cases unfinished : read.leftToRead > 0
  · rw [if_pos unfinished, if_pos unfinished,
      if_neg (show ¬(self.toDevice heap succeeds).chunkSize = 0 from chunkSize)]
    have results := getChunk_same self heap succeeds fits chunkSize chunksInSegment
      (read.offset / self.chunkSize.setWidth 64 * self.chunkSize.setWidth 64) caches
    dsimp only [toDevice] at results ⊢
    generalize read.offset / self.chunkSize.setWidth 64 * self.chunkSize.setWidth 64 =
      chunkOffset at results ⊢
    generalize Cache.get state.state.chunkCache chunkOffset _ _ = first at results ⊢
    generalize Cache.get read.caches.chunkCache chunkOffset _ _ = second at results ⊢
    cases results with
    | none => exact .done trivial
    | @some result result' facts =>
        obtain ⟨chunk, chunks, loader⟩ := facts
        obtain ⟨loaded, chunkCache, bevvyIndexCache, world⟩ := result
        obtain ⟨buffer, chunkCache', loader'⟩ := result'
        cases loaded with
        | error fault => exact chunk.elim
        | ok entry =>
            have size : entry.size = buffer.size := chunk.1
            dsimp only
            rw [size]
            by_cases failed : buffer.size = 0
            · rw [if_pos failed, if_pos failed]
              exact .done ⟨rfl, same.memory, chunks, loader⟩
            · rw [if_neg failed, if_neg failed]
              exact .next (copyChunk_same same chunkOffset chunk ⟨chunks, loader⟩)
  · rw [if_neg unfinished, if_neg unfinished, same.actualRead]
    exact .done ⟨rfl, same.memory, caches⟩

private theorem read_same (fits : self.IndexesFit) (chunkSize : self.chunkSize ≠ 0)
    (chunksInSegment : self.chunksInSegment ≠ 0) {state : DeviceState Nat} {caches : ImageState}
    (same : SameState state caches)
    {memory : Nat → Cell} {buffer : Buffer}
    (bytes : ∀ index, (memory index).byte = buffer.bytes index) (count offset : U64) :
    Option.Rel SameEnd ((self.toDevice heap succeeds).read memory count offset state)
      (self.read heap buffer count offset caches
        ((truncateCount self.length offset count).toNat + 1)) := by
  unfold DeviceStream.read read
  by_cases shut : self.closed = true
  · rw [if_pos (show (self.toDevice heap succeeds).closed = true from shut), if_pos shut]
    exact .some ⟨rfl, bytes, same⟩
  · rw [if_neg (show ¬(self.toDevice heap succeeds).closed = true from shut), if_neg shut]
    by_cases behind : offset > self.length
    · rw [if_pos (show offset > (self.toDevice heap succeeds).length from behind), if_pos behind]
      exact .some ⟨rfl, bytes, same⟩
    · rw [if_neg (show ¬offset > (self.toDevice heap succeeds).length from behind), if_neg behind]
      exact Loop.run_rel (readTurn_same self heap succeeds fits chunkSize chunksInSegment) _
        ⟨rfl, rfl, rfl, rfl, bytes, same⟩

private theorem read_unique {memory : Buffer} {count offset : U64} {caches : ImageState}
    {fuel more : Nat}
    {first second : Option ReadEnd}
    (one : self.read heap memory count offset caches fuel = some first)
    (other : self.read heap memory count offset caches more = some second) : first = second := by
  unfold read at one other
  split at one
  · rename_i shut
    rw [if_pos shut] at other
    exact Option.some.inj (one.symm.trans other)
  · rename_i isOpen
    rw [if_neg isOpen] at other
    split at one
    · rename_i behind
      rw [if_pos behind] at other
      exact Option.some.inj (one.symm.trans other)
    · rename_i inside
      rw [if_neg inside] at other
      exact Loop.run_unique one other

theorem Reached.same (fits : self.IndexesFit) (chunkSize : self.chunkSize ≠ 0)
    (chunksInSegment : self.chunksInSegment ≠ 0) {caches : ImageState}
    (reached : Reached self heap caches) :
    ∃ state, (self.toDevice heap succeeds).Reached state ∧ SameState state caches := by
  induction reached with
  | fresh => exact ⟨_, .fresh 0, fresh_same self heap succeeds⟩
  | @read caches memory count offset fuel result _ ran ih =>
      obtain ⟨state, before, same⟩ := ih
      have results := read_same self heap succeeds fits chunkSize chunksInSegment same
        (fun index => (rfl : (Cell.mk (memory.bytes index) .uninitialised).byte = _)) count offset
      obtain ⟨outcome, finished⟩ := DeviceStream.read_total before
        (fun index => ⟨memory.bytes index, .uninitialised⟩) count offset
      rw [finished] at results
      cases again : self.read heap memory count offset caches
          ((truncateCount self.length offset count).toNat + 1) with
      | none =>
          rw [again] at results
          cases results
      | some value =>
          rw [again] at results
          cases results with
          | some agrees =>
              cases read_unique self heap again ran
              cases outcome with
              | error fault => cases fault <;> exact agrees.elim
              | ok finish => exact ⟨finish.state, .read before finished, agrees.2.2⟩

end Same

end Aff4Lite.Stream.ImageStream
