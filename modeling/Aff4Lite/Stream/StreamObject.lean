import Aff4Lite.Lib.Extent
import Aff4Lite.Lib.Transparent
import Aff4Lite.Stream.ImageStreamRead
import Aff4Lite.Stream.RepeatedImageStream
import Aff4Lite.Stream.SymbolicImageStream

/-!
# The stream objects of a container

What a `shared_ptr<IAFF4Stream>` points at, and how its `read` answers. The caches of an
image stream are the state of the object; they never show in an answer, so an object is an
extent that is read.
-/

set_option autoImplicit false

namespace Aff4Lite.Stream

open Lib

/-- What the caller of `read` gets: a negative number, or the bytes at the front of the buffer. -/
def ReadResult.returned (res : Int) (memory : Buffer) : ReadResult :=
  if res < 0 then .failed else .delivered (firstCells memory.bytes res.toNat)

theorem ReadResult.length_returned_le {res : Int} {count : U64} (memory : Buffer)
    (bounded : res ≤ count.toNat ∧ res < 2 ^ 63) :
    (returned res memory).bytes.length ≤ count.toNat ∧
      (returned res memory).bytes.length < 2 ^ 63 := by
  unfold returned
  split
  · exact ⟨Nat.zero_le _, Nat.two_pow_pos 63⟩
  · rw [bytes_delivered, length_firstCells]
    omega

theorem toInt_bounded {word count : U64} (less : word.toNat ≤ count.toNat) :
    word.toInt ≤ count.toNat ∧ word.toInt < 2 ^ 63 := by
  have signed := BitVec.toInt_eq_toNat_cond word
  split at signed
  · omega
  · omega

theorem ReadResult.returned_of_nat {count : Nat} {memory : Buffer} {bytes : Bytes}
    (holds : firstCells memory.bytes count = bytes) :
    returned (count : Int) memory = .delivered bytes := by
  rw [returned, if_neg (by omega), Int.toNat_natCast, holds]

theorem firstCells_eq_read {extent : Extent UInt8} {memory : Nat → UInt8} {offset count : Nat}
    (holds : ∀ index, index < min count (extent.size - offset) →
      memory index = extent.item (offset + index)) :
    firstCells memory (min count (extent.size - offset)) = extent.read offset count := by
  rw [firstCells, Extent.read]
  apply List.map_congr_left
  intro index member
  exact holds index (List.mem_range.mp member)

/-! ## Streams that serve their extents -/

/-- What a read of an extent returns: the part of it that the request names, for every request
that a buffer can hold and whose end has an address. -/
def ReadsExtent (extent : Extent UInt8) (request : U64 × U64) (result : ReadResult) : Prop :=
  request.1.toNat < 2 ^ 63 → request.2.toNat + request.1.toNat < 2 ^ 64 →
    result = .delivered (extent.read request.2.toNat request.1.toNat)

/-- In a good world every stream is read as its extent, and every call leaves a good world. -/
def StreamReader.ServesExtents {Stream World : Type} (reader : StreamReader Stream World)
    (good : World → Prop) (content : Stream → Extent UInt8) : Prop :=
  Transparent (fun (call : Stream × U64 × U64) world => reader.read call.1 call.2.1 call.2.2 world)
    good fun call result => ReadsExtent (content call.1) call.2 result

/-! ## The objects -/

inductive StreamObject where
  | symbolic (stream : SymbolicImageStream)
  | repeated (stream : RepeatedImageStream)
  | image (stream : ImageStream) (heap : Nat → Nat → UInt8)

/-- A buffer for `count` bytes, or as many as an object can have. -/
def freshBuffer (bytes : Nat → UInt8) (count : U64) : Buffer where
  bytes := bytes
  capacity := min count.toNat (2 ^ 63 - 1)
  capacity_lt := by omega

namespace ImageStream

variable {self : ImageStream} {heap : Nat → Nat → UInt8} {chunks : Nat → U64 × ImageStreamPoint}

/-- A call returns no more than it was asked for. -/
theorem read_res_le {memory : Buffer} {count offset : U64} {caches : ImageState} {fuel : Nat}
    {result : ReadEnd} (ran : self.read heap memory count offset caches fuel = some (some result)) :
    result.res ≤ count.toNat ∧ result.res < 2 ^ 63 := by
  unfold read at ran
  split at ran
  · cases ran
    dsimp only
    omega
  split at ran
  · cases ran
    dsimp only
    omega
  · rename_i inside
    obtain ⟨last, reached, left⟩ := Loop.run_reaches ran
    have bounded : last.actualRead.toNat + last.leftToRead.toNat ≤ count.toNat := by
      refine reached.invariant
        (fun state => state.actualRead.toNat + state.leftToRead.toNat ≤ count.toNat) ?_ ?_
      · exact (Nat.zero_add _).trans_le (truncateCount_le (by bv_omega))
      · intro before after held moved
        rcases self.readTurn_cases heap before with ⟨_, turned⟩ | ⟨_, ⟨_, turned⟩ |
          ⟨entry, chunkCache, loader, _, ⟨_, turned⟩ | ⟨_, turned⟩⟩⟩
        · cases turned.symm.trans moved
        · cases turned.symm.trans moved
        · cases turned.symm.trans moved
        · cases turned.symm.trans moved
          have asked := toNat_stdMin (entry.size.setWidth 64 - (before.offset - before.offset /
            self.chunkSize.setWidth 64 * self.chunkSize.setWidth 64)) before.leftToRead
          dsimp only [copyChunk]
          bv_omega
    rcases self.readTurn_cases heap last with ⟨_, turned⟩ | ⟨_, ⟨_, turned⟩ |
      ⟨entry, chunkCache, loader, _, ⟨_, turned⟩ | ⟨_, turned⟩⟩⟩
    · cases turned.symm.trans left
      exact toInt_bounded (by omega)
    · cases turned.symm.trans left
    · cases turned.symm.trans left
      dsimp only
      omega
    · cases turned.symm.trans left

/-- The image that the chunks make up. -/
def extent (self : ImageStream) (chunks : Nat → U64 × ImageStreamPoint) : Extent UInt8 where
  size := self.length.toNat
  item address := (self.addressByte chunks address).getD 0

/-- An open image stream that a `read` can divide by, all of whose chunks can be loaded. -/
structure Intact (stream : ImageStream) (chunks : Nat → U64 × ImageStreamPoint) : Prop where
  isOpen : stream.closed = false
  chunkSize : stream.chunkSize ≠ 0
  chunksInSegment : stream.chunksInSegment ≠ 0
  capacity : stream.cacheSize ≠ 0
  allLoadable : stream.AllLoadable chunks

/-- A read of an intact stream puts its part of the image into the buffer. -/
theorem Intact.read_extent (intact : self.Intact chunks) (heap : Nat → Nat → UInt8)
    {caches : ImageState} (sound : self.Sound chunks caches) (memory : Buffer) {count offset : U64}
    (noOverflow : offset.toNat + count.toNat < 2 ^ 64) (room : count.toNat ≤ memory.capacity)
    {fuel : Nat} (enough : count.toNat < fuel) :
    ∃ result, self.read heap memory count offset caches fuel = some (some result) ∧
      ReadResult.returned result.res result.memory =
        .delivered ((self.extent chunks).read offset.toNat count.toNat) := by
  have small := memory.capacity_lt
  unfold read
  rw [intact.isOpen, if_neg Bool.false_ne_true]
  by_cases behind : offset > self.length
  · rw [if_pos behind, Extent.read_behind _ (show self.length.toNat ≤ offset.toNat by bv_omega)]
    exact ⟨_, rfl, @ReadResult.returned_of_nat 0 _ _ rfl⟩
  · rw [if_neg behind]
    have truncated : (truncateCount self.length offset count).toNat =
        min count.toNat (self.length.toNat - offset.toNat) :=
      toNat_truncateCount (by bv_omega) noOverflow
    generalize truncateCount self.length offset count = asked at *
    have start : self.Delivers chunks offset asked.toNat ⟨asked, 0, offset, 0, memory, caches⟩ :=
      ⟨sound, Nat.zero_add _, rfl, rfl, fun index below => absurd below (Nat.not_lt_zero index)⟩
    obtain ⟨_, ran, result, rfl, returned, bytes⟩ := Loop.run_total (self.Delivers chunks offset
      asked.toNat) (fun state => state.leftToRead.toNat) _
      (readTurn_progress intact.chunkSize intact.chunksInSegment intact.capacity
        intact.allLoadable (by omega) (by bv_omega)) start
      (show asked.toNat < fuel by omega)
    refine ⟨result, ran, ?_⟩
    rw [returned, truncated]
    refine ReadResult.returned_of_nat (@firstCells_eq_read (self.extent chunks) _ _ _ ?_)
    intro index below
    exact (congrArg (Option.getD · 0) (bytes index (truncated ▸ below))).symm

end ImageStream

namespace StreamObject

/-- `read` of the object with a buffer of its own. An image stream whose loop does not come
back, which no intact stream does, counts as a failure. -/
def read (object : StreamObject) (scratch : Nat → UInt8) (count offset : U64)
    (caches : ImageState) : ReadResult × ImageState :=
  let memory := freshBuffer scratch count
  match object with
  | symbolic stream =>
      match stream.read (some memory) count offset with
      | (res, some after) => (.returned res after, caches)
      | (_, none) => (.failed, caches)
  | repeated stream =>
      match stream.read (some memory) count offset with
      | some (res, some after) => (.returned res after, caches)
      | _ => (.failed, caches)
  | image stream heap =>
      match stream.read heap memory count offset caches (count.toNat + 1) with
      | some (some result) => (.returned result.res result.memory, result.caches)
      | _ => (.failed, caches)

/-- What a read of the object delivers, and what of its state that rests on. -/
inductive Holds : StreamObject → Extent UInt8 → (ImageState → Prop) → Prop where
  | symbolic (stream : SymbolicImageStream) :
      Holds (.symbolic stream) ⟨stream.size.toNat, fun _ => stream.symbol⟩ fun _ => True
  | repeated {symbol : Bytes} {uninitialised : Nat → UInt8} {stream : RepeatedImageStream} :
      symbol ≠ [] → RepeatedImageStream.create symbol uninitialised = some stream →
      Holds (.repeated stream)
        ⟨stream.size.toNat, fun position =>
          (RepeatedImageStream.patternByte symbol position).getD 0⟩
        fun _ => True
  | image {stream : ImageStream} {chunks : Nat → U64 × ImageStreamPoint}
      (heap : Nat → Nat → UInt8) : stream.Intact chunks →
      Holds (.image stream heap) (stream.extent chunks) (stream.Sound chunks)

theorem bounded (object : StreamObject) (scratch : Nat → UInt8) (count offset : U64)
    (caches : ImageState) :
    (object.read scratch count offset caches).1.bytes.length ≤ count.toNat ∧
      (object.read scratch count offset caches).1.bytes.length < 2 ^ 63 := by
  have nothing : ReadResult.failed.bytes.length ≤ count.toNat ∧
      ReadResult.failed.bytes.length < 2 ^ 63 := ⟨Nat.zero_le _, Nat.two_pow_pos 63⟩
  have asked := toInt_bounded (le_refl count.toNat)
  have nonneg : (0 : Int) ≤ count.toNat ∧ (0 : Int) < 2 ^ 63 := by omega
  cases object with
  | symbolic stream =>
      unfold read SymbolicImageStream.read
      dsimp only
      split
      · rename_i given
        split at given
        · cases given
          exact ReadResult.length_returned_le _ nonneg
        · cases given
          exact ReadResult.length_returned_le _ asked
      · exact nothing
  | repeated stream =>
      unfold read RepeatedImageStream.read
      dsimp only
      split
      · rename_i given
        split at given
        · cases given
          exact ReadResult.length_returned_le _ nonneg
        · obtain ⟨_, _, same⟩ := Option.map_eq_some_iff.mp given
          cases same
          exact ReadResult.length_returned_le _ asked
      · exact nothing
  | image stream heap =>
      unfold read
      dsimp only
      split
      · rename_i result ran
        exact ReadResult.length_returned_le _ (ImageStream.read_res_le ran)
      · exact nothing

/-- The `read` methods of the objects in a store. -/
def reader {Ref : Type} [DecidableEq Ref] (objects : Ref → StreamObject)
    (scratch : Ref → Nat → UInt8) : StreamReader Ref (Ref → ImageState) where
  read ref count offset world :=
    callOf (fun ref (request : U64 × U64) => (objects ref).read (scratch ref) request.1 request.2)
      (ref, count, offset) world
  bounded ref count offset world := (objects ref).bounded (scratch ref) count offset (world ref)

theorem Holds.addressed {object : StreamObject} {extent : Extent UInt8} {good : ImageState → Prop}
    (holds : object.Holds extent good) : extent.size < 2 ^ 64 := by
  cases holds with
  | symbolic stream => exact stream.size.isLt
  | @repeated _ _ stream _ _ => exact stream.size.isLt
  | @image stream _ _ _ => exact stream.length.isLt

/-- The state of an object that nothing was read from. -/
def fresh : StreamObject → ImageState
  | image stream _ => stream.fresh
  | _ => ⟨.empty 0, ⟨.empty 0, 0⟩⟩

theorem Holds.fresh {object : StreamObject} {extent : Extent UInt8} {good : ImageState → Prop}
    (holds : object.Holds extent good) : good object.fresh := by
  cases holds with
  | symbolic stream => trivial
  | repeated _ _ => trivial
  | @image stream chunks _ _ => exact stream.fresh_sound chunks

/-- The size of a symbolic stream is the last address, so a request is never cut off. -/
theorem returned_symbolic {byte : Nat → UInt8} {count offset : U64} (memory : Buffer)
    (noOverflow : offset.toNat + count.toNat < 2 ^ 64)
    (holds : ∀ index, index < count.toNat → memory.bytes index = byte (offset.toNat + index)) :
    ReadResult.returned (count.toNat : Int) memory =
      .delivered ((⟨(BitVec.allOnes 64).toNat, byte⟩ : Extent UInt8).read offset.toNat
        count.toNat) := by
  refine ReadResult.returned_of_nat ?_
  have whole : min count.toNat ((BitVec.allOnes 64).toNat - offset.toNat) = count.toNat := by
    rw [BitVec.toNat_allOnes]
    omega
  rw [← firstCells_eq_read (fun index below => holds index (by omega)), whole]

/-- Every call of an object that holds an extent is answered from the extent. -/
theorem Holds.transparent {object : StreamObject} {extent : Extent UInt8}
    {good : ImageState → Prop} (holds : object.Holds extent good) (scratch : Nat → UInt8) :
    Transparent (fun (request : U64 × U64) => object.read scratch request.1 request.2) good
      (ReadsExtent extent) := by
  cases holds with
  | symbolic stream =>
      refine ⟨?_, fun _ _ _ => trivial⟩
      intro request caches _ fits noOverflow
      obtain ⟨after, ran, filled, _⟩ := stream.read_fills (freshBuffer scratch request.1)
        request.2 (show request.1.toNat ≤ min request.1.toNat (2 ^ 63 - 1) by omega)
      unfold read
      dsimp only
      rw [ran]
      exact returned_symbolic _ noOverflow fun index below => filled index below
  | @repeated symbol uninitialised stream nonempty created =>
      refine ⟨?_, fun _ _ _ => trivial⟩
      intro request caches _ fits noOverflow
      obtain ⟨_, same, filled⟩ := RepeatedImageStream.create_filled nonempty uninitialised
      cases created.symm.trans same
      have pattern : stream.symbol = symbol := by
        obtain ⟨block, _, rfl⟩ := Option.map_eq_some_iff.mp created
        rfl
      rw [← pattern] at filled
      obtain ⟨after, ran, copied⟩ := RepeatedImageStream.read_copied filled
        (freshBuffer scratch request.1) request.2
        (show request.1.toNat ≤ min request.1.toNat (2 ^ 63 - 1) by omega)
      unfold read
      dsimp only
      rw [ran]
      refine returned_symbolic _ noOverflow ?_
      intro index below
      have written := copied.written index below
      rw [pattern] at written
      exact (congrArg (Option.getD · 0) written).symm
  | @image stream chunks heap intact =>
      refine ⟨?_, ?_⟩
      · intro request caches sound fits noOverflow
        obtain ⟨result, ran, delivered⟩ := intact.read_extent heap sound
          (freshBuffer scratch request.1) noOverflow
          (show request.1.toNat ≤ min request.1.toNat (2 ^ 63 - 1) by omega) (Nat.lt_succ_self _)
        unfold read
        dsimp only
        rw [ran]
        exact delivered
      · intro request caches sound
        unfold read
        dsimp only
        split
        · rename_i result ran
          exact ImageStream.read_sound intact.chunkSize intact.chunksInSegment intact.allLoadable
            sound ran
        · exact sound

/-- The objects of a store, each with its own state, serve their extents. -/
theorem reader_serves {Ref : Type} [DecidableEq Ref] {objects : Ref → StreamObject}
    {content : Ref → Extent UInt8} {good : Ref → ImageState → Prop}
    (holds : ∀ ref, (objects ref).Holds (content ref) (good ref))
    (scratch : Ref → Nat → UInt8) :
    (reader objects scratch).ServesExtents (fun world => ∀ ref, good ref (world ref)) content :=
  .family fun ref => (holds ref).transparent (scratch ref)

end StreamObject

end Aff4Lite.Stream
