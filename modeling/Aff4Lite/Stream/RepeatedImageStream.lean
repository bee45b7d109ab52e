import Aff4Lite.Lib.Loop
import Aff4Lite.Stream.Interface

/-!
# `aff4::stream::RepeatedImageStream`

A symbolic stream that repeats a pattern. The constructor fills one block of 1 MiB, `read`
copies pieces of the block one after the other.
-/

set_option autoImplicit false

namespace Aff4Lite.Stream

open Lib

/-- `UNITS_M` -/
def unitsM : U64 := 1024 * 1024

/-- `UNITS_MASK` -/
def unitsMask : U64 := unitsM - 1

private theorem unitsM_toNat : unitsM.toNat = 2 ^ 20 := by decide

private theorem toNat_and_unitsMask (offset : U64) : (offset &&& unitsMask).toNat =
    offset.toNat % 2 ^ 20 := by
  rw [BitVec.toNat_and, show unitsMask.toNat = 2 ^ 20 - 1 by decide, Nat.and_two_pow_sub_one_eq_mod]

structure RepeatedImageStream where
  symbol : Bytes
  BUFFER : Nat → UInt8

namespace RepeatedImageStream

/-- The variables of the fill loop. `buffer` is where the pointer stands in the block; `i` stays
below the sum of two object sizes, so it does not wrap. -/
structure FillState where
  i : Nat
  buffer : Nat
  block : Nat → UInt8

def fillTurn (symbol : Bytes) (state : FillState) : Turn FillState (Nat → UInt8) :=
  if state.i < unitsM.toNat then
    let limit := min (unitsM.toNat - state.i) symbol.length
    .next {
      i := state.i + symbol.length
      buffer := state.buffer + symbol.length
      block := store state.block state.buffer (slice symbol 0 limit) }
  else .done state.block

/-- The constructor. Every turn of the fill loop with a pattern to copy moves `i` on, so one turn
more than the block has bytes is enough for any loop that ends. -/
def create (symbol : Bytes) (uninitialised : Nat → UInt8) : Option RepeatedImageStream :=
  (Loop.run (fillTurn symbol) (unitsM.toNat + 1) ⟨0, 0, uninitialised⟩).map fun block =>
    ⟨symbol, block⟩

/-- The variables of the copy loop. `buffer` is where the pointer stands in the caller's buffer. -/
structure CopyState where
  boffset : U64
  limit : U64
  remainder : U64
  buffer : Nat
  memory : Buffer

def copyTurn (self : RepeatedImageStream) (state : CopyState) : Turn CopyState Buffer :=
  if state.remainder > 0 then
    let remainder := state.remainder - state.limit
    .next {
      boffset := 0
      limit := stdMin remainder unitsM
      remainder := remainder
      buffer := state.buffer + state.limit.toNat
      memory := state.memory.write state.buffer
        (firstCells (fun index => self.BUFFER (state.boffset.toNat + index)) state.limit.toNat) }
  else .done state.memory

/-- `RepeatedImageStream::read`, with `none` for a null buffer. Every turn of the copy loop that
goes round again has handed out a byte. -/
def read (self : RepeatedImageStream) (buf : Option Buffer) (count offset : U64) :
    Option (Int × Option Buffer) :=
  match buf with
  | none => some (0, none)
  | some memory =>
      if count = 0 then some (0, some memory)
      else
        let remaining := count
        let boffset := offset &&& unitsMask
        (Loop.run self.copyTurn (count.toNat + 1) {
          boffset := boffset
          limit := stdMin remaining (unitsM - boffset)
          remainder := remaining
          buffer := 0
          memory := memory }).map fun after => (remaining.toInt, some after)

/-- `ULLONG_MAX` -/
def size (_ : RepeatedImageStream) : U64 := BitVec.allOnes 64

/-- The byte of the stream at a position: the pattern starts again at every multiple of 1 MiB. -/
def patternByte (symbol : Bytes) (position : Nat) : Option UInt8 :=
  symbol[position % 2 ^ 20 % symbol.length]?

private theorem patternByte_congr (symbol : Bytes) {position other : Nat}
    (aligned : position % 2 ^ 20 = other % 2 ^ 20) :
    patternByte symbol position = patternByte symbol other := by
  rw [patternByte, aligned, patternByte]

/-! ## The block -/

structure Filling (symbol : Bytes) (state : FillState) : Prop where
  pointer : state.buffer = state.i
  whole : symbol.length ∣ state.i
  filled : ∀ index, index < state.i → index < 2 ^ 20 →
    symbol[index % symbol.length]? = some (state.block index)

def Filled (symbol : Bytes) (block : Nat → UInt8) : Prop :=
  ∀ index, index < 2 ^ 20 → symbol[index % symbol.length]? = some (block index)

theorem Filling.copy {symbol : Bytes} {state : FillState} (filling : Filling symbol state) :
    Filling symbol {
      i := state.i + symbol.length
      buffer := state.buffer + symbol.length
      block := store state.block state.buffer
        (slice symbol 0 (min (unitsM.toNat - state.i) symbol.length)) } where
  pointer := congrArg (· + symbol.length) filling.pointer
  whole := Nat.dvd_add_self_right.mpr filling.whole
  filled := by
    obtain ⟨pointer, whole, filled⟩ := filling
    intro index below inBlock
    dsimp only at below ⊢
    rw [pointer]
    refine store_cells (fun place byte => place < 2 ^ 20 → symbol[place % symbol.length]? =
      some byte)
      (fun place early => filled place early) ?_ ?_ inBlock
    · intro step byte found stepInBlock
      rw [getElem?_slice, Nat.zero_add] at found
      have inSymbol : step < symbol.length := by
        split at found
        · exact (List.getElem?_eq_some_iff.mp found).1
        · cases found
      obtain ⟨times, copies⟩ := whole
      rw [if_pos (by rw [unitsM_toNat]; omega)] at found
      rw [copies, Nat.mul_add_mod, Nat.mod_eq_of_lt inSymbol, found]
    · rw [length_slice, unitsM_toNat]
      omega

private theorem fillTurn_progress {symbol : Bytes} (nonzero : symbol ≠ []) (state : FillState)
    (filling : Filling symbol state) :
    Loop.Progress (fillTurn symbol) (Filling symbol) (fun state => unitsM.toNat - state.i)
      (Filled symbol) state := by
  have positive := List.length_pos_iff.mpr nonzero
  unfold Loop.Progress fillTurn
  by_cases inside : state.i < unitsM.toNat
  · rw [if_pos inside]
    exact .inr ⟨_, rfl, filling.copy, by dsimp only; omega⟩
  · rw [if_neg inside]
    rw [unitsM_toNat] at inside
    exact .inl ⟨_, rfl, fun index inBlock => filling.filled index (by omega) inBlock⟩

theorem create_filled {symbol : Bytes} (nonzero : symbol ≠ []) (uninitialised : Nat → UInt8) :
    ∃ stream, create symbol uninitialised = some stream ∧ Filled symbol stream.BUFFER := by
  have start : Filling symbol ⟨0, 0, uninitialised⟩ :=
    ⟨rfl, Nat.dvd_zero _, fun index below => absurd below (Nat.not_lt_zero index)⟩
  obtain ⟨block, ran, filled⟩ := Loop.run_total (Filling symbol)
    (fun state => unitsM.toNat - state.i) (Filled symbol) (fillTurn_progress nonzero) start
    (show unitsM.toNat - 0 < unitsM.toNat + 1 by omega)
  exact ⟨⟨symbol, block⟩, by rw [create, ran, Option.map_some], filled⟩

/-- With an empty pattern the fill loop never moves on. -/
theorem create_empty (uninitialised : Nat → UInt8) (fuel : Nat) :
    Loop.run (fillTurn []) fuel ⟨0, 0, uninitialised⟩ = none := by
  refine Loop.run_diverges (fun state => state.i = 0) ?_ rfl fuel
  intro before atStart
  unfold fillTurn
  rw [if_pos (by rw [atStart, unitsM_toNat]; decide)]
  exact ⟨_, rfl, atStart⟩

/-! ## Reading -/

/-- What the loop head of `read` sees. The piece to copy lies inside the block and ends where the
block or the request does. -/
structure Copying (symbol : Bytes) (start count : Nat) (memory : Buffer) (state : CopyState) :
    Prop where
  handed : state.buffer + state.remainder.toNat = count
  aligned : state.remainder ≠ 0 → (start + state.buffer) % 2 ^ 20 = state.boffset.toNat
  limit : state.limit.toNat = min state.remainder.toNat (2 ^ 20 - state.boffset.toNat)
  inBlock : state.boffset.toNat < 2 ^ 20
  capacity : state.memory.capacity = memory.capacity
  written : ∀ index, index < state.buffer →
    patternByte symbol (start + index) = some (state.memory.bytes index)
  untouched : ∀ index, state.buffer ≤ index → state.memory.bytes index = memory.bytes index

/-- What a completed read leaves in the caller's buffer. -/
structure Copied (symbol : Bytes) (start count : Nat) (memory after : Buffer) : Prop where
  capacity : after.capacity = memory.capacity
  written : ∀ index, index < count → patternByte symbol (start + index) = some (after.bytes index)
  untouched : ∀ index, count ≤ index → after.bytes index = memory.bytes index

theorem Copying.copy {self : RepeatedImageStream} {start count : Nat} {memory : Buffer}
    {state after : CopyState} (filled : Filled self.symbol self.BUFFER)
    (copying : Copying self.symbol start count memory state)
    (moved : self.copyTurn state = .next after) :
    Copying self.symbol start count memory after ∧
      after.remainder.toNat < state.remainder.toNat := by
  obtain ⟨handed, aligned, limit, inBlock, capacity, written, untouched⟩ := copying
  unfold copyTurn at moved
  split at moved
  case isFalse => cases moved
  case isTrue left =>
    cases moved
    have position := aligned (by bv_omega)
    have rest : (state.remainder - state.limit).toNat = state.remainder.toNat - state.limit.toNat :=
      toNat_sub_of_le (by omega)
    have positive : 0 < state.remainder.toNat := left
    refine ⟨{
      handed := by dsimp only; omega
      aligned := ?_
      limit := by rw [toNat_stdMin, unitsM_toNat]; rfl
      inBlock := Nat.zero_lt_succ _
      capacity := capacity
      written := ?_
      untouched := ?_ }, by dsimp only; omega⟩
    · -- What is left starts at the end of the block.
      intro more
      have nonzero : 0 < (state.remainder - state.limit).toNat := by bv_omega
      change (start + (state.buffer + state.limit.toNat)) % 2 ^ 20 = 0
      omega
    · intro index below
      refine store_cells (fun place byte => patternByte self.symbol (start + place) = some byte)
        written ?_ (by simpa using below)
      intro step byte found
      obtain ⟨inPiece, stands⟩ := getElem?_firstCells found
      have inside : state.boffset.toNat + step < 2 ^ 20 := by omega
      have place : (start + (state.buffer + step)) % 2 ^ 20 = state.boffset.toNat + step := by
        omega
      rw [patternByte, place, filled _ inside, stands]
    · intro index behind
      dsimp only at behind
      refine (store_after _ ?_).trans (untouched index (by omega))
      rw [length_firstCells]
      exact behind

theorem copyTurn_progress {self : RepeatedImageStream} (filled : Filled self.symbol self.BUFFER)
    {start count : Nat} {memory : Buffer} (state : CopyState)
    (copying : Copying self.symbol start count memory state) :
    Loop.Progress self.copyTurn (Copying self.symbol start count memory)
      (fun state => state.remainder.toNat) (Copied self.symbol start count memory) state := by
  cases turned : self.copyTurn state with
  | next after => exact .inr ⟨after, turned, copying.copy filled turned⟩
  | done after =>
      refine .inl ⟨after, turned, ?_⟩
      unfold copyTurn at turned
      split at turned
      case isTrue => cases turned
      case isFalse finished =>
        cases turned
        have all : state.buffer = count := by
          have handed := copying.handed
          bv_omega
        rw [← all]
        exact ⟨copying.capacity, copying.written, copying.untouched⟩

theorem read_copied {self : RepeatedImageStream} (filled : Filled self.symbol self.BUFFER)
    (memory : Buffer) {count : U64} (offset : U64) (fits : count.toNat ≤ memory.capacity) :
    ∃ after, self.read (some memory) count offset = some ((count.toNat : Int), some after) ∧
      Copied self.symbol offset.toNat count.toNat memory after := by
  unfold read
  by_cases nothing : count = 0
  · subst nothing
    exact ⟨memory, rfl, rfl, fun index below => absurd below (Nat.not_lt_zero index),
      fun _ _ => rfl⟩
  · have block := toNat_and_unitsMask offset
    have inBlock : (offset &&& unitsMask).toNat < 2 ^ 20 := block ▸ Nat.mod_lt _ (by decide)
    have start : Copying self.symbol offset.toNat count.toNat memory {
        boffset := offset &&& unitsMask
        limit := stdMin count (unitsM - (offset &&& unitsMask))
        remainder := count
        buffer := 0
        memory := memory } := {
      handed := Nat.zero_add _
      aligned := fun _ => block.symm
      limit := by
        rw [toNat_stdMin, toNat_sub_of_le (by rw [unitsM_toNat]; omega), unitsM_toNat]
      inBlock := inBlock
      capacity := rfl
      written := fun index below => absurd below (Nat.not_lt_zero index)
      untouched := fun _ _ => rfl }
    obtain ⟨after, ran, copied⟩ := Loop.run_total _ (fun state => state.remainder.toNat) _
      (copyTurn_progress filled) start (Nat.lt_succ_self count.toNat)
    refine ⟨after, ?_, copied⟩
    have small := memory.capacity_lt
    dsimp only
    rw [if_neg nothing, ran, Option.map_some, toInt_of_lt (by omega)]

/-- The buffers of two reads hold the same bytes wherever they stand for the same positions of a
block. -/
theorem Copied.agree {symbol : Bytes} {start other count more : Nat}
    {memory after memory' after' : Buffer} (copied : Copied symbol start count memory after)
    (copied' : Copied symbol other more memory' after') {index place : Nat} (below : index < count)
    (below' : place < more) (aligned : (start + index) % 2 ^ 20 = (other + place) % 2 ^ 20) :
    after.bytes index = after'.bytes place := by
  have first := copied.written index below
  rw [patternByte_congr symbol aligned, copied'.written place below'] at first
  exact (Option.some.inj first).symm

theorem Copied.split {symbol : Bytes} {offset first second : U64}
    {whole left right wholeAfter leftAfter rightAfter : Buffer}
    (copied : Copied symbol offset.toNat (first.toNat + second.toNat) whole wholeAfter)
    (copiedLeft : Copied symbol offset.toNat first.toNat left leftAfter)
    (copiedRight : Copied symbol (offset + first).toNat second.toNat right rightAfter) :
    firstCells wholeAfter.bytes (first.toNat + second.toNat) =
      firstCells leftAfter.bytes first.toNat ++ firstCells rightAfter.bytes second.toNat := by
  simp only [firstCells, List.range_add, List.map_append, List.map_map]
  congr 1
  · apply List.map_congr_left
    intro index member
    have below := List.mem_range.mp member
    exact copied.agree copiedLeft (Nat.lt_add_right _ below) below rfl
  · apply List.map_congr_left
    intro index member
    have below := List.mem_range.mp member
    refine copied.agree copiedRight (Nat.add_lt_add_left below _) below ?_
    dsimp only
    rw [BitVec.toNat_add]
    omega

/-- A constructed stream hands out, at every position and for every buffer, the pattern that starts
again at each 1 MiB boundary, and a read in two parts gives what one read gives. -/
theorem read_pattern {symbol : Bytes} (nonzero : symbol ≠ []) (uninitialised : Nat → UInt8) :
    ∃ stream, create symbol uninitialised = some stream ∧
      (∀ (memory : Buffer) (count offset : U64), count.toNat ≤ memory.capacity →
        ∃ after, stream.read (some memory) count offset = some ((count.toNat : Int), some after) ∧
          (∀ index, index < count.toNat →
            symbol[(offset.toNat + index) % 2 ^ 20 % symbol.length]? = some (after.bytes index)) ∧
          ∀ index, count.toNat ≤ index → after.bytes index = memory.bytes index) ∧
      ∀ (whole left right : Buffer) (count first second offset : U64),
        count.toNat ≤ whole.capacity → first.toNat ≤ left.capacity →
        second.toNat ≤ right.capacity → count.toNat = first.toNat + second.toNat →
        ∃ wholeAfter leftAfter rightAfter,
          stream.read (some whole) count offset = some ((count.toNat : Int), some wholeAfter) ∧
          stream.read (some left) first offset = some ((first.toNat : Int), some leftAfter) ∧
          stream.read (some right) second (offset + first) =
            some ((second.toNat : Int), some rightAfter) ∧
          firstCells wholeAfter.bytes count.toNat =
            firstCells leftAfter.bytes first.toNat ++ firstCells rightAfter.bytes second.toNat := by
  obtain ⟨stream, created, filled⟩ := create_filled nonzero uninitialised
  have same : stream.symbol = symbol := by
    obtain ⟨block, -, rfl⟩ := Option.map_eq_some_iff.mp created
    rfl
  rw [← same] at filled
  refine ⟨stream, created, ?_, ?_⟩
  · intro memory count offset fits
    obtain ⟨after, ran, copied⟩ := read_copied filled memory offset fits
    rw [same] at copied
    exact ⟨after, ran, copied.written, copied.untouched⟩
  · intro whole left right count first second offset wholeFits leftFits rightFits total
    obtain ⟨wholeAfter, wholeRan, copied⟩ := read_copied filled whole offset wholeFits
    obtain ⟨leftAfter, leftRan, copiedLeft⟩ := read_copied filled left offset leftFits
    obtain ⟨rightAfter, rightRan, copiedRight⟩ :=
      read_copied filled right (offset + first) rightFits
    refine ⟨wholeAfter, leftAfter, rightAfter, wholeRan, leftRan, rightRan, ?_⟩
    rw [total] at copied ⊢
    exact copied.split copiedLeft copiedRight

def unreadable : Bytes := text "UNREADABLEDATA"

/-- Three bytes across the first boundary: the pattern is cut off and starts again. -/
theorem read_pattern_boundary :
    ∃ stream after, create unreadable (fun _ => 0) = some stream ∧
      stream.read (some ⟨fun _ => 0, 3, by decide⟩) 3 1048575 = some (3, some after) ∧
      firstCells after.bytes 3 = text "EUN" := by
  obtain ⟨stream, created, reads, -⟩ := read_pattern (show unreadable ≠ [] by decide) fun _ => 0
  obtain ⟨after, ran, written, -⟩ := reads ⟨fun _ => 0, 3, by decide⟩ 3 1048575 (by decide)
  refine ⟨stream, after, created, ran, ?_⟩
  have first : some 0x45 = some (after.bytes 0) := written 0 (by decide)
  have second : some 0x55 = some (after.bytes 1) := written 1 (by decide)
  have third : some 0x4e = some (after.bytes 2) := written 2 (by decide)
  rw [firstCells, show List.range 3 = [0, 1, 2] from rfl, List.map_cons, List.map_cons,
    List.map_cons, List.map_nil, ← Option.some.inj first, ← Option.some.inj second,
    ← Option.some.inj third]
  decide

end RepeatedImageStream

end Aff4Lite.Stream
