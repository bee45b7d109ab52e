import Aff4Lite.Stream.MapStreamContract
import Aff4Lite.XWays.SparseProperties

/-!
# The pieces that `isSparse` visits

`isSparse` repeats the lookup and the stepping of `MapStream::read`, and stops at the first
piece whose stream is not sparse. So it visits a first part of the pieces that a read of the
range copies, and answers for all of them.
-/

set_option autoImplicit false

namespace Aff4Lite.XWays

open Aff4Lite.Lib Aff4Lite.Stream

/-- A lower stream and the number of bytes taken from it. -/
abbrev Visit (Stream : Type) := Option Stream × U64

/-- The pieces that `isSparse` looks up, one for each turn with something left. -/
def sparseVisits {Stream : Type} (map : MapStream Stream) (getResourceID : Stream → Bytes)
    (nOfs nSize : U64) : List (Visit Stream) :=
  ((Loop.trace (sparseTurn map getResourceID) (nSize.toNat + 1) ⟨nSize, nOfs⟩).filter
    fun state => state.leftToRead ≠ 0).map fun state =>
      let piece := map.piece state.offset state.leftToRead
      (piece.stream, piece.count)

/-- The pieces that a read copied. -/
def copies {Stream World : Type} (result : ReadEnd Stream World) : List (Visit Stream) :=
  result.lowerReads.map fun lowerRead => (some lowerRead.stream, lowerRead.count)

/-- The piece comes from a stream with one of the sparse names. -/
def fromSparse {Stream : Type} (getResourceID : Stream → Bytes) (visit : Visit Stream) : Bool :=
  visit.1.any fun stream => isSpareResource (getResourceID stream)

/-! ## One turn -/

theorem sparseTurn_finished {Stream : Type} (map : MapStream Stream)
    (getResourceID : Stream → Bytes) {state : SparseState} (finished : state.leftToRead = 0) :
    sparseTurn map getResourceID state = .done (.ok true) := by
  rw [sparseTurn, if_pos finished]

private theorem sparseTurn_piece {Stream : Type} (map : MapStream Stream)
    (getResourceID : Stream → Bytes)
    {state : SparseState} (unfinished : state.leftToRead ≠ 0) {stream : Stream}
    (served : (map.piece state.offset state.leftToRead).stream = some stream) :
    sparseTurn map getResourceID state =
      let count := (map.piece state.offset state.leftToRead).count
      if isSpareResource (getResourceID stream) then
        .next ⟨state.leftToRead - count, state.offset + count⟩
      else .done (.ok false) := by
  unfold MapStream.piece at served ⊢
  unfold sparseTurn
  rw [if_neg unfinished]
  cases found : map.entryAt state.offset with
  | error fault =>
      rw [found] at served
      cases served
  | ok entry =>
      rw [found] at served
      dsimp only at served ⊢
      cases listed : map.streams[entry.streamID.toNat]? with
      | none =>
          rw [listed] at served
          cases served
      | some lower =>
          rw [listed] at served
          cases served
          rfl

private theorem piece_count_pos {Stream : Type} {map : MapStream Stream}
    (wellFormed : map.WellFormed)
    {offset leftToRead : U64} (unfinished : leftToRead ≠ 0) (inside : offset < map.size) :
    0 < (map.piece offset leftToRead).count.toNat := by
  obtain ⟨entry, _, found, _, spans⟩ := entryAt_spans wellFormed inside
  unfold MapStream.piece
  rw [found]
  exact MapEntryPoint.readLength_pos unfinished spans

/-! ## Both loops -/

/-- The pieces that the states of a trace look up. -/
def visitsOf {Stream : Type} (map : MapStream Stream) (states : List SparseState) :
    List (Visit Stream) :=
  (states.filter fun state => state.leftToRead ≠ 0).map fun state =>
    let piece := map.piece state.offset state.leftToRead
    (piece.stream, piece.count)

private theorem visitsOf_unfinished {Stream : Type} (map : MapStream Stream) {state : SparseState}
    (unfinished : state.leftToRead ≠ 0) (states : List SparseState) :
    visitsOf map (state :: states) =
      ((map.piece state.offset state.leftToRead).stream,
        (map.piece state.offset state.leftToRead).count) :: visitsOf map states := by
  rw [visitsOf, List.filter_cons_of_pos (by simpa using unfinished), List.map_cons]
  rfl

/-- How the two loops go from one position, where `pieces` is what `read` copies from it. -/
structure Agrees {Stream World : Type} (map : MapStream Stream) (getResourceID : Stream → Bytes)
    (reader : StreamReader Stream World) (fuel : Nat) (state : ReadState Stream World)
    (result : ReadEnd Stream World) (pieces : List (Visit Stream)) : Prop where
  read : Loop.run (map.readTurn reader) fuel state = some (.ok result)
  res : result.res = (state.actualRead + state.leftToRead).toInt
  copied : copies result =
    (state.lowerReads.map fun lowerRead => (some lowerRead.stream, lowerRead.count)) ++ pieces
  answer : Loop.run (sparseTurn map getResourceID) fuel ⟨state.leftToRead, state.offset⟩ =
    some (.ok (pieces.all (fromSparse getResourceID)))
  visits : visitsOf map
      (Loop.trace (sparseTurn map getResourceID) fuel ⟨state.leftToRead, state.offset⟩) =
    takeThrough (fromSparse getResourceID) pieces

theorem Agrees.start {Stream World : Type} (map : MapStream Stream)
    (getResourceID : Stream → Bytes) (reader : StreamReader Stream World)
    {state : ReadState Stream World} (finished : state.leftToRead = 0) (fuel : Nat) :
    ∃ result, Agrees map getResourceID reader (fuel + 1) state result [] := by
  have stops : sparseTurn map getResourceID ⟨state.leftToRead, state.offset⟩ = .done (.ok true) :=
    sparseTurn_finished map getResourceID finished
  refine ⟨_, Loop.run_done (readTurn_finished map reader finished) fuel, ?_,
    (List.append_nil _).symm, Loop.run_done stops fuel, ?_⟩
  · rw [finished, add_zero]
  · rw [Loop.trace_done stops]
    simp [visitsOf, finished, takeThrough]

theorem Agrees.step {Stream World : Type} {map : MapStream Stream}
    {getResourceID : Stream → Bytes} {reader : StreamReader Stream World} {fuel : Nat}
    {state after : ReadState Stream World} {result : ReadEnd Stream World}
    {pieces : List (Visit Stream)} {stream : Stream} {outcome : ReadResult × World}
    (unfinished : state.leftToRead ≠ 0)
    (served : (map.piece state.offset state.leftToRead).stream = some stream)
    (advanced : after =
      state.advance stream (map.piece state.offset state.leftToRead).count outcome)
    (turned : map.readTurn reader state = .next after)
    (agrees : Agrees map getResourceID reader fuel after result pieces) :
    Agrees map getResourceID reader (fuel + 1) state result
      ((some stream, (map.piece state.offset state.leftToRead).count) :: pieces) := by
  subst advanced
  have turn : sparseTurn map getResourceID ⟨state.leftToRead, state.offset⟩ = _ :=
    sparseTurn_piece map getResourceID unfinished served
  have answer := agrees.answer
  have visits := agrees.visits
  dsimp only [ReadState.advance] at turn answer visits
  refine ⟨(Loop.run_next turned fuel).trans agrees.read, ?_, ?_, ?_, ?_⟩
  · rw [agrees.res]
    congr 1
    dsimp only [ReadState.advance]
    bv_omega
  · rw [agrees.copied]
    simp [ReadState.advance]
  · rw [List.all_cons]
    cases sparse : isSpareResource (getResourceID stream) with
    | false =>
        rw [sparse] at turn
        rw [Loop.run_done turn]
        simp [fromSparse, sparse]
    | true =>
        rw [sparse] at turn
        rw [Loop.run_next turn, answer]
        simp [fromSparse, sparse]
  · rw [takeThrough]
    cases sparse : isSpareResource (getResourceID stream) with
    | false =>
        rw [sparse] at turn
        rw [Loop.trace_done turn, visitsOf_unfinished map unfinished]
        simp [fromSparse, sparse, served, visitsOf]
    | true =>
        rw [sparse] at turn
        rw [Loop.trace_next turn, visitsOf_unfinished map unfinished, visits]
        simp [fromSparse, sparse, served]

private theorem res_pos_of_length {result : ReadResult} {count : Nat}
    (full : result.bytes.length = count) (positive : 0 < count) : ¬result.res ≤ 0 := by
  cases result with
  | failed =>
      rw [ReadResult.bytes_failed, List.length_nil] at full
      omega
  | delivered bytes =>
      rw [ReadResult.bytes_delivered] at full
      rw [ReadResult.res_delivered]
      omega

private theorem agrees_of_full {Stream World : Type} {map : MapStream Stream}
    (wellFormed : map.WellFormed)
    (getResourceID : Stream → Bytes) (reader : StreamReader Stream World) {fuel : Nat}
    {state : ReadState Stream World} (inside : state.Inside map)
    (enough : state.leftToRead.toNat < fuel)
    (full : InFull (answers reader (map.pieces fuel state.offset state.leftToRead) state.world)) :
    ∃ result pieces, Agrees map getResourceID reader fuel state result pieces := by
  induction fuel generalizing state with
  | zero => exact absurd enough (Nat.not_lt_zero _)
  | succ fuel ih =>
      by_cases finished : state.leftToRead = 0
      · obtain ⟨result, agrees⟩ := Agrees.start map getResourceID reader finished fuel
        exact ⟨result, [], agrees⟩
      · unfold ReadState.Inside at inside
        have positive := piece_count_pos wellFormed finished
            (show state.offset < map.size by bv_omega)
        have bounded := piece_count_le map state.offset state.leftToRead
        rcases readTurn_piece map reader finished with ⟨unserved, _⟩ | ⟨stream, served, turned⟩
        · -- A missing stream delivers nothing, so the request is not answered in full.
          rw [answers_unserved map reader finished unserved] at full
          have nothing := full _ (List.mem_singleton.mpr rfl)
          rw [ReadResult.bytes_failed] at nothing
          exact absurd nothing positive.ne
        · rw [answers_unfinished map reader finished served, if_neg (by bv_omega)] at full
          have answered := res_pos_of_length (full _ List.mem_cons_self) positive
          rw [ReadState.serve_positive answered] at turned
          obtain ⟨result, pieces, agrees⟩ := @ih
            (state.advance stream (map.piece state.offset state.leftToRead).count
              (reader.read stream (map.piece state.offset state.leftToRead).count
                (map.piece state.offset state.leftToRead).lowerOffset state.world))
            (by dsimp only [ReadState.Inside, ReadState.advance]; bv_omega)
            (by dsimp only [ReadState.advance]; bv_omega)
            fun request member => full request (.tail _ member)
          exact ⟨result, _, agrees.step finished served rfl turned⟩

/-! ## A constructed map -/

theorem create_closed {Stream : Type} {parent : Parent Stream} {resource : Bytes} {size : U64}
    {unknownOverride mapGapStream : Option Stream} {order : PointSort} {heap : Nat → UInt8}
    {self : MapStream Stream}
    (created : MapStream.create parent resource size unknownOverride mapGapStream order heap =
      .ok self) (isClosed : self.closed = true) : self.size = 0 := by
  obtain ⟨_, stream, _, initialised, ⟨empty, rfl⟩ | ⟨_, rfl⟩⟩ := create_cases created
  · rw [MapStream.size, MapStream.close_length, empty]
  · rw [initMap_open initialised] at isClosed
    cases isClosed

/-- Where the lower streams deliver in full, `isSparse` visits the pieces that a read of the range
copies, in order and up to the first one that is not sparse, and answers whether all of them are
sparse. -/
theorem isSparse_visits {Stream World : Type} {parent : Parent Stream} {resource : Bytes}
    {size : U64} {unknownOverride mapGapStream : Option Stream} {order : PointSort}
    {heap : Nat → UInt8} {self : MapStream Stream}
    (created : MapStream.create parent resource size unknownOverride mapGapStream order heap =
      .ok self) (getResourceID : Stream → Bytes) (reader : StreamReader Stream World)
    {memory : Buffer} {nOfs nSize : U64} (room : nSize.toNat ≤ memory.capacity)
    (inside : nOfs.toNat + nSize.toNat ≤ self.size.toNat) {world : World}
    (full : InFull (self.requests reader nSize nOfs world)) :
    ∃ result answer, self.read reader memory nSize nOfs world = some (.ok result) ∧
      (self.closed = false → result.res = nSize.toNat) ∧
      isSparse self getResourceID nOfs nSize = some (.ok answer) ∧
      sparseVisits self getResourceID nOfs nSize =
        takeThrough (fromSparse getResourceID) (copies result) ∧
      (answer = true ↔ ∀ lowerRead ∈ result.lowerReads,
        isSpareResource (getResourceID lowerRead.stream) = true) := by
  cases status : self.closed with
  | true =>
      have empty := create_closed created status
      have nothing : nSize = 0 := by
        rw [empty] at inside
        bv_omega
      subst nothing
      have stops : sparseTurn self getResourceID ⟨0, nOfs⟩ = .done (.ok true) := rfl
      refine ⟨⟨-1, memory, world, []⟩, true, ?_, fun isOpen => absurd isOpen (by decide),
        Loop.run_done stops 0, ?_, by simp⟩
      · rw [MapStream.read, status, if_pos rfl]
      · change visitsOf self (Loop.trace (sparseTurn self getResourceID) 1 ⟨0, nOfs⟩) = []
        rw [Loop.trace_done stops]
        rfl
  | false =>
      have whole : truncateCount self.size nOfs nSize = nSize := by
        rw [truncateCount, if_neg (by bv_omega)]
      have below : ¬nOfs > self.size := by bv_omega
      unfold MapStream.requests at full
      rw [if_neg below, whole] at full
      have start : ReadState.Inside ⟨nSize, 0, nOfs, 0, memory, world, []⟩ self := inside
      obtain ⟨result, pieces, agrees⟩ := agrees_of_full (create_wellFormed created status)
        getResourceID reader start (Nat.lt_succ_self _) full
      have copied : copies result = pieces := agrees.copied
      have small := memory.capacity_lt
      refine ⟨result, _, ?_, fun _ => ?_, agrees.answer, ?_, ?_⟩
      · rw [MapStream.read, status, if_neg Bool.false_ne_true, if_neg below, whole]
        exact agrees.read
      · rw [agrees.res, zero_add, toInt_of_lt (by dsimp only; omega)]
      · rw [copied]
        exact agrees.visits
      · rw [← copied, copies, List.all_map, List.all_eq_true]
        rfl

def adjacentRecords : List MapEntryPoint := [⟨0, 10, 0, 0⟩, ⟨10, 10, 0, 1⟩]

def adjacentMap : MapStream Bytes :=
  ⟨false, 20, [some (text "a"), some (text "b"), some (text "gap")],
    ⟨[(0, ⟨0, 10, 0, 0⟩), (10, ⟨10, 10, 0, 1⟩)], by decide⟩⟩

private theorem create_adjacent :
    MapStream.create (Parent.ofRecords twoLines adjacentRecords (by decide)) [] 0 none
      (some (text "gap")) .insertion (fun _ => 0) = .ok adjacentMap := by
  have nonempty : (buildMap lexiconUnknown ((nonEmptyLines twoLines.bytes).map some)
      (some (text "gap")) (PointSort.insertion.sort adjacentRecords)).size 0 ≠ 0 := by decide
  exact create_ofRecords (List.cons_ne_nil _ _) (fun _ => 0) rfl nonempty

/-- Lower streams full of zeros. -/
def zeros : StreamReader Bytes Unit := .ofContent fun _ _ => 0

private theorem zeros_full : InFull (adjacentMap.requests zeros 4 8 ()) := by
  unfold InFull
  decide

theorem isSparse_visits_adjacent :
    ∃ result answer,
      adjacentMap.read zeros ⟨fun _ => 9, 4, by decide⟩ 4 8 () = some (.ok result) ∧
      isSparse adjacentMap id 8 4 = some (.ok answer) ∧
      sparseVisits adjacentMap id 8 4 = takeThrough (fromSparse id) (copies result) ∧
      (answer = true ↔ ∀ lowerRead ∈ result.lowerReads, isSpareResource lowerRead.stream =
        true) := by
  obtain ⟨result, answer, read, _, answered, visits, sparse⟩ := isSparse_visits create_adjacent id
    zeros (show (4 : U64).toNat ≤ (⟨fun _ => 9, 4, by decide⟩ : Buffer).capacity by decide)
    (show (8 : U64).toNat + (4 : U64).toNat ≤ adjacentMap.size.toNat by decide) zeros_full
  exact ⟨result, answer, read, answered, visits, sparse⟩

/-- Of the two pieces that a read copies, `isSparse` visits the first one. -/
theorem later_piece_unvisited :
    MapStream.create (Parent.ofRecords twoLines adjacentRecords (by decide)) [] 0 none
        (some (text "gap")) .insertion (fun _ => 0) = .ok adjacentMap ∧
      InFull (adjacentMap.requests zeros 4 8 ()) ∧
      ∃ result, adjacentMap.read zeros ⟨fun _ => 9, 4, by decide⟩ 4 8 () = some (.ok result) ∧
        copies result = [(some (text "a"), 2), (some (text "b"), 2)] ∧
        sparseVisits adjacentMap id 8 4 = [(some (text "a"), 2)] ∧
        sparseVisits adjacentMap id 8 4 ≠ copies result := by
  refine ⟨create_adjacent, zeros_full, _, rfl, ?_, ?_, ?_⟩
  · decide
  · decide
  · decide

end Aff4Lite.XWays
