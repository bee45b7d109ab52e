import Aff4Lite.Stream.MapSegment
import Aff4Lite.Stream.MapStreamRead

/-!
The `IAFF4Stream::read` contract on the way up. The loop of `MapStream::read` advances by
what it asked for, not by what the lower stream delivered, so a short lower read passes
for a full one. What the requests of a range are answered, made in turn, decides whether the
report is true.
-/

set_option autoImplicit false

namespace Aff4Lite.Stream

open Lib

/-- What was reported was delivered: the lower reads add up to the result, and each byte
is the one delivered for its address. -/
def ReadEnd.Truthful {Stream World : Type} (result : ReadEnd Stream World) (offset : U64) : Prop :=
  0 ≤ result.res →
    (((result.lowerReads.map fun lowerRead => lowerRead.result.bytes.length).sum : Nat) : Int) =
        result.res ∧
      ∀ index : Nat, (index : Int) < result.res → ∃ lowerRead ∈ result.lowerReads, ∃ position,
        lowerRead.address + BitVec.ofNat 64 position = offset + BitVec.ofNat 64 index ∧
          lowerRead.result.bytes[position]? = some (result.memory.bytes index)

/-! ## The whole loop -/

def Fails {Stream : Type} (requests : List (Piece Stream × ReadResult)) : Prop :=
  ∃ request ∈ requests, request.2.res ≤ 0

def InFull {Stream : Type} (requests : List (Piece Stream × ReadResult)) : Prop :=
  ∀ request ∈ requests, request.2.bytes.length = request.1.count.toNat

private theorem run_fails {Stream World : Type} (self : MapStream Stream)
    (reader : StreamReader Stream World) {fuel : Nat} {state : ReadState Stream World}
    (enough : state.leftToRead.toNat < fuel)
    (fails : Fails (answers reader (self.pieces fuel state.offset state.leftToRead) state.world))
    {result : ReadEnd Stream World}
    (returned : Loop.run (self.readTurn reader) fuel state = some (.ok result)) :
    result.res = -1 := by
  induction fuel generalizing state with
  | zero => exact absurd enough (Nat.not_lt_zero _)
  | succ fuel ih =>
      by_cases finished : state.leftToRead = 0
      · obtain ⟨request, member, _⟩ := fails
        rw [MapStream.pieces, if_pos finished] at member
        cases member
      · rcases readTurn_piece self reader finished with
          ⟨_, fault, turned⟩ | ⟨stream, served, turned⟩
        · rw [Loop.run_done turned] at returned
          cases returned
        · rw [answers_unfinished self reader finished served] at fails
          by_cases failed : (reader.read stream (self.piece state.offset state.leftToRead).count
              (self.piece state.offset state.leftToRead).lowerOffset state.world).1.res ≤ 0
          · unfold ReadState.serve at turned
            rw [if_pos failed] at turned
            rw [Loop.run_done turned] at returned
            cases returned
            rfl
          · have nonzero := reader.count_pos failed
            have bounded := piece_count_le self state.offset state.leftToRead
            rw [ReadState.serve_positive failed] at turned
            rw [Loop.run_next turned] at returned
            refine ih ?_ ?_ returned
            · dsimp only [ReadState.advance]
              bv_omega
            · obtain ⟨request, member, low⟩ := fails
              rw [if_neg nonzero] at member
              rcases List.mem_cons.mp member with rfl | later
              · exact absurd low failed
              · exact ⟨request, later, low⟩

/-- How the loop ends from `state` when every request is answered. -/
structure ReadEnd.Completes {Stream World : Type} (result : ReadEnd Stream World)
    (state : ReadState Stream World) (requests : List (Piece Stream × ReadResult)) : Prop where
  res : result.res = (state.actualRead + state.leftToRead).toInt
  asked : (requests.map fun request => request.1.count.toNat).sum = state.leftToRead.toNat
  delivered : (result.lowerReads.map fun lowerRead => lowerRead.result.bytes.length).sum =
    (state.lowerReads.map fun lowerRead => lowerRead.result.bytes.length).sum +
      (requests.map fun request => request.2.bytes.length).sum

theorem run_completes {Stream World : Type} (self : MapStream Stream)
    (reader : StreamReader Stream World) {fuel : Nat} {state : ReadState Stream World}
    (enough : state.leftToRead.toNat < fuel)
    (answered : ¬Fails (answers reader (self.pieces fuel state.offset state.leftToRead)
      state.world)) :
    ∃ result, Loop.run (self.readTurn reader) fuel state = some (.ok result) ∧
      result.Completes state
        (answers reader (self.pieces fuel state.offset state.leftToRead) state.world) := by
  induction fuel generalizing state with
  | zero => exact absurd enough (Nat.not_lt_zero _)
  | succ fuel ih =>
      by_cases finished : state.leftToRead = 0
      · refine ⟨_, Loop.run_done (readTurn_finished self reader finished) fuel, ?_⟩
        rw [MapStream.pieces, if_pos finished]
        exact ⟨by rw [finished, add_zero], by rw [finished]; rfl, rfl⟩
      · rcases readTurn_piece self reader finished with ⟨unserved, _⟩ | ⟨stream, served, turned⟩
        · rw [answers_unserved self reader finished unserved] at answered
          exact absurd ⟨_, List.mem_singleton.mpr rfl, by simp⟩ answered
        · rw [answers_unfinished self reader finished served] at answered ⊢
          have positive : ¬(reader.read stream (self.piece state.offset state.leftToRead).count
              (self.piece state.offset state.leftToRead).lowerOffset state.world).1.res ≤ 0 :=
            fun low => answered ⟨_, List.mem_cons_self, low⟩
          have nonzero := reader.count_pos positive
          have bounded := piece_count_le self state.offset state.leftToRead
          rw [ReadState.serve_positive positive] at turned
          rw [if_neg nonzero] at answered ⊢
          rw [Loop.run_next turned]
          have fewer : (state.advance stream (self.piece state.offset state.leftToRead).count
              (reader.read stream (self.piece state.offset state.leftToRead).count
                (self.piece state.offset state.leftToRead).lowerOffset
                state.world)).leftToRead.toNat < fuel := by
            dsimp only [ReadState.advance]
            bv_omega
          obtain ⟨result, ran, res, asked, delivered⟩ := ih fewer (by
            rintro ⟨request, member, low⟩
            exact answered ⟨request, .tail _ member, low⟩)
          refine ⟨result, ran, ?_, ?_, ?_⟩
          · rw [res]
            congr 1
            dsimp only [ReadState.advance]
            bv_omega
          · rw [List.map_cons, List.sum_cons]
            dsimp only [ReadState.advance] at asked
            rw [asked]
            bv_omega
          · rw [delivered]
            simp [ReadState.advance, Nat.add_assoc]

/-- The bytes below `total` are those that the lower reads delivered for their addresses. -/
def Aligned {Stream : Type} (memory : Buffer) (lowerReads : List (LowerRead Stream)) (start : U64)
    (total : Nat) : Prop :=
  ∀ index, index < total → ∃ lowerRead ∈ lowerReads, ∃ position,
    lowerRead.address + BitVec.ofNat 64 position = start + BitVec.ofNat 64 index ∧
      lowerRead.result.bytes[position]? = some (memory.bytes index)

theorem Aligned.advance {Stream World : Type} {state : ReadState Stream World} {start : U64}
    (aligned : Aligned state.memory state.lowerReads start state.buffer)
    (position : state.offset = start + BitVec.ofNat 64 state.buffer) (stream : Stream)
    {count : U64} {outcome : ReadResult × World} (full : outcome.1.bytes.length = count.toNat) :
    let after := state.advance stream count outcome
    Aligned after.memory after.lowerReads start after.buffer ∧
      after.offset = start + BitVec.ofNat 64 after.buffer := by
  dsimp only [ReadState.advance]
  refine ⟨?_, ?_⟩
  · intro index inside
    refine store_cells (fun index byte => ∃ lowerRead ∈ state.lowerReads ++
      [⟨state.offset, stream, count, outcome.1⟩], ∃ position,
        lowerRead.address + BitVec.ofNat 64 position = start + BitVec.ofNat 64 index ∧
          lowerRead.result.bytes[position]? = some byte) ?_ ?_ (by rwa [full])
    · intro index early
      obtain ⟨lowerRead, member, place, address, byte⟩ := aligned index early
      exact ⟨lowerRead, List.mem_append_left _ member, place, address, byte⟩
    · intro step byte found
      refine ⟨_, List.mem_append_right _ (List.mem_singleton.mpr rfl), step, ?_, found⟩
      rw [position, BitVec.add_assoc, BitVec.ofNat_add]
  · rw [position, BitVec.ofNat_add, BitVec.ofNat_toNat, BitVec.setWidth_eq, BitVec.add_assoc]

private theorem run_aligned {Stream World : Type} (self : MapStream Stream)
    (reader : StreamReader Stream World) {fuel : Nat} {state : ReadState Stream World}
    (answered : ¬Fails (answers reader (self.pieces fuel state.offset state.leftToRead)
      state.world))
    (inFull : InFull (answers reader (self.pieces fuel state.offset state.leftToRead) state.world))
    {start : U64} (aligned : Aligned state.memory state.lowerReads start state.buffer)
    (position : state.offset = start + BitVec.ofNat 64 state.buffer)
    {result : ReadEnd Stream World}
    (returned : Loop.run (self.readTurn reader) fuel state = some (.ok result)) :
    Aligned result.memory result.lowerReads start (state.buffer + state.leftToRead.toNat) := by
  induction fuel generalizing state with
  | zero => cases returned
  | succ fuel ih =>
      by_cases finished : state.leftToRead = 0
      · rw [Loop.run_done (readTurn_finished self reader finished)] at returned
        cases returned
        rw [finished]
        exact aligned
      · rcases readTurn_piece self reader finished with ⟨unserved, _⟩ | ⟨stream, served, turned⟩
        · rw [answers_unserved self reader finished unserved] at answered
          exact absurd ⟨_, List.mem_singleton.mpr rfl, by simp⟩ answered
        · rw [answers_unfinished self reader finished served] at answered inFull
          have positive : ¬(reader.read stream (self.piece state.offset state.leftToRead).count
              (self.piece state.offset state.leftToRead).lowerOffset state.world).1.res ≤ 0 :=
            fun low => answered ⟨_, List.mem_cons_self, low⟩
          have nonzero := reader.count_pos positive
          have bounded := piece_count_le self state.offset state.leftToRead
          rw [ReadState.serve_positive positive] at turned
          rw [if_neg nonzero] at answered inFull
          rw [Loop.run_next turned] at returned
          obtain ⟨nextAligned, nextPosition⟩ :=
            aligned.advance position stream (inFull _ List.mem_cons_self)
          have rest := ih (fun ⟨request, member, low⟩ => answered ⟨request, .tail _ member, low⟩)
            (fun request member => inFull request (.tail _ member)) nextAligned nextPosition
              returned
          have total : (state.buffer + (self.piece state.offset state.leftToRead).count.toNat) +
              (state.leftToRead - (self.piece state.offset state.leftToRead).count).toNat =
              state.buffer + state.leftToRead.toNat := by
            bv_omega
          exact total ▸ rest

/-! ## The report -/

theorem parts_eq_of_sum_eq {α : Type} {items : List α} {part bound : α → Nat}
    (below : ∀ item ∈ items, part item ≤ bound item)
    (equal : (items.map part).sum = (items.map bound).sum) :
    ∀ item ∈ items, part item = bound item := by
  induction items with
  | nil => simp
  | cons head tail ih =>
      have headBelow := below head List.mem_cons_self
      have tailBelow : (tail.map part).sum ≤ (tail.map bound).sum :=
        List.sum_le_sum fun item member => below item (.tail _ member)
      rw [List.map_cons, List.map_cons, List.sum_cons, List.sum_cons] at equal
      intro item member
      rcases List.mem_cons.mp member with rfl | later
      · omega
      · exact ih (fun other otherMember => below other (.tail _ otherMember)) (by omega) item later

private theorem answers_bounded {Stream World : Type} (reader : StreamReader Stream World)
    (pieces : List (Piece Stream)) (world : World) :
    ∀ request ∈ answers reader pieces world,
      request.2.bytes.length ≤ request.1.count.toNat := by
  induction pieces generalizing world with
  | nil => simp [answers]
  | cons piece rest ih =>
      intro request member
      rw [answers] at member
      cases asked : piece.stream with
      | none =>
          rw [asked] at member
          rw [List.mem_singleton.mp member]
          exact Nat.zero_le _
      | some stream =>
          rw [asked] at member
          rcases List.mem_cons.mp member with rfl | later
          · exact (reader.bounded stream piece.count piece.lowerOffset world).1
          · exact ih _ request later

/-- A call whose requests are all answered is truthful exactly when they are answered in full. -/
private theorem completes_truthful_iff {Stream World : Type} {self : MapStream Stream}
    {reader : StreamReader Stream World} {memory : Buffer} {asked offset : U64} {world : World}
    (small : asked.toNat < 2 ^ 63) {result : ReadEnd Stream World}
    (returned : Loop.run (self.readTurn reader) (asked.toNat + 1)
      ⟨asked, 0, offset, 0, memory, world, []⟩ = some (.ok result))
    (answered : ¬Fails (answers reader (self.pieces (asked.toNat + 1) offset asked) world))
    (completes : result.Completes ⟨asked, 0, offset, 0, memory, world, []⟩
      (answers reader (self.pieces (asked.toNat + 1) offset asked) world)) :
    result.Truthful offset ↔
      InFull (answers reader (self.pieces (asked.toNat + 1) offset asked) world) := by
  have res : result.res = (asked.toNat : Int) := by
    rw [completes.res, zero_add, toInt_of_lt small]
  have counts := completes.asked
  have delivered := completes.delivered
  simp only [List.map_nil, List.sum_nil, Nat.zero_add] at counts delivered
  constructor
  · intro truthful
    have total := (truthful (by omega)).1
    rw [res, delivered] at total
    exact parts_eq_of_sum_eq (answers_bounded reader _ world) (by omega)
  · intro inFull _
    have same : (answers reader (self.pieces (asked.toNat + 1) offset asked) world).map
          (fun request => request.2.bytes.length) =
        (answers reader (self.pieces (asked.toNat + 1) offset asked) world).map
          (fun request => request.1.count.toNat) := List.map_congr_left inFull
    have nothing : Aligned memory ([] : List (LowerRead Stream)) offset 0 :=
      fun index negative => absurd negative (Nat.not_lt_zero index)
    have aligned := run_aligned self reader answered inFull nothing
      (by rw [BitVec.add_zero]) returned
    refine ⟨?_, ?_⟩
    · rw [res, delivered, same, counts]
    · intro index inside
      exact aligned index (by dsimp only; omega)

/-- `MapStream::read` reports what was delivered exactly when a request of the range fails
(and the call with it) or all of them are answered in full. -/
theorem read_truthful_iff {Stream World : Type} {self : MapStream Stream}
    (isOpen : self.closed = false) (reader : StreamReader Stream World) {memory : Buffer}
    {count offset : U64} (room : (truncateCount self.size offset count).toNat ≤ memory.capacity)
    (world : World) :
    (∀ result, self.read reader memory count offset world = some (.ok result) →
        result.Truthful offset) ↔
      Fails (self.requests reader count offset world) ∨
        InFull (self.requests reader count offset world) := by
  have small := memory.capacity_lt
  unfold MapStream.read MapStream.requests
  rw [isOpen, if_neg Bool.false_ne_true]
  by_cases beyond : offset > self.size
  · rw [if_pos beyond, if_pos beyond]
    constructor
    · exact fun _ => .inr (by simp [InFull])
    · intro _ result returned
      cases returned
      exact fun _ => ⟨rfl, fun index negative => by dsimp only at negative; omega⟩
  · rw [if_neg beyond, if_neg beyond]
    dsimp only
    generalize truncateCount self.size offset count = asked at *
    by_cases fails : Fails (answers reader (self.pieces (asked.toNat + 1) offset asked) world)
    · refine ⟨fun _ => .inl fails, ?_⟩
      intro _ result returned
      have failed := run_fails self reader (Nat.lt_succ_self _) fails returned
      intro reported
      rw [failed] at reported
      exact absurd reported (by decide)
    · let start : ReadState Stream World := ⟨asked, 0, offset, 0, memory, world, []⟩
      have enough : start.leftToRead.toNat < asked.toNat + 1 := Nat.lt_succ_self _
      obtain ⟨result, ran, completes⟩ := run_completes self reader enough fails
      have bound : asked.toNat < 2 ^ 63 := by omega
      have truthful := completes_truthful_iff bound ran fails completes
      constructor
      · exact fun holds => .inr (truthful.mp (holds result ran))
      · intro served other returned
        rw [ran] at returned
        cases returned
        exact truthful.mpr (served.resolve_left fails)

/-- Streams that give a single byte to every request, as the contract allows. -/
def oneByteReader : StreamReader Bytes Unit where
  read _ count _ world := (.delivered (if count = 0 then [] else [7]), world)
  bounded := by
    intro _ count _ _
    by_cases nothing : count = 0
    · simp [nothing]
    · simp only [nothing, if_false, ReadResult.bytes_delivered, List.length_singleton]
      exact ⟨by bv_omega, by decide⟩

/-- Ten bytes are reported, one was delivered. -/
theorem short_read_reported :
    ∃ self, MapStream.create (Parent.ofRecords twoLines overlappingRecords (by decide)) [] 0 none
        (some (text "gap")) .insertion (fun _ => 0) = .ok self ∧ self.closed = false ∧
      ∃ result, self.read oneByteReader ⟨fun _ => 0, 10, by decide⟩ 10 0 () = some (.ok result) ∧
        result.res = 10 ∧
        (result.lowerReads.map fun lowerRead => lowerRead.result.bytes.length).sum = 1 ∧
        ¬result.Truthful 0 := by
  refine ⟨_, create_overlapping, rfl, _, rfl, rfl, rfl, ?_⟩
  intro truthful
  exact absurd (truthful (by decide)).1 (by decide)

theorem read_truthful_iff_one_byte :
    ∃ self, MapStream.create (Parent.ofRecords twoLines overlappingRecords (by decide)) [] 0 none
        (some (text "gap")) .insertion (fun _ => 0) = .ok self ∧
      ((∀ result, self.read oneByteReader ⟨fun _ => 0, 10, by decide⟩ 10 0 () = some (.ok result) →
          result.Truthful 0) ↔
        Fails (self.requests oneByteReader 10 0 ()) ∨
          InFull (self.requests oneByteReader 10 0 ())) :=
  ⟨_, create_overlapping, read_truthful_iff rfl oneByteReader (by decide) ()⟩

end Aff4Lite.Stream
