import Aff4Lite.Stream.MapSegment
import Aff4Lite.Stream.MapStreamRead
import Aff4Lite.XWays.Sparse

/-!
The lookup of an open map below `size()`, and what it means for the two loops that walk
the entries: each turn consumes a byte, so both end for every range inside the stream.
-/

set_option autoImplicit false

namespace Aff4Lite.XWays

open Aff4Lite.Lib Aff4Lite.Stream

def SparseState.Inside {Stream : Type} (state : SparseState) (map : MapStream Stream) : Prop :=
  state.offset.toNat + state.leftToRead.toNat ≤ map.size.toNat

private theorem sparseTurn_progress {Stream : Type} {map : MapStream Stream}
    (wellFormed : map.WellFormed) (present : ∀ stream ∈ map.streams, stream.isSome)
    (getResourceID : Stream → Bytes) (state : SparseState) (inside : state.Inside map) :
    Loop.Progress (sparseTurn map getResourceID) (SparseState.Inside · map)
      (fun state => state.leftToRead.toNat) (fun outcome => ∃ answer, outcome = .ok answer)
      state := by
  unfold Loop.Progress sparseTurn
  by_cases finished : state.leftToRead = 0
  · exact .inl ⟨_, if_pos finished, true, rfl⟩
  · unfold SparseState.Inside at inside
    have below : state.offset < map.size := by bv_omega
    obtain ⟨entry, lower, found, spans⟩ := wellFormed.finds present below
    have positive := MapEntryPoint.readLength_pos finished spans
    have bounded := entry.readLength_le state.offset state.leftToRead
    rw [if_neg finished, found.entryAt]
    dsimp only
    rw [found.lower]
    dsimp only
    cases isSpareResource (getResourceID lower) with
    | false => exact .inl ⟨_, rfl, false, rfl⟩
    | true =>
        refine .inr ⟨_, rfl, ?_, ?_⟩
        · unfold SparseState.Inside
          dsimp only
          bv_omega
        · dsimp only
          bv_omega

private theorem isSparse_inside {Stream : Type} {map : MapStream Stream}
    (wellFormed : map.WellFormed) (present : ∀ stream ∈ map.streams, stream.isSome)
    (getResourceID : Stream → Bytes) {nOfs nSize : U64}
    (inside : nOfs.toNat + nSize.toNat ≤ map.size.toNat) :
    ∃ answer, isSparse map getResourceID nOfs nSize = some (.ok answer) := by
  obtain ⟨_, ran, answer, rfl⟩ := Loop.run_total (SparseState.Inside · map)
    (fun state => state.leftToRead.toNat) _ (sparseTurn_progress wellFormed present getResourceID)
    (show SparseState.Inside ⟨nSize, nOfs⟩ map from inside) (Nat.lt_succ_self _)
  exact ⟨answer, ran⟩

/-- The lookup is total below `size()` on every open map, hostile records included, and
both loops consume what they walk over. -/
theorem open_map_lookup {Stream : Type} {parent : Parent Stream} {resource : Bytes} {size : U64}
    {unknownOverride mapGapStream : Option Stream} {order : PointSort} {heap : Nat → UInt8}
    {self : MapStream Stream}
    (created : MapStream.create parent resource size unknownOverride mapGapStream order heap =
      .ok self) (isOpen : self.closed = false) (gapPresent : mapGapStream.isSome) :
    (∀ address < self.size, ∃ entry, self.entryAt address = .ok entry ∧
      entry.offset ≤ address ∧ address - entry.offset < entry.length ∧
        entry.streamID.toNat < self.streams.length) ∧
    (∀ (World : Type) (reader : StreamReader Stream World) (start state : ReadState Stream World),
      start.Inside self → Loop.Reaches (self.readTurn reader) start state →
        (state.leftToRead ≠ 0 → ∃ entry, self.entryAt state.offset = .ok entry ∧
          0 < (entry.readLength state.offset state.leftToRead).toNat) ∧
        ∀ after, self.readTurn reader state = .next after →
          after.leftToRead.toNat < state.leftToRead.toNat) ∧
    (∀ (getResourceID : Stream → Bytes) (start state : SparseState),
      start.Inside self → Loop.Reaches (sparseTurn self getResourceID) start state →
        (state.leftToRead ≠ 0 → ∃ entry, self.entryAt state.offset = .ok entry ∧
          0 < (entry.readLength state.offset state.leftToRead).toNat) ∧
        ∀ after, sparseTurn self getResourceID state = .next after →
          after.leftToRead.toNat < state.leftToRead.toNat) ∧
    (∀ count offset : U64, offset.toNat + count.toNat ≤ self.size.toNat →
      (∀ (World : Type) (reader : StreamReader Stream World) (memory : Buffer) (world : World),
        ∃ result, self.read reader memory count offset world = some (.ok result)) ∧
      ∀ getResourceID : Stream → Bytes,
        ∃ answer, isSparse self getResourceID offset count = some (.ok answer)) := by
  have wellFormed := create_wellFormed created isOpen
  have present := create_present created isOpen gapPresent
  have asks : ∀ offset leftToRead : U64, offset.toNat + leftToRead.toNat ≤ self.size.toNat →
      leftToRead ≠ 0 → ∃ entry, self.entryAt offset = .ok entry ∧
        0 < (entry.readLength offset leftToRead).toNat := by
    intro offset leftToRead inside unfinished
    have below : offset < self.size := by bv_omega
    obtain ⟨entry, _, found, _, spans⟩ := entryAt_spans wellFormed below
    exact ⟨entry, found, MapEntryPoint.readLength_pos unfinished spans⟩
  refine ⟨?_, ?_, ?_, ?_⟩
  · intro address inside
    obtain ⟨entry, member, found, below, spans⟩ := entryAt_spans wellFormed inside
    exact ⟨entry, found, below, spans, wellFormed.known _ member⟩
  · intro World reader start state inside reached
    have progress := readTurn_progress wellFormed present reader
    have held := reached.holds progress inside
    exact ⟨asks _ _ held, fun after moved => ((progress state held).next moved).2⟩
  · intro getResourceID start state inside reached
    have progress := sparseTurn_progress wellFormed present getResourceID
    have held := reached.holds progress inside
    exact ⟨asks _ _ held, fun after moved => ((progress state held).next moved).2⟩
  · intro count offset inside
    exact ⟨fun World reader memory world => read_inside wellFormed present isOpen reader memory
        inside world, fun getResourceID => isSparse_inside wellFormed present getResourceID inside⟩

theorem open_map_lookup_overlapping :
    ∃ self, MapStream.create (Parent.ofRecords twoLines overlappingRecords (by decide)) [] 0 none
        (some (text "gap")) .insertion (fun _ => 0) = .ok self ∧
      ∀ address < self.size, ∃ entry, self.entryAt address = .ok entry ∧
        entry.offset ≤ address ∧ address - entry.offset < entry.length ∧
          entry.streamID.toNat < self.streams.length :=
  ⟨_, create_overlapping, (open_map_lookup create_overlapping rfl rfl).1⟩

end Aff4Lite.XWays
