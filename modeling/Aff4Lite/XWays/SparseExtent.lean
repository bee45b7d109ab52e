import Aff4Lite.Stream.MapImage
import Aff4Lite.XWays.SparseProperties

/-!
# What `isSparse` answers

The records of a map say of every byte which stream it comes from, so they also say of every
byte whether it is sparse. `isSparse` answers for the whole range.
-/

set_option autoImplicit false

namespace Aff4Lite.XWays

open Lib Aff4Lite.Stream

variable {Stream : Type}

/-- The bytes of a stream are sparse or not by its name alone. -/
def sparseExtent (content : Stream → Extent UInt8) (getResourceID : Stream → Bytes)
    (stream : Stream) : Extent Bool where
  size := (content stream).size
  item _ := isSpareResource (getResourceID stream)

/-- Which bytes of the image are sparse. -/
def sparseness {content : Stream → Extent UInt8} (opened : OpenedMap Stream content)
    (getResourceID : Stream → Bytes) : Extent Bool :=
  recordMosaic opened.self.size.toNat (opened.segment.records opened.heap) opened.streams
    opened.gap (sparseExtent content getResourceID)

def flagByte (flag : Bool) : UInt8 := if flag then 1 else 0

private theorem flagByte_injective {left right : Bool} (same : flagByte left = flagByte right) :
    left = right := by
  revert same
  cases left <;> cases right <;> decide

/-- The stream that a read finds for an address tells what the records say of it. -/
theorem sparse_found {content : Stream → Extent UInt8} (opened : OpenedMap Stream content)
    (addressed : ∀ stream, (content stream).size < 2 ^ 64) (getResourceID : Stream → Bytes)
    {first address : U64} {entry : MapEntryPoint} {lower : Stream} (ordered : first ≤ address)
    (inside : address < opened.self.size) (near : address.toNat < first.toNat + (2 ^ 63 - 1))
    (found : opened.self.Finds first entry lower) (spans : address - entry.offset < entry.length) :
    (sparseness opened getResourceID).item address.toNat =
      isSpareResource (getResourceID lower) := by
  have views := @OpenedMap.shows_mosaic _ _ opened addressed
    (fun stream => (sparseExtent content getResourceID stream).map flagByte) (fun _ => rfl)
    first address entry lower ordered inside near found spans
  have isMosaic : recordMosaic opened.self.size.toNat (opened.segment.records opened.heap)
      opened.streams opened.gap
      (fun stream => (sparseExtent content getResourceID stream).map flagByte) =
        (sparseness opened getResourceID).map flagByte := mosaic_map flagByte _ _ _ _
  rw [isMosaic] at views
  exact flagByte_injective views.symm

/-- The loop stands inside the map, and what is left of the range decides the answer. -/
structure SparseState.Decides (map : MapStream Stream) (flags : Extent Bool) (answer : Bool)
    (state : SparseState) : Prop where
  inside : state.Inside map
  small : state.leftToRead.toNat < 2 ^ 63
  rest : (flags.read state.offset.toNat state.leftToRead.toNat).all id = answer

private theorem sparseTurn_decides {content : Stream → Extent UInt8}
    (opened : OpenedMap Stream content)
    (addressed : ∀ stream, (content stream).size < 2 ^ 64) (getResourceID : Stream → Bytes)
    (answer : Bool) (state : SparseState)
    (decides : state.Decides opened.self (sparseness opened getResourceID) answer) :
    Loop.Progress (sparseTurn opened.self getResourceID)
      (SparseState.Decides opened.self (sparseness opened getResourceID) answer)
      (fun state => state.leftToRead.toNat) (fun outcome => outcome = .ok answer) state := by
  obtain ⟨inside, small, rest⟩ := decides
  unfold Loop.Progress sparseTurn
  by_cases finished : state.leftToRead = 0
  · rw [finished] at rest
    exact .inl ⟨_, if_pos finished, congrArg Except.ok rest⟩
  · unfold SparseState.Inside at inside
    have wellFormed := create_wellFormed opened.created opened.isOpen
    have present := create_present opened.created opened.isOpen rfl
    obtain ⟨entry, lower, found, spans⟩ :=
      wellFormed.finds present (show state.offset < opened.self.size by bv_omega)
    have positive := MapEntryPoint.readLength_pos finished spans
    have bounded := entry.readLength_le state.offset state.leftToRead
    have piece : ∀ index, index < (entry.readLength state.offset state.leftToRead).toNat →
        (sparseness opened getResourceID).item (state.offset.toNat + index) =
          isSpareResource (getResourceID lower) := by
      intro index below
      have place : (state.offset + BitVec.ofNat 64 index).toNat = state.offset.toNat + index := by
        bv_omega
      rw [← place]
      exact sparse_found opened addressed getResourceID (by bv_omega) (by bv_omega) (by omega)
        found (entry.readLength_spans spans below)
    rw [if_neg finished, found.entryAt]
    dsimp only
    rw [found.lower]
    dsimp only
    generalize entry.readLength state.offset state.leftToRead = count at *
    have covered : state.offset.toNat + count.toNat ≤ (sparseness opened getResourceID).size := by
      change _ ≤ opened.self.size.toNat
      omega
    have split : state.leftToRead.toNat = count.toNat + (state.leftToRead - count).toNat := by
      bv_omega
    rw [split, Extent.read_add, Extent.read_replicate _ covered piece, List.all_append] at rest
    cases sparse : isSpareResource (getResourceID lower) with
    | false =>
        refine .inl ⟨_, if_neg Bool.false_ne_true, ?_⟩
        rw [sparse, List.all_replicate, if_neg (by omega), id, Bool.false_and] at rest
        rw [rest]
    | true =>
        refine .inr ⟨_, if_pos rfl, ⟨?_, ?_, ?_⟩, ?_⟩
        · unfold SparseState.Inside
          dsimp only
          bv_omega
        · dsimp only
          bv_omega
        · have next : (state.offset + count).toNat = state.offset.toNat + count.toNat := by
            bv_omega
          rw [sparse, List.all_replicate, if_neg (by omega), id, Bool.true_and] at rest
          rw [next, rest]
        · dsimp only
          bv_omega

/-- `isSparse` answers true where every byte of the range is sparse, and false otherwise. -/
theorem isSparse_eq {content : Stream → Extent UInt8} (opened : OpenedMap Stream content)
    (addressed : ∀ stream, (content stream).size < 2 ^ 64) (getResourceID : Stream → Bytes)
    {nOfs nSize : U64} (small : nSize.toNat < 2 ^ 63)
    (inside : nOfs.toNat + nSize.toNat ≤ opened.self.size.toNat) :
    isSparse opened.self getResourceID nOfs nSize =
      some (.ok (((sparseness opened getResourceID).read nOfs.toNat nSize.toNat).all id)) := by
  obtain ⟨_, ran, rfl⟩ := Loop.run_total _ (fun state => state.leftToRead.toNat) _
    (sparseTurn_decides opened addressed getResourceID
      (((sparseness opened getResourceID).read nOfs.toNat nSize.toNat).all id))
    (show SparseState.Decides _ _ _ ⟨nSize, nOfs⟩ from ⟨inside, small, rfl⟩) (Nat.lt_succ_self _)
  exact ran

/-- Every stream but `a` has a sparse name. -/
def zeroNames (name : Bytes) : Bytes :=
  if name = text "a" then name else text "http://aff4.org/Schema#Zero"

private theorem namedContent_addressed (name : Bytes) : (namedContent name).size < 2 ^ 64 :=
  (namedObject_holds name).addressed

/-- The stream that a byte of the image comes from. -/
def streamAt {content : Stream → Extent UInt8} (opened : OpenedMap Stream content)
    (address : Nat) : Stream :=
  match ((opened.segment.records opened.heap).map
      (MapEntryPoint.tile opened.streams opened.gap)).find? fun tile => tile.Covers address with
  | some tile => tile.source
  | none => opened.gap

private theorem item_sparseness {content : Stream → Extent UInt8}
    (opened : OpenedMap Stream content)
    (getResourceID : Stream → Bytes) (address : Nat) :
    (sparseness opened getResourceID).item address =
      isSpareResource (getResourceID (streamAt opened address)) := by
  unfold sparseness recordMosaic mosaic streamAt
  dsimp only
  cases List.find? (fun tile : Tile Stream => decide (tile.Covers address)) _ with
  | none => rfl
  | some tile => rfl

/-- `isSparse` comes back for every range inside the map, with true exactly where the records take
every byte of the range from a sparse stream. -/
theorem isSparse_iff {content : Stream → Extent UInt8} (opened : OpenedMap Stream content)
    (addressed : ∀ stream, (content stream).size < 2 ^ 64) (getResourceID : Stream → Bytes)
    {nOfs nSize : U64} (small : nSize.toNat < 2 ^ 63)
    (inside : nOfs.toNat + nSize.toNat ≤ opened.self.size.toNat) :
    ∃ answer, isSparse opened.self getResourceID nOfs nSize = some (.ok answer) ∧
      (answer = true ↔ ∀ address, nOfs.toNat ≤ address → address < nOfs.toNat + nSize.toNat →
        isSpareResource (getResourceID (streamAt opened address)) = true) := by
  refine ⟨_, isSparse_eq opened addressed getResourceID small inside, ?_⟩
  have whole : min nSize.toNat ((sparseness opened getResourceID).size - nOfs.toNat) =
      nSize.toNat := by
    change min nSize.toNat (opened.self.size.toNat - nOfs.toNat) = _
    omega
  rw [Extent.read, whole, List.all_map, List.all_eq_true]
  simp only [Function.comp_apply, id, item_sparseness, List.mem_range]
  constructor
  · intro sparse address first last
    have there := sparse (address - nOfs.toNat) (by omega)
    rwa [Nat.add_sub_cancel' first] at there
  · intro sparse index below
    exact sparse _ (Nat.le_add_right _ _) (Nat.add_lt_add_left below _)

theorem isSparse_iff_smallMap :
    ∃ answer, isSparse smallMap.self zeroNames 9 4 = some (.ok answer) ∧
      (answer = true ↔ ∀ address, 9 ≤ address → address < 9 + 4 →
        isSpareResource (zeroNames (streamAt smallMap address)) = true) :=
  @isSparse_iff _ _ smallMap namedContent_addressed zeroNames 9 4 (by decide) (by decide)

end Aff4Lite.XWays
