import Aff4Lite.Lib.Bytes

/-!
# Extents

An address space with a size. `read` answers a request for a range of it, cut off at the
end; `mosaic` is put together from ranges of other extents.
-/

set_option autoImplicit false

namespace Aff4Lite.Lib

/-- An address space of `size` cells. Nothing depends on what `item` says behind them. -/
structure Extent (Item : Type) where
  size : Nat
  item : Nat → Item

namespace Extent

variable {Item : Type}

def read (extent : Extent Item) (offset count : Nat) : List Item :=
  (List.range (min count (extent.size - offset))).map fun index => extent.item (offset + index)

def whole (extent : Extent Item) : List Item := extent.read 0 extent.size

@[simp] theorem length_read (extent : Extent Item) (offset count : Nat) :
    (extent.read offset count).length = min count (extent.size - offset) := by
  simp [read]

@[simp] theorem length_whole (extent : Extent Item) : extent.whole.length = extent.size := by
  simp [whole]

theorem getElem?_read (extent : Extent Item) {offset count index : Nat}
    (inside : index < min count (extent.size - offset)) :
    (extent.read offset count)[index]? = some (extent.item (offset + index)) := by
  rw [read, List.getElem?_map, List.getElem?_range inside, Option.map_some]

theorem getElem?_read_eq_none (extent : Extent Item) {offset count index : Nat}
    (outside : min count (extent.size - offset) ≤ index) :
    (extent.read offset count)[index]? = none :=
  List.getElem?_eq_none (by rwa [length_read])

@[simp] theorem read_zero (extent : Extent Item) (offset : Nat) : extent.read offset 0 = [] := by
  simp [read]

theorem read_behind (extent : Extent Item) {offset : Nat} (behind : extent.size ≤ offset)
    (count : Nat) : extent.read offset count = [] := by
  rw [read, Nat.sub_eq_zero_of_le behind, Nat.min_zero]
  rfl

/-- A count that goes beyond the end of an extent reads as much as the count up to there. -/
@[simp] theorem read_min (extent : Extent Item) (offset count : Nat) :
    extent.read offset (min count (extent.size - offset)) = extent.read offset count := by
  rw [read, read, min_assoc, min_self]

theorem read_add (extent : Extent Item) (offset first second : Nat) :
    extent.read offset (first + second) =
      extent.read offset first ++ extent.read (offset + first) second := by
  have parts : min (first + second) (extent.size - offset) =
      min first (extent.size - offset) + min second (extent.size - (offset + first)) := by
    omega
  rw [read, read, read, parts, List.range_add, List.map_append, List.map_map]
  congr 1
  apply List.map_congr_left
  intro index member
  have below := List.mem_range.mp member
  rw [Function.comp_apply, min_eq_left (show first ≤ extent.size - offset by omega),
    Nat.add_assoc]

theorem read_eq_slice (extent : Extent Item) (offset count : Nat) :
    extent.read offset count = slice extent.whole offset count := by
  apply List.ext_getElem?
  intro index
  rw [getElem?_slice]
  by_cases inside : index < min count (extent.size - offset)
  · rw [getElem?_read extent inside, if_pos (by omega), whole,
      getElem?_read extent (by omega), Nat.zero_add]
  · rw [getElem?_read_eq_none extent (by omega)]
    split
    · rw [List.getElem?_eq_none (by rw [length_whole]; omega)]
    · rfl

theorem whole_eq {extent : Extent Item} {items : List Item} (size : extent.size = items.length)
    (holds : ∀ address, address < items.length → items[address]? = some (extent.item address)) :
    extent.whole = items := by
  apply List.ext_getElem?
  intro address
  by_cases below : address < items.length
  · rw [whole, getElem?_read extent (by omega), Nat.zero_add, holds address below]
  · rw [List.getElem?_eq_none (by rw [length_whole]; omega), List.getElem?_eq_none (by omega)]

/-- Bytes at the addresses from 0 on. -/
def ofBytes (bytes : Bytes) : Extent UInt8 where
  size := bytes.length
  item address := bytes[address]?.getD 0

theorem read_ofBytes (bytes : Bytes) (offset count : Nat) :
    (ofBytes bytes).read offset count = slice bytes offset count := by
  have whole : (ofBytes bytes).whole = bytes := by
    refine whole_eq rfl ?_
    intro address below
    change _ = some (bytes[address]?.getD 0)
    rw [List.getElem?_eq_getElem below, Option.getD_some]
  rw [read_eq_slice, whole]

/-- The same addresses with other cells. -/
def map {Other : Type} (change : Item → Other) (extent : Extent Item) : Extent Other where
  size := extent.size
  item address := change (extent.item address)

theorem read_replicate (extent : Extent Item) {offset count : Nat} {item : Item}
    (inside : offset + count ≤ extent.size)
    (constant : ∀ index, index < count → extent.item (offset + index) = item) :
    extent.read offset count = List.replicate count item := by
  rw [read, Nat.min_eq_left (by omega), List.eq_replicate_iff]
  refine ⟨by simp, ?_⟩
  intro value member
  obtain ⟨index, below, rfl⟩ := List.mem_map.mp member
  exact constant index (List.mem_range.mp below)

end Extent

/-! ## Mosaics -/

/-- A range of addresses that shows a range of a source. -/
structure Tile (Source : Type) where
  start : Nat
  length : Nat
  source : Source
  sourceStart : Nat

namespace Tile

variable {Source : Type}

def Covers (tile : Tile Source) (address : Nat) : Prop :=
  tile.start ≤ address ∧ address < tile.start + tile.length

instance (tile : Tile Source) (address : Nat) : Decidable (tile.Covers address) :=
  inferInstanceAs (Decidable (_ ∧ _))

end Tile

/-- The extent that shows each tile where it lies, and the cells of `rest` at their own
addresses everywhere else. -/
def mosaic {Source Item : Type} (size : Nat) (tiles : List (Tile Source)) (rest : Source)
    (content : Source → Extent Item) : Extent Item where
  size := size
  item address :=
    match tiles.find? fun tile => tile.Covers address with
    | some tile => (content tile.source).item (tile.sourceStart + (address - tile.start))
    | none => (content rest).item address

theorem mosaic_map {Source Item Other : Type} (change : Item → Other) (size : Nat)
    (tiles : List (Tile Source)) (rest : Source) (content : Source → Extent Item) :
    mosaic size tiles rest (fun source => (content source).map change) =
      (mosaic size tiles rest content).map change := by
  unfold mosaic Extent.map
  congr 1
  funext address
  dsimp only
  cases tiles.find? fun tile => tile.Covers address with
  | none => rfl
  | some tile => rfl

end Aff4Lite.Lib
