import Aff4Lite.Lib.Bytes

/-!
# Flat memory and address spaces

`store` is `memcpy` into a memory seen as a function of the position. `window` is
the other direction: the bytes that an address space holds from a start address on,
with addresses that wrap like the 64-bit positions of the source.
-/

set_option autoImplicit false

namespace Aff4Lite.Lib

/-- Write a list at a position; everything else keeps its value. -/
def store {α : Type} (memory : Nat → α) (position : Nat) (items : List α) : Nat → α :=
  fun index =>
    if position ≤ index then items[index - position]?.getD (memory index) else memory index

theorem store_before {α : Type} (memory : Nat → α) {position index : Nat} (items : List α)
    (before : index < position) : store memory position items index = memory index := by
  rw [store, if_neg (by omega)]

theorem store_after {α : Type} (memory : Nat → α) {position index : Nat} {items : List α}
    (after : position + items.length ≤ index) :
    store memory position items index = memory index := by
  have outside : items[index - position]? = none := List.getElem?_eq_none (by omega)
  simp [store, outside]

theorem store_inside {α : Type} (memory : Nat → α) (position : Nat) {index : Nat} {items : List α}
    {item : α} (found : items[index]? = some item) :
    store memory position items (position + index) = item := by
  simp [store, found]

/-- A list with other items written over it from a position in it on. -/
def overlay {α : Type} (items : List α) (position : Nat) (part : List α) : List α :=
  items.take position ++ part ++ items.drop (position + part.length)

@[simp] theorem overlay_nil {α : Type} (items : List α) (position : Nat) :
    overlay items position [] = items := by
  simp [overlay]

theorem overlay_end {α : Type} (items part : List α) :
    overlay items items.length part = items ++ part := by
  simp [overlay]

theorem length_overlay {α : Type} {items : List α} {position : Nat} (part : List α)
    (inside : position ≤ items.length) :
    (overlay items position part).length = max items.length (position + part.length) := by
  simp only [overlay, List.length_append, List.length_take, List.length_drop]
  omega

theorem getElem?_overlay {α : Type} {items part : List α} {position : Nat}
    (inside : position ≤ items.length) (index : Nat) :
    (overlay items position part)[index]? =
      if position ≤ index ∧ index < position + part.length then part[index - position]?
      else items[index]? := by
  have before : (items.take position).length = position := by
    rw [List.length_take]
    omega
  unfold overlay
  rw [List.append_assoc, List.getElem?_append, before]
  by_cases early : index < position
  · rw [if_pos early, if_neg (by omega), List.getElem?_take, if_pos early]
  · rw [if_neg early, List.getElem?_append]
    by_cases written : index - position < part.length
    · rw [if_pos written, if_pos (by omega)]
    · rw [if_neg written, if_neg (by omega), List.getElem?_drop]
      congr 1
      omega

/-- Parts of one list stay parts of it when one is written over the other in place. -/
theorem overlay_slice {α : Type} {items first second : List α} {start position : Nat}
    (before : first = slice items start first.length)
    (written : second = slice items (start + position) second.length)
    (inside : position ≤ first.length) :
    overlay first position second =
      slice items start (overlay first position second).length := by
  apply List.ext_getElem?
  intro index
  rw [getElem?_overlay inside, getElem?_slice, length_overlay second inside]
  split
  · rename_i within
    have place : start + position + (index - position) = start + index := by omega
    have found := congrArg (fun items => items[index - position]?) written
    rw [found, getElem?_slice, if_pos (by omega), if_pos (by omega), place]
  · rename_i outside
    have kept := congrArg (fun items => items[index]?) before
    rw [kept, getElem?_slice]
    by_cases early : index < first.length
    · rw [if_pos early, if_pos (by omega)]
    · rw [if_neg early, if_neg (by omega)]

/-- What holds of the cells below a position and of the items stored there holds of the cells
up to the end of the items. -/
theorem store_cells {α : Type} {memory : Nat → α} {position : Nat} {items : List α}
    (holds : Nat → α → Prop) (before : ∀ index, index < position → holds index (memory index))
    (next : ∀ step item, items[step]? = some item → holds (position + step) item) {index : Nat}
    (inside : index < position + items.length) :
    holds index (store memory position items index) := by
  by_cases early : index < position
  · rw [store_before _ _ early]
    exact before index early
  · obtain ⟨step, rfl⟩ := Nat.exists_eq_add_of_le (not_lt.mp early)
    have found := List.getElem?_eq_getElem (show step < items.length by omega)
    rw [store_inside _ _ found]
    exact next step _ found

/-- A store, seen through a function of the cells. -/
theorem store_map {α β : Type} (view : α → β) (memory : Nat → α) (position : Nat) (items : List α)
    (index : Nat) : view (store memory position items index) =
      store (fun place => view (memory place)) position (items.map view) index := by
  unfold store
  split
  · rw [List.getElem?_map]
    cases items[index - position]? with
    | none => rfl
    | some item => rfl
  · rfl

theorem map_store {α : Type} (memory : Nat → α) {items : List α} {start count : Nat}
    (inside : start + count ≤ items.length) :
    (List.range count).map (fun index => store memory 0 items (start + index)) =
      slice items start count := by
  apply List.ext_getElem?
  intro index
  rw [getElem?_slice, List.getElem?_map]
  by_cases below : index < count
  · have found := List.getElem?_eq_getElem (show start + index < items.length by omega)
    have stored := store_inside memory 0 found
    rw [Nat.zero_add] at stored
    rw [if_pos below, List.getElem?_range below, found]
    exact congrArg some stored
  · rw [if_neg below, List.getElem?_eq_none (by simpa using below)]
    rfl

/-- The bytes of an address space from `start` on. -/
def window {α : Type} (space : U64 → α) (start : U64) (count : Nat) : List α :=
  (List.range count).map fun index => space (start + BitVec.ofNat 64 index)

@[simp] theorem length_window {α : Type} (space : U64 → α) (start : U64) (count : Nat) :
    (window space start count).length = count := by
  simp [window]

theorem getElem?_window {α : Type} (space : U64 → α) (start : U64) {count index : Nat}
    (inside : index < count) :
    (window space start count)[index]? = some (space (start + BitVec.ofNat 64 index)) := by
  simp [window, inside]

theorem window_add {α : Type} (space : U64 → α) (start : U64) (first second : Nat) :
    window space start (first + second) =
      window space start first ++ window space (start + BitVec.ofNat 64 first) second := by
  simp only [window, List.range_add, List.map_append, List.map_map]
  congr 1
  apply List.map_congr_left
  intro index _
  simp only [Function.comp_apply, BitVec.ofNat_add, BitVec.add_assoc]

def firstCells {α : Type} (memory : Nat → α) (count : Nat) : List α :=
  (List.range count).map memory

theorem map_firstCells {α β : Type} (view : α → β) (memory : Nat → α) (count : Nat) :
    (firstCells memory count).map view = firstCells (fun index => view (memory index)) count :=
  List.map_map

@[simp] theorem length_firstCells {α : Type} (memory : Nat → α) (count : Nat) :
    (firstCells memory count).length = count := by
  simp [firstCells]

theorem getElem?_firstCells {α : Type} {memory : Nat → α} {count index : Nat} {item : α}
    (found : (firstCells memory count)[index]? = some item) :
    index < count ∧ memory index = item := by
  have below : index < count := by simpa using (List.getElem?_eq_some_iff.mp found).1
  rw [firstCells, List.getElem?_map, List.getElem?_range below] at found
  exact ⟨below, Option.some.inj found⟩

/-- Cells from a position on do not depend on what lay in the memory before only when they
are cells of the list. -/
theorem firstCells_store_iff {α : Type} {zero one : α} (different : zero ≠ one)
    {items cells : List α} {position count : Nat} (nonzero : 0 < count) :
    (∀ memory, firstCells (fun index => store memory 0 items (position + index)) count = cells) ↔
      position + count ≤ items.length ∧ slice items position count = cells := by
  constructor
  · intro same
    have inside : position + count ≤ items.length := by
      by_contra outside
      have last : ∀ value : α, cells[count - 1]? = some value := by
        intro value
        have after := store_after (fun _ => value)
          (show 0 + items.length ≤ position + (count - 1) by omega)
        rw [← same fun _ => value, firstCells, List.getElem?_map,
          List.getElem?_range (show count - 1 < count by omega), Option.map_some, after]
      exact different (Option.some.inj ((last zero).symm.trans (last one)))
    refine ⟨inside, ?_⟩
    rw [← map_store (fun _ => zero) inside]
    exact same fun _ => zero
  · rintro ⟨inside, rfl⟩ memory
    exact map_store memory inside

theorem firstCells_store {α : Type} (memory : Nat → α) (items : List α) :
    firstCells (store memory 0 items) items.length = items := by
  have whole := map_store memory (show 0 + items.length ≤ items.length by omega)
  simp only [Nat.zero_add] at whole
  rw [firstCells, whole, slice, List.drop_zero, List.take_length]

theorem firstCells_eq_window {α : Type} {memory : Nat → α} {space : U64 → α} {start : U64}
    {count : Nat}
    (holds : ∀ index, index < count → memory index = space (start + BitVec.ofNat 64 index)) :
    firstCells memory count = window space start count := by
  apply List.map_congr_left
  intro index member
  exact holds index (List.mem_range.mp member)

end Aff4Lite.Lib
