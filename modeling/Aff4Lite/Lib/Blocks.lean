import Aff4Lite.Lib.Bytes

/-!
# Blocks one after the other

What stands where when blocks of any lengths are laid out without gaps, and how an item is
found again by a key that no other item has.
-/

set_option autoImplicit false

namespace Aff4Lite.Lib

variable {Item : Type}

theorem PartAt.append {items : List Item} {position : Nat} {part : List Item}
    (stands : PartAt items position part) (inside : position + part.length ≤ items.length)
    (before after : List Item) :
    PartAt (before ++ (items ++ after)) (before.length + position) part := by
  unfold PartAt at *
  rw [slice_append_left, slice, List.drop_append_of_le_length (by omega),
    List.take_append_of_le_length (by rw [List.length_drop]; omega)]
  exact stands

/-- A range of a part is a range of the whole. -/
theorem PartAt.slice {items : List Item} {position : Nat} {part : List Item}
    (stands : PartAt items position part) {inner count : Nat}
    (inside : inner + count ≤ part.length) :
    Lib.slice items (position + inner) count = Lib.slice part inner count := by
  have sub := slice_slice items position part.length inner count inside
  rw [stands] at sub
  exact sub.symm

/-- Where a block starts. -/
def blockStart (blocks : List (List Item)) (index : Nat) : Nat :=
  (blocks.take index).flatten.length

theorem flatten_at {blocks : List (List Item)} {index : Nat} {block : List Item}
    (found : blocks[index]? = some block) :
    blocks.flatten = (blocks.take index).flatten ++
      (block ++ (blocks.drop (index + 1)).flatten) := by
  obtain ⟨inside, rfl⟩ := List.getElem?_eq_some_iff.mp found
  conv_lhs => rw [← List.take_append_drop index blocks]
  rw [List.flatten_append, List.drop_eq_getElem_cons inside, List.flatten_cons]

theorem partAt_block {blocks : List (List Item)} {index : Nat} {block : List Item}
    (found : blocks[index]? = some block) :
    PartAt blocks.flatten (blockStart blocks index) block := by
  rw [flatten_at found]
  exact partAt_middle _ _ _

theorem block_inside {blocks : List (List Item)} {index : Nat} {block : List Item}
    (found : blocks[index]? = some block) :
    blockStart blocks index + block.length ≤ blocks.flatten.length := by
  rw [flatten_at found, List.length_append, List.length_append, blockStart]
  omega

/-! ## Lookup by a key -/

theorem find?_of_nodup {Key : Type} [DecidableEq Key] {items : List Item} {key : Item → Key}
    (nodup : (items.map key).Nodup) {item : Item} (member : item ∈ items) :
    (items.find? fun other => key other = key item) = some item := by
  induction items with
  | nil => cases member
  | cons head tail ih =>
      obtain ⟨fresh, rest⟩ := List.nodup_cons.mp nodup
      rcases List.mem_cons.mp member with rfl | later
      · rw [List.find?_cons_of_pos (by simp)]
      · have different : key head ≠ key item := by
          intro same
          exact fresh (same ▸ List.mem_map_of_mem later)
        rw [List.find?_cons_of_neg (by simpa using different), ih rest later]

end Aff4Lite.Lib
