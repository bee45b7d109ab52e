import Mathlib

/-!
# Numbered slots

A table in which a new value takes the lowest number that is not in use, as the file
descriptors of a POSIX process do.
-/

set_option autoImplicit false

namespace Aff4Lite.Lib

/-! ## Rows of a table that grows -/

theorem getElem?_append_some {α : Type} {items added : List α} {index : Nat} {item : α}
    (found : items[index]? = some item) : (items ++ added)[index]? = some item := by
  rw [List.getElem?_append_left (List.getElem?_eq_some_iff.mp found).1, found]

theorem getElem?_append_singleton {α : Type} {items : List α} {added item : α} {index : Nat}
    (found : (items ++ [added])[index]? = some item) :
    items[index]? = some item ∨ index = items.length ∧ item = added := by
  rcases Nat.lt_or_ge index items.length with inside | beyond
  · rw [List.getElem?_append_left inside] at found
    exact .inl found
  · rw [List.getElem?_append_right beyond, List.getElem?_singleton] at found
    split at found
    · cases found
      exact .inr ⟨by omega, rfl⟩
    · cases found

theorem getElem?_set_some {α : Type} {items : List α} {place index : Nat} {added item : α}
    (found : (items.set place added)[index]? = some item) :
    index = place ∧ item = added ∨ index ≠ place ∧ items[index]? = some item := by
  rw [List.getElem?_set] at found
  by_cases same : place = index
  · rw [if_pos same] at found
    split at found
    · cases found
      exact .inl ⟨same.symm, rfl⟩
    · cases found
  · rw [if_neg same] at found
    exact .inr ⟨Ne.symm same, found⟩

/-! ## Slots -/

abbrev Slots (α : Type) := List (Option α)

namespace Slots

variable {α : Type} (slots : Slots α)

def lookup (number : Nat) : Option α := slots[number]?.join

/-- The lowest number that is not in use. -/
def lowestFree : Nat := slots.findIdx fun slot => slot.isNone

/-- Put a value into the lowest free slot. -/
def install (value : α) : Slots α :=
  if slots.lowestFree < slots.length then slots.set slots.lowestFree (some value)
  else slots ++ [some value]

def release (number : Nat) : Slots α := slots.set number none

variable {slots}

theorem lookup_lowestFree : slots.lookup slots.lowestFree = none := by
  unfold lookup
  by_cases inside : slots.lowestFree < slots.length
  · rw [List.getElem?_eq_getElem inside]
    have free : (slots[slots.lowestFree]).isNone := List.findIdx_getElem (w := inside)
    simpa using free
  · rw [List.getElem?_eq_none (by omega)]
    rfl

@[simp] theorem lookup_install (value : α) (number : Nat) :
    (slots.install value).lookup number =
      if number = slots.lowestFree then some value else slots.lookup number := by
  unfold install lookup
  by_cases inside : slots.lowestFree < slots.length
  · rw [if_pos inside, List.getElem?_set]
    by_cases same : number = slots.lowestFree
    · simp [same, inside]
    · simp [same, Ne.symm same]
  · have last : slots.lowestFree = slots.length :=
      le_antisymm List.findIdx_le_length (not_lt.mp inside)
    rw [if_neg inside, last]
    by_cases same : number = slots.length
    · simp [same]
    · rw [if_neg same]
      rcases Nat.lt_or_gt_of_ne same with below | beyond
      · rw [List.getElem?_append_left below]
      · rw [List.getElem?_eq_none (by simp; omega), List.getElem?_eq_none (by omega)]

@[simp] theorem lookup_release (released number : Nat) :
    (slots.release released).lookup number =
      if number = released then none else slots.lookup number := by
  unfold release lookup
  rw [List.getElem?_set]
  by_cases same : number = released
  · by_cases inside : released < slots.length
    · simp [same, inside]
    · simp [same, inside]
  · simp [same, Ne.symm same]

end Slots

end Aff4Lite.Lib
