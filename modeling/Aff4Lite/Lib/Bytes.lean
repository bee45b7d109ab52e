import Aff4Lite.Lib.Word

/-!
# Byte strings

Slices, little-endian numbers and packed structures. `pack` writes the fields of a
structure one after the other; `wordAt_pack` reads any one of them back.
-/

set_option autoImplicit false

namespace Aff4Lite.Lib

abbrev Bytes := List UInt8

def slice {α : Type} (items : List α) (start count : Nat) : List α :=
  (items.drop start).take count

@[simp] theorem length_slice {α : Type} (items : List α) (start count : Nat) :
    (slice items start count).length = min count (items.length - start) := by
  simp [slice]

theorem length_slice_of_le {α : Type} {items : List α} {start count : Nat}
    (inside : start + count ≤ items.length) : (slice items start count).length = count := by
  rw [length_slice]
  omega

@[simp] theorem slice_zero {α : Type} (items : List α) (start : Nat) :
    slice items start 0 = [] := by
  simp [slice]

theorem slice_of_length_le {α : Type} {items : List α} {start : Nat}
    (outside : items.length ≤ start) (count : Nat) : slice items start count = [] := by
  simp [slice, List.drop_eq_nil_of_le outside]

theorem getElem?_slice {α : Type} (items : List α) (start count index : Nat) :
    (slice items start count)[index]? = if index < count then items[start + index]? else none := by
  simp [slice, List.getElem?_take]

theorem slice_truncate {α : Type} (items : List α) (start count : Nat) :
    slice items start (min count (items.length - start)) = slice items start count := by
  rcases Nat.le_total count (items.length - start) with inside | past
  · rw [min_eq_left inside]
  · rw [min_eq_right past, slice, slice, List.take_of_length_le (by simp),
      List.take_of_length_le (by simpa using past)]

theorem slice_self_length {α : Type} (items : List α) (start count : Nat) :
    slice items start (slice items start count).length = slice items start count := by
  rw [length_slice, slice_truncate]

theorem slice_append_left {α : Type} (before items : List α) (start count : Nat) :
    slice (before ++ items) (before.length + start) count = slice items start count := by
  rw [slice, slice, List.drop_length_add_append]

theorem slice_middle {α : Type} (before items after : List α) :
    slice (before ++ (items ++ after)) before.length items.length = items := by
  simp [slice]

theorem slice_slice {α : Type} (items : List α) (start count inner innerCount : Nat)
    (inside : inner + innerCount ≤ count) :
    slice (slice items start count) inner innerCount = slice items (start + inner) innerCount := by
  apply List.ext_getElem?
  intro index
  simp only [getElem?_slice]
  split <;> rename_i below
  · rw [if_pos (by omega), Nat.add_assoc]
  · rfl

theorem slice_add {α : Type} (items : List α) (start first second : Nat) :
    slice items start (first + second) =
      slice items start first ++ slice items (start + first) second := by
  simp only [slice, List.take_add, List.drop_drop]

def PartAt {α : Type} (items : List α) (position : Nat) (part : List α) : Prop :=
  slice items position part.length = part

theorem partAt_middle {α : Type} (before part after : List α) :
    PartAt (before ++ (part ++ after)) before.length part :=
  slice_middle before part after

theorem partAt_append {α : Type} {items : List α} {position : Nat} {first second : List α} :
    PartAt items position (first ++ second) ↔
      PartAt items position first ∧ PartAt items (position + first.length) second := by
  unfold PartAt
  rw [List.length_append, slice_add]
  constructor
  · intro whole
    have full := congrArg List.length whole
    rw [List.length_append, List.length_append, length_slice, length_slice] at full
    exact List.append_inj whole (by rw [length_slice]; omega)
  · rintro ⟨left, right⟩
    rw [left, right]

theorem PartAt.inside {α : Type} {items : List α} {position : Nat} {part : List α}
    (stands : PartAt items position part) (nonempty : part ≠ []) :
    position + part.length ≤ items.length := by
  have full := congrArg List.length stands
  have positive := List.length_pos_iff.mpr nonempty
  rw [length_slice] at full
  omega

theorem length_flatMap_of_width {α β : Type} {width : Nat} {encode : α → List β}
    (fixed : ∀ item, (encode item).length = width) (items : List α) :
    (items.flatMap encode).length = width * items.length := by
  induction items with
  | nil => rfl
  | cons head tail ih =>
      rw [List.flatMap_cons, List.length_append, fixed, ih, List.length_cons, Nat.mul_succ,
        Nat.add_comm]

theorem slice_flatMap {α β : Type} {width : Nat} {encode : α → List β}
    (fixed : ∀ item, (encode item).length = width) {items : List α} {index : Nat} {item : α}
    (found : items[index]? = some item) :
    slice (items.flatMap encode) (width * index) width = encode item := by
  induction items generalizing index with
  | nil => simp at found
  | cons head tail ih =>
      rw [List.flatMap_cons]
      cases index with
      | zero =>
          have same : head = item := by simpa using found
          rw [Nat.mul_zero, slice, List.drop_zero, List.take_left' (fixed head), same]
      | succ index =>
          rw [Nat.mul_succ, Nat.add_comm, ← fixed head, slice_append_left, fixed head]
          exact ih found

/-! ## Little-endian numbers -/

/-- The number whose little-endian bytes these are. -/
def ofLE : Bytes → Nat
  | [] => 0
  | byte :: rest => byte.toNat + 256 * ofLE rest

/-- The low `width` bytes of a number, least significant first. -/
def toLE : Nat → Nat → Bytes
  | 0, _ => []
  | width + 1, value => UInt8.ofNat value :: toLE width (value / 256)

@[simp] theorem length_toLE (width value : Nat) : (toLE width value).length = width := by
  induction width generalizing value with
  | zero => rfl
  | succ width ih => simp [toLE, ih]

theorem ofLE_toLE (width value : Nat) : ofLE (toLE width value) = value % 256 ^ width := by
  induction width generalizing value with
  | zero => simp [toLE, ofLE, Nat.mod_one]
  | succ width ih =>
      have split := Nat.mod_mul (x := value) (a := 256) (b := 256 ^ width)
      rw [toLE, ofLE, ih, UInt8.toNat_ofNat', pow_succ' 256 width, split]

/-- Read a little-endian word of `width` bytes at the front of a string. -/
def wordLE (bits : Nat) (bytes : Bytes) : BitVec bits :=
  BitVec.ofNat bits (ofLE (bytes.take (bits / 8)))

theorem wordLE_append {bits : Nat} (whole : 8 * (bits / 8) = bits) (word : BitVec bits)
    (rest : Bytes) : wordLE bits (toLE (bits / 8) word.toNat ++ rest) = word := by
  have front : (toLE (bits / 8) word.toNat ++ rest).take (bits / 8) =
      toLE (bits / 8) word.toNat := by
    rw [List.take_append_of_le_length (by simp), List.take_of_length_le (by simp)]
  have size : 256 ^ (bits / 8) = 2 ^ bits := by
    rw [show (256 : Nat) = 2 ^ 8 from rfl, ← pow_mul, whole]
  rw [wordLE, front, ofLE_toLE, size, Nat.mod_eq_of_lt word.isLt, BitVec.ofNat_toNat,
    BitVec.setWidth_eq]

/-! ## Packed structures -/

def pack : List Nat → List Nat → Bytes
  | width :: widths, value :: values => toLE width value ++ pack widths values
  | _, _ => []

theorem length_pack {widths values : List Nat} (sameLength : values.length = widths.length) :
    (pack widths values).length = widths.sum := by
  induction widths generalizing values with
  | nil =>
      rw [List.length_eq_zero_iff.mp sameLength]
      rfl
  | cons width widths ih =>
      cases values with
      | nil => cases sameLength
      | cons value values =>
          rw [pack, List.length_append, length_toLE, ih (Nat.succ.inj sameLength), List.sum_cons]

def wordAt (bits position : Nat) (bytes : Bytes) : BitVec bits := wordLE bits (bytes.drop position)

theorem wordAt_slice {bits position count : Nat} {bytes : Bytes}
    (inside : position + bits / 8 ≤ count) :
    wordAt bits position (slice bytes 0 count) = wordAt bits position bytes := by
  unfold wordAt wordLE slice
  rw [List.drop_zero, List.drop_take, List.take_take, Nat.min_eq_left (by omega)]

/-- A field is read back at the total width of the fields before it. -/
theorem wordAt_pack (widths values : List Nat) (index position : Nat) {bits : Nat}
    (word : BitVec bits) (place : widths[index]? = some (bits / 8) ∧
      (widths.take index).sum = position ∧ 8 * (bits / 8) = bits)
    (field : values[index]? = some word.toNat) (rest : Bytes) :
    wordAt bits position (pack widths values ++ rest) = word := by
  obtain ⟨wide, rfl, whole⟩ := place
  unfold wordAt
  induction widths generalizing index values with
  | nil => simp at wide
  | cons width widths ih =>
      cases values with
      | nil => simp at field
      | cons value values =>
          rw [pack, List.append_assoc]
          cases index with
          | zero =>
              have sameWidth : width = bits / 8 := by simpa using wide
              have sameValue : value = word.toNat := by simpa using field
              rw [sameWidth, sameValue]
              exact wordLE_append whole word _
          | succ index =>
              rw [List.take_succ_cons, List.sum_cons, ← List.drop_drop,
                List.drop_left' (length_toLE width value)]
              exact ih _ index field wide

end Aff4Lite.Lib
