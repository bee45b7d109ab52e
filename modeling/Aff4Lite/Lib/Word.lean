import Mathlib

/-!
# Fixed-width words

The unsigned integer types of the source as bit vectors, with the few operations
that bit vectors lack: `std::min`, and the reading of a 64-bit pattern as `int64_t`.
-/

set_option autoImplicit false

namespace Aff4Lite.Lib

abbrev U16 := BitVec 16
abbrev U32 := BitVec 32
abbrev U64 := BitVec 64

/-- `std::min` returns its first argument unless the second is smaller. -/
def stdMin {width : Nat} (left right : BitVec width) : BitVec width :=
  if right < left then right else left

@[simp] theorem toNat_stdMin {width : Nat} (left right : BitVec width) :
    (stdMin left right).toNat = min left.toNat right.toNat := by
  unfold stdMin
  split <;> bv_omega

theorem stdMin_pos {width : Nat} {left right : BitVec width}
    (leftPos : 0 < left.toNat) (rightPos : 0 < right.toNat) :
    0 < (stdMin left right).toNat := by
  rw [toNat_stdMin]
  omega

theorem toInt_of_lt {word : U64} (small : word.toNat < 2 ^ 63) : word.toInt = word.toNat := by
  rw [BitVec.toInt_eq_toNat_of_lt]
  omega

theorem toNat_add_of_lt {width : Nat} {left right : BitVec width}
    (fits : left.toNat + right.toNat < 2 ^ width) :
    (left + right).toNat = left.toNat + right.toNat := by
  rw [BitVec.toNat_add, Nat.mod_eq_of_lt fits]

theorem toNat_sub_of_le {width : Nat} {left right : BitVec width}
    (ordered : right.toNat ≤ left.toNat) :
    (left - right).toNat = left.toNat - right.toNat :=
  BitVec.toNat_sub_of_le (BitVec.le_def.mpr ordered)

theorem toNat_widen {narrow wide : Nat} (word : BitVec narrow) (fits : narrow ≤ wide) :
    (word.setWidth wide).toNat = word.toNat := by
  rw [BitVec.toNat_setWidth]
  exact Nat.mod_eq_of_lt (lt_of_lt_of_le word.isLt (Nat.pow_le_pow_right (by decide) fits))

end Aff4Lite.Lib
