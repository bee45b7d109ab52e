import Mathlib
import Aff4Lite.Lib.Bytes

/-!
# C and C++ strings

The order of `std::string`, strings that end at a NUL, and the conversions `std::stoi` and
`std::stoll`.
-/

set_option autoImplicit false

namespace Aff4Lite.Lib

/-- Bytes are compared as `unsigned char`. -/
instance byteLinearOrder : LinearOrder UInt8 where
  le_refl := UInt8.le_refl
  le_trans _ _ _ := UInt8.le_trans
  le_antisymm _ _ := UInt8.le_antisymm
  le_total := UInt8.le_total
  lt_iff_le_not_ge left right := by
    rw [UInt8.lt_iff_toNat_lt, UInt8.le_iff_toNat_le, UInt8.le_iff_toNat_le]
    omega
  toDecidableLE := inferInstance

/-- The characters before the NUL of a `char*`. -/
structure CString where
  bytes : Bytes
  terminated : 0 ∉ bytes
  deriving DecidableEq

/-! ## Numbers -/

def isSpace (byte : UInt8) : Bool := byte = 0x20 || (0x09 ≤ byte && byte ≤ 0x0d)

def digitValue (base : Nat) (byte : UInt8) : Option Nat :=
  let value :=
    if 0x30 ≤ byte ∧ byte ≤ 0x39 then some (byte.toNat - 0x30)
    else if 0x41 ≤ byte ∧ byte ≤ 0x5a then some (byte.toNat - 0x41 + 10)
    else if 0x61 ≤ byte ∧ byte ≤ 0x7a then some (byte.toNat - 0x61 + 10)
    else none
  value.filter fun digit => digit < base

def leadingDigits (base : Nat) : Bytes → List Nat
  | [] => []
  | byte :: rest =>
      match digitValue base byte with
      | some digit => digit :: leadingDigits base rest
      | none => []

/-- In base 16 a leading `0x` is skipped when a digit follows. -/
def skipHexPrefix (base : Nat) (string : Bytes) : Bytes :=
  match string with
  | 0x30 :: mark :: digit :: rest =>
      if base = 16 ∧ (mark = 0x78 ∨ mark = 0x58) ∧ (digitValue 16 digit).isSome then digit :: rest
      else string
  | _ => string

/-- `strtoll` of the whole string, `none` where there is nothing to convert. -/
def strtoll (base : Nat) (string : Bytes) : Option Int :=
  let body := string.dropWhile isSpace
  let negative := body.head? = some 0x2d
  let body := if negative ∨ body.head? = some 0x2b then body.tail else body
  match leadingDigits base (skipHexPrefix base body) with
  | [] => none
  | digits =>
      let magnitude : Int := digits.foldl (fun value digit => base * value + digit) 0
      some (if negative then -magnitude else magnitude)

/-- `std::stoi`; `none` for `std::invalid_argument` and `std::out_of_range`. -/
def stoi (base : Nat) (string : Bytes) : Option Int :=
  (strtoll base string).filter fun value => -2 ^ 31 ≤ value ∧ value < 2 ^ 31

/-- `std::stoll` -/
def stoll (string : Bytes) : Option Int :=
  (strtoll 10 string).filter fun value => -2 ^ 63 ≤ value ∧ value < 2 ^ 63

/-- A number in decimal, with leading zeros up to a width. -/
def padded (width value : Nat) : Bytes :=
  (List.leftpad width '0' (Nat.toDigits 10 value)).map fun char => UInt8.ofNat char.toNat

/-! ## Decimal numerals -/

def digitByte (digit : Nat) : UInt8 := UInt8.ofNat (0x30 + digit)

/-- The digits of `n`, the most significant first, with zeros or a plus sign in front or not. -/
def Numeral (n : Nat) (string : Bytes) : Prop :=
  ∃ digits, digits ≠ [] ∧ (∀ digit ∈ digits, digit < 10) ∧
    Nat.ofDigits 10 digits.reverse = n ∧
      (string = digits.map digitByte ∨ string = 0x2b :: digits.map digitByte)

theorem digitByte_toNat {digit : Nat} (small : digit < 10) :
    (digitByte digit).toNat = 0x30 + digit := by
  rw [digitByte, UInt8.toNat_ofNat']
  exact Nat.mod_eq_of_lt (by omega)

theorem digitValue_digitByte {digit : Nat} (small : digit < 10) :
    digitValue 10 (digitByte digit) = some digit := by
  have value := digitByte_toNat small
  have inside : 0x30 ≤ digitByte digit ∧ digitByte digit ≤ 0x39 := by
    rw [UInt8.le_iff_toNat_le, UInt8.le_iff_toNat_le, value]
    exact ⟨Nat.le_add_right _ _, by simp; omega⟩
  unfold digitValue
  rw [if_pos inside, value]
  simp [small]

theorem leadingDigits_map {digits : List Nat} (small : ∀ digit ∈ digits, digit < 10) :
    leadingDigits 10 (digits.map digitByte) = digits := by
  induction digits with
  | nil => rfl
  | cons digit digits ih =>
      rw [List.map_cons, leadingDigits, digitValue_digitByte (small digit List.mem_cons_self)]
      exact congrArg (digit :: ·) (ih fun other member => small other (.tail _ member))

/-- The accumulator of `strtoll`, whose digits are integers. -/
theorem foldl_ofDigits (base : Nat) (digits : List Nat) :
    (digits.map (Nat.cast : Nat → Int)).foldl (fun (value digit : Int) => base * value + digit) 0 =
      Nat.ofDigits base digits.reverse := by
  have fromStart : ∀ start : Nat,
      (digits.map (Nat.cast : Nat → Int)).foldl (fun (value digit : Int) => base * value + digit)
          start =
        (digits.foldl (fun value digit => digit + base * value) start : Nat) := by
    induction digits with
    | nil => exact fun _ => rfl
    | cons digit digits ih =>
        intro start
        rw [List.map_cons, List.foldl_cons, List.foldl_cons, ← ih]
        congr 1
        push_cast
        ring
  rw [Nat.ofDigits_eq_foldr, List.foldr_reverse]
  exact fromStart 0

theorem digitByte_range {digit : Nat} (small : digit < 10) :
    isSpace (digitByte digit) = false ∧ digitByte digit ≠ 0x2d ∧ digitByte digit ≠ 0x2b := by
  interval_cases digit <;> decide

theorem skipHexPrefix_decimal (string : Bytes) : skipHexPrefix 10 string = string := by
  unfold skipHexPrefix
  split
  · exact if_neg (by simp)
  · rfl

/-- The conversion behind the optional sign. -/
theorem strtoll_body {string : Bytes} {digits : List Nat} (nonempty : digits ≠ [])
    (small : ∀ digit ∈ digits, digit < 10) (trimmed : string.dropWhile isSpace = string)
    (positive : string.head? ≠ some 0x2d)
    (body : (if string.head? = some 0x2b then string.tail else string) = digits.map digitByte) :
    strtoll 10 string = some (Nat.ofDigits 10 digits.reverse : Nat) := by
  have folded := foldl_ofDigits 10 digits
  unfold strtoll
  simp only [trimmed, positive, false_or, if_false, body, skipHexPrefix_decimal,
    leadingDigits_map small, List.pure_def, List.bind_eq_flatMap, ← List.map_eq_flatMap]
  cases digits with
  | nil => exact absurd rfl nonempty
  | cons first rest => exact congrArg some folded

theorem strtoll_numeral {n : Nat} {string : Bytes} (numeral : Numeral n string) :
    strtoll 10 string = some (n : Int) := by
  obtain ⟨digits, nonempty, small, rfl, spelled⟩ := numeral
  obtain ⟨first, rest, rfl⟩ := List.exists_cons_of_ne_nil nonempty
  obtain ⟨space, minus, plus⟩ := digitByte_range (small first List.mem_cons_self)
  rcases spelled with rfl | rfl
  · exact strtoll_body nonempty small (by simp [space]) (by simpa using minus) (by simp [plus])
  · exact strtoll_body nonempty small rfl (by simp) rfl

theorem stoi_numeral {n : Nat} {string : Bytes} (numeral : Numeral n string) :
    stoi 10 string = if n < 2 ^ 31 then some (n : Int) else none := by
  rw [stoi, strtoll_numeral numeral, Option.filter_some]
  by_cases small : n < 2 ^ 31
  · rw [if_pos small, if_pos (by simp; omega)]
  · rw [if_neg small, if_neg (by simp; omega)]

theorem stoll_numeral {n : Nat} {string : Bytes} (numeral : Numeral n string)
    (small : n < 2 ^ 63) : stoll string = some (n : Int) := by
  rw [stoll, strtoll_numeral numeral, Option.filter_some, if_pos (by simp; omega)]

example : stoi 16 [0x20, 0x30, 0x78, 0x66, 0x46, 0x67] = some 255 := by decide

end Aff4Lite.Lib
