import Aff4Lite.Rdf.Model

/-!
# Literals with a data type

`getType` and the conversions of `Model::getValueFromRaptorTerm`. Whether `std::stof` accepts
a string is a parameter.
-/

set_option autoImplicit false

namespace Aff4Lite.Rdf

open Lib Aff4Lite.Stream

/-- `AFF4_XSD_PREFIX` -/
def xsdPrefix : Bytes := text "http://www.w3.org/2001/XMLSchema#"

def xsdMappings : List (Bytes × XSDType) := [
  (xsdPrefix ++ text "string", .string),
  (xsdPrefix ++ text "int", .int),
  (xsdPrefix ++ text "integer", .int),
  (xsdPrefix ++ text "long", .long),
  (xsdPrefix ++ text "dateTime", .xsdDateTime),
  (xsdPrefix ++ text "boolean", .boolean),
  (xsdPrefix ++ text "float", .float)]

def aff4Mappings : List (Bytes × Lexicon) := [
  (baseUri ++ text "MD5", .aff4DigestMd5),
  (baseUri ++ text "SHA1", .aff4DigestSha1),
  (baseUri ++ text "SHA256", .aff4DigestSha256),
  (baseUri ++ text "SHA512", .aff4DigestSha512),
  (baseUri ++ text "BLAKE2B", .aff4DigestBlake2b),
  (baseUri ++ text "Blake2b", .aff4DigestBlake2b),
  (baseUri ++ text "blake2b", .aff4DigestBlake2b),
  (baseUri ++ text "blockMapHashSHA512", .aff4DigestBlockMapHashSha512)]

def getType (type : Bytes) : XSDType :=
  if type = [] then .string
  else
    match xsdMappings.find? fun row => row.1 = type with
    | some row => row.2
    | none => .literal

def getAFF4Type (type : Bytes) : Lexicon :=
  if type = [] then .unknown
  else
    match aff4Mappings.find? fun row => row.1 = type with
    | some row => row.2
    | none => .unknown

namespace RDFValue

/-- Create an Integer. -/
def ofInt (value : BitVec 32) : RDFValue := ⟨.int, .unknown, value, 0, []⟩

/-- Create a long. -/
def ofLong (value : U64) : RDFValue := ⟨.long, .unknown, 0, value, []⟩

/-- A value of which only the type is read. -/
def ofXSDType (xsdType : XSDType) : RDFValue := ⟨xsdType, .unknown, 0, 0, []⟩

end RDFValue

namespace Model

/-- The `switch` over the type of a literal; `none` where a conversion throws. -/
def typedLiteral (stof : Bytes → Bool) (datatype : CString) (value_string : Bytes) :
    Option RDFValue :=
  match getType datatype.bytes with
  | .string => some (.ofString value_string)
  | .int =>
      match stoi 10 value_string with
      | some value => some (.ofInt (BitVec.ofInt 32 value))
      | none =>
          -- expected overflow.
          (stoll value_string).map fun value => .ofLong (BitVec.ofInt 64 value)
  | .long => (stoll value_string).map fun value => .ofLong (BitVec.ofInt 64 value)
  | .float => if stof value_string then some (.ofXSDType .float) else none
  | .literal => some (.typed .literal (getAFF4Type datatype.bytes) value_string)
  | .boolean => some (.ofXSDType .boolean)
  | .xsdDateTime => some (.ofXSDType .xsdDateTime)
  | .resource => none
  | .unknown => none

/-! ## Sizes -/

/-- How a literal spells a number. -/
inductive Spelling where
  | integer
  | string
  deriving DecidableEq, Repr

def integerTypes : List Bytes :=
  [xsdPrefix ++ text "int", xsdPrefix ++ text "integer", xsdPrefix ++ text "long"]

/-- A literal that carries the number `n`: as an integer, or as a string of its digits. -/
inductive Carries (n : Nat) : RaptorTerm → Spelling → Prop where
  | integer {datatype : CString} {string : Bytes} : datatype.bytes ∈ integerTypes →
      Numeral n string → Carries n (.literal (some datatype) string) .integer
  | plain {string : Bytes} : Numeral n string → Carries n (.literal none string) .string
  | string {datatype : CString} {string : Bytes} : datatype.bytes = xsdPrefix ++ text "string" →
      Numeral n string → Carries n (.literal (some datatype) string) .string

private theorem getType_integer {type : Bytes} (integer : type ∈ integerTypes) :
    getType type = .int ∨ getType type = .long := by
  simp only [integerTypes, List.mem_cons, List.not_mem_nil, or_false] at integer
  rcases integer with rfl | rfl | rfl
  · exact .inl (by decide)
  · exact .inl (by decide)
  · exact .inr (by decide)

private theorem getType_string : getType (xsdPrefix ++ text "string") = .string := by
  decide

/-- The value of a literal that carries a number. -/
inductive HoldsNumber (n : Nat) : Spelling → RDFValue → Prop where
  | int : n < 2 ^ 31 → HoldsNumber n .integer (.ofInt (BitVec.ofNat 32 n))
  | long : HoldsNumber n .integer (.ofLong (BitVec.ofNat 64 n))
  | string {string : Bytes} : Numeral n string → HoldsNumber n .string (.ofString string)

/-- The decoder switches to 64 bits where the number does not fit 32, and keeps a string. -/
theorem Carries.value {n : Nat} {term : RaptorTerm} {spelling : Spelling}
    (carries : Carries n term spelling) (small : n < 2 ^ 63) (stof : Bytes → Bool)
    (property : Lexicon) :
    ∃ value, getValueFromRaptorTerm (typedLiteral stof) property term = some value ∧
      HoldsNumber n spelling value := by
  cases carries with
  | plain numeral => exact ⟨_, rfl, .string numeral⟩
  | string type numeral =>
      refine ⟨_, ?_, .string numeral⟩
      rw [getValueFromRaptorTerm, typedLiteral, type, getType_string]
  | integer type numeral =>
      have long := stoll_numeral numeral small
      have int := stoi_numeral numeral
      have wide : HoldsNumber n .integer (.ofLong (BitVec.ofInt 64 n)) := by
        rw [BitVec.ofInt_natCast]
        exact .long
      rw [getValueFromRaptorTerm, typedLiteral]
      rcases getType_integer type with isInt | isLong
      · rw [isInt]
        by_cases fits : n < 2 ^ 31
        · rw [if_pos fits] at int
          rw [int]
          refine ⟨_, rfl, ?_⟩
          rw [BitVec.ofInt_natCast]
          exact .int fits
        · rw [if_neg fits] at int
          rw [int, long]
          exact ⟨_, rfl, wide⟩
      · rw [isLong, long]
        exact ⟨_, rfl, wide⟩

end Model

end Aff4Lite.Rdf
