import Aff4Lite.Map.AFF4Map
import Aff4Lite.Stream.ImageStreamCreate

/-!
# `aff4:size`

The size that a map and an image stream read from one description. Both expect a long or an
integer, and only the map also a string.
-/

set_option autoImplicit false

namespace Aff4Lite.Map

open Lib Rdf Containers Codec Aff4Lite.Stream

/-! ## One value -/

theorem toNat_signExtend_ofNat {n : Nat} (fits : n < 2 ^ 31) :
    ((BitVec.ofNat 32 n).signExtend 64).toNat = n := by
  have value : (BitVec.ofNat 32 n).toNat = n := by
    rw [BitVec.toNat_ofNat]
    exact Nat.mod_eq_of_lt (by omega)
  have positive : (BitVec.ofNat 32 n).msb = false := by
    rw [BitVec.msb_eq_false_iff_two_mul_lt, value]
    omega
  rw [BitVec.signExtend_eq_setWidth_of_msb_false positive, toNat_widen _ (by decide), value]

private theorem toNat_ofNat_long {n : Nat} (small : n < 2 ^ 63) :
    (BitVec.ofNat 64 n).toNat = n := by
  rw [BitVec.toNat_ofNat]
  exact Nat.mod_eq_of_lt (by omega)

private theorem map_length {n : Nat} (small : n < 2 ^ 63) {spelling : Model.Spelling}
    {value : RDFValue}
    (holds : Model.HoldsNumber n spelling value) (rest : List RDFValue) :
    (AFF4Map.lengthOf (value :: rest)).toNat = n := by
  cases holds with
  | int fits => exact toNat_signExtend_ofNat fits
  | long => exact toNat_ofNat_long small
  | @string string numeral =>
      have length : AFF4Map.lengthOf (RDFValue.ofString string :: rest) = BitVec.ofInt 64 n := by
        simp only [AFF4Map.lengthOf, RDFValue.ofString, stoll_numeral numeral small]
      rw [length, BitVec.ofInt_natCast]
      exact toNat_ofNat_long small

/-- A string is read as the integer member that it does not have. -/
theorem image_length {n : Nat} (small : n < 2 ^ 63) {spelling : Model.Spelling} {value : RDFValue}
    (holds : Model.HoldsNumber n spelling value) (rest : List RDFValue) :
    (DeviceStream.lengthValue (value :: rest)).toNat = if spelling = .integer then n else 0 := by
  cases holds with
  | int fits => exact toNat_signExtend_ofNat fits
  | long => exact toNat_ofNat_long small
  | string numeral => rfl

/-! ## One description -/

/-- The map has the size `n`, and so has every image stream that is constructed. -/
structure ReadsSize {World : Type} (container : AFF4ZipContainer) (resource : Bytes)
    (device : Option CompressionCodec → Device World) (chunkCacheSize : U64) (n : Nat) : Prop where
  map : (AFF4Map.create container resource).size.toNat = n
  image : ∀ stream,
    DeviceStream.create device container.model resource chunkCacheSize = .ok stream →
      stream.size.toNat = n

section Parsed

variable {stof : Bytes → Bool} {statements : List RaptorStatement} {resource : Bytes}
  {term : RaptorTerm} {n : Nat} {spelling : Model.Spelling}

private theorem size_values (small : n < 2 ^ 63) (carries : Model.Carries n term spelling)
    (given : Model.givenObject (Model.typedLiteral stof) statements resource .aff4Size =
      some term) :
    ∃ value rest, Model.HoldsNumber n spelling value ∧
      getProperty ((Model.parse (Model.typedLiteral stof) statements).getObjectInformation resource)
        .aff4Size = value :: rest := by
  obtain ⟨value, converted, holds⟩ := carries.value small stof .aff4Size
  have first := Model.head?_values (Model.typedLiteral stof) statements resource
    (show Lexicon.aff4Size ≠ .unknown by decide)
  rw [given, Option.bind_some, converted] at first
  obtain ⟨rest, values⟩ := List.head?_eq_some_iff.mp first
  exact ⟨value, rest, holds, values⟩

private theorem lengthOf_parsed (small : n < 2 ^ 63) (carries : Model.Carries n term spelling)
    (given : Model.givenObject (Model.typedLiteral stof) statements resource .aff4Size =
      some term) :
    (DeviceStream.lengthOf (Model.parse (Model.typedLiteral stof) statements) resource).toNat =
      if spelling = .integer then n else 0 := by
  obtain ⟨value, rest, holds, values⟩ := size_values small carries given
  have described : ((Model.parse (Model.typedLiteral stof) statements).getObjectInformation
      resource).entries ≠ [] := by
    intro nothing
    have missing : getProperty ((Model.parse (Model.typedLiteral stof)
        statements).getObjectInformation resource) .aff4Size = [] := by
      rw [getProperty, OrderedMap.find?, nothing]
      rfl
    rw [values] at missing
    cases missing
  unfold DeviceStream.lengthOf DeviceStream.propertiesOf
  rw [if_neg described, values]
  exact image_length small holds rest

private theorem map_size_parsed (zip : ZipContainer) (small : n < 2 ^ 63)
    (carries : Model.Carries n term spelling)
    (given : Model.givenObject (Model.typedLiteral stof) statements resource .aff4Size =
      some term) :
    (AFF4Map.create ⟨zip, Model.parse (Model.typedLiteral stof) statements⟩ resource).size.toNat =
      n := by
  obtain ⟨value, rest, holds, values⟩ := size_values small carries given
  change (AFF4Map.lengthOf (getProperty ((Model.parse (Model.typedLiteral stof)
    statements).getObjectInformation resource) .aff4Size)).toNat = n
  rw [values]
  exact map_length small holds rest

/-- A map and an image stream agree on a size exactly when it is 0, or the codec is known and the
literal is an integer; with a known codec and chunks of no size there is no image stream. -/
theorem reads_size_iff {World : Type} (device : Option CompressionCodec → Device World)
    (chunkCacheSize : U64) (zip : ZipContainer) (small : n < 2 ^ 63)
    (carries : Model.Carries n term spelling)
    (given : Model.givenObject (Model.typedLiteral stof) statements resource .aff4Size =
      some term) :
    let model := Model.parse (Model.typedLiteral stof) statements
    ReadsSize ⟨zip, model⟩ resource device chunkCacheSize n ↔
      n = 0 ∨ DeviceStream.codecOf model resource ≠ none ∧
        (spelling = .integer ∨ DeviceStream.chunkSizeOf model resource = 0) := by
  intro model
  have length := lengthOf_parsed small carries given
  have map := map_size_parsed zip small carries given
  cases codec : DeviceStream.codecOf model resource with
  | none =>
      obtain ⟨stream, created, _, empty⟩ :=
        DeviceStream.create_rejected device chunkCacheSize codec
      have size : stream.size.toNat = 0 := by
        rw [DeviceStream.size, empty]
        rfl
      constructor
      · intro reads
        exact .inl ((reads.image stream created).symm.trans size)
      · rintro (rfl | ⟨known, _⟩)
        · refine ⟨map, fun other created' => ?_⟩
          cases created.symm.trans created'
          exact size
        · exact absurd rfl known
  | some known =>
      by_cases undivided : DeviceStream.chunkSizeOf model resource = 0
      · have fault := DeviceStream.create_undivided device chunkCacheSize codec undivided
        refine ⟨fun _ => .inr ⟨Option.some_ne_none known, .inr undivided⟩, fun _ => ⟨map, ?_⟩⟩
        intro stream created
        rw [fault] at created
        cases created
      · have created := DeviceStream.create_known device chunkCacheSize codec undivided
        constructor
        · intro reads
          have size := reads.image _ created
          change (DeviceStream.lengthOf model resource).toNat = n at size
          rw [length] at size
          cases spelling with
          | integer => exact .inr ⟨Option.some_ne_none known, .inl rfl⟩
          | string => exact .inl size.symm
        · intro condition
          refine ⟨map, fun stream created' => ?_⟩
          cases created.symm.trans created'
          change (DeviceStream.lengthOf model resource).toNat = n
          rw [length]
          rcases condition with rfl | ⟨_, rfl | sizeless⟩
          · exact ite_self 0
          · rfl
          · exact absurd sizeless undivided

end Parsed

/-- A description that gives the size as a literal. -/
def sizeModel (datatype : Option CString) (size : Bytes) : Model :=
  Model.parse (Model.typedLiteral fun _ => false)
    [⟨.uri DeviceStream.streamName, .uri DeviceStream.sizeProperty, .literal datatype size⟩]

def longType : CString := ⟨xsdPrefix ++ text "long", by decide⟩

private theorem numeral_4096 : Numeral 4096 (text "4096") :=
  ⟨[4, 0, 9, 6], by decide, by decide, by decide, .inl (by decide)⟩

theorem reads_size_iff_long :
    ReadsSize ⟨AFF4Map.emptyZip, sizeModel (some longType) (text "4096")⟩ (text "aff4://s")
        DeviceStream.anyDevice (chunkCacheSizeAfter []) 4096 ↔
      4096 = 0 ∨ DeviceStream.codecOf (sizeModel (some longType) (text "4096")) (text "aff4://s") ≠
          none ∧ (Model.Spelling.integer = .integer ∨
        DeviceStream.chunkSizeOf (sizeModel (some longType) (text "4096")) (text "aff4://s") = 0) :=
  reads_size_iff DeviceStream.anyDevice (chunkCacheSizeAfter []) AFF4Map.emptyZip (by decide)
    (show Model.Carries 4096 (.literal (some longType) (text "4096")) .integer from
      .integer (by decide) numeral_4096) (by decide +kernel)

private theorem sizeModel_plain :
    DeviceStream.codecOf (sizeModel none (text "4096")) (text "aff4://s") = some .nullCompression ∧
      DeviceStream.chunkSizeOf (sizeModel none (text "4096")) (text "aff4://s") = 32768 ∧
      DeviceStream.lengthOf (sizeModel none (text "4096")) (text "aff4://s") = 0 := by
  decide +kernel

/-- A size given as a plain string is the size of the map, and no size of the image stream. -/
theorem plain_size_lost :
    Model.Carries 4096 (.literal none (text "4096")) .string ∧
      (AFF4Map.create ⟨AFF4Map.emptyZip, sizeModel none (text "4096")⟩ (text "aff4://s")).size =
        4096 ∧
      (∃ stream, DeviceStream.create DeviceStream.anyDevice (sizeModel none (text "4096"))
          (text "aff4://s") (chunkCacheSizeAfter []) = .ok stream ∧ stream.size = 0) ∧
      ¬ReadsSize ⟨AFF4Map.emptyZip, sizeModel none (text "4096")⟩ (text "aff4://s")
        DeviceStream.anyDevice (chunkCacheSizeAfter []) 4096 := by
  obtain ⟨known, chunkSize, length⟩ := sizeModel_plain
  have created := DeviceStream.create_known DeviceStream.anyDevice (chunkCacheSizeAfter []) known
    (by rw [chunkSize]; decide)
  refine ⟨.plain numeral_4096, by decide +kernel, ⟨_, created, length⟩, ?_⟩
  intro reads
  have size := reads.image _ created
  rw [DeviceStream.size, length] at size
  exact absurd size (by decide)

end Aff4Lite.Map
