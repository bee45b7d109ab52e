import Aff4Lite.Rdf.Lexicon

/-!
# `aff4::codec`

The five codecs over the decompressors of zlib, LZ4 and snappy, which are parameters. What
a call places in the destination is a list of bytes, from the first byte of the destination
on, and may be longer than the destination.
-/

set_option autoImplicit false

namespace Aff4Lite.Codec

open Lib Rdf Aff4Lite.Stream

/-- A pointer to bytes in memory, `none` for the null pointer. -/
abbrev Pointer := Option (Nat → UInt8)

/-- Memory that starts with these bytes. -/
def memoryOf (bytes : Bytes) : Nat → UInt8 := fun index => bytes[index]?.getD 0

theorem firstCells_memoryOf (bytes : Bytes) {count : Nat} (inside : count ≤ bytes.length) :
    firstCells (memoryOf bytes) count = bytes.take count := by
  apply List.ext_getElem?
  intro index
  by_cases below : index < count
  · rw [firstCells, List.getElem?_map, List.getElem?_range below, List.getElem?_take_of_lt below,
      Option.map_some, memoryOf, List.getElem?_eq_getElem (by omega), Option.getD_some]
  · rw [List.getElem?_eq_none (by simpa using below),
      List.getElem?_eq_none (by rw [List.length_take]; omega)]

/-! ## The libraries -/

def Z_OK : Int := 0

def Z_STREAM_END : Int := 1

/-- What `inflate` leaves in its `z_stream`, and its status. -/
structure Inflated where
  status : Int
  written : Bytes
  total_out : U64

/-- What `uncompress` leaves in `*destLen`, and its status. -/
structure Uncompressed where
  status : Int
  written : Bytes
  destLen : U64

structure Libraries where
  inflateInit2 : (windowBits : Int) → Int
  inflate : (next_in : Nat → UInt8) → (avail_in avail_out : U32) → Inflated
  uncompress : (source : Nat → UInt8) → (destLen sourceLen : U64) → Uncompressed
  lz4DecompressSafe : (src : Nat → UInt8) → (compressedSize dstCapacity : U32) → U32 × Bytes
  rawUncompress : (compressed : Nat → UInt8) → (compressed_length : U64) → Bool × Bytes
  /-- The length that a snappy block announces in its header. -/
  getUncompressedLength : (compressed : Nat → UInt8) → (compressed_length : U64) → Nat

/-- The decompressors with a capacity respect it, and count what they wrote when they succeed.
`rawUncompress` has none: it writes as much as the header announces, unless it fails before. -/
structure Libraries.Documented (libraries : Libraries) : Prop where
  inflateCapacity : ∀ next_in avail_in avail_out,
    (libraries.inflate next_in avail_in avail_out).written.length ≤ avail_out.toNat
  inflateTotal : ∀ next_in avail_in avail_out,
    let stream := libraries.inflate next_in avail_in avail_out
    stream.status = Z_STREAM_END → stream.total_out.toNat = stream.written.length
  uncompressCapacity : ∀ source destLen sourceLen,
    (libraries.uncompress source destLen sourceLen).written.length ≤ destLen.toNat
  uncompressLength : ∀ source destLen sourceLen,
    let answer := libraries.uncompress source destLen sourceLen
    answer.status = Z_OK → answer.destLen.toNat = answer.written.length
  lz4Capacity : ∀ src compressedSize dstCapacity,
    (libraries.lz4DecompressSafe src compressedSize dstCapacity).2.length ≤ dstCapacity.toInt.toNat
  lz4Length : ∀ src compressedSize dstCapacity,
    let answer := libraries.lz4DecompressSafe src compressedSize dstCapacity
    0 ≤ answer.1.toInt → answer.1.toInt = answer.2.length
  snappyWhole : ∀ compressed compressed_length,
    let answer := libraries.rawUncompress compressed compressed_length
    answer.1 = true →
      answer.2.length = libraries.getUncompressedLength compressed compressed_length

/-! ## The codecs -/

/-- What `decompress` returns, and the bytes that it placed in the destination. -/
structure Decompression where
  res : U64
  written : Bytes
  deriving DecidableEq, Repr

/-- `if (source == nullptr || destination == nullptr) return 0;` -/
def unlessNull (source destination : Pointer) (call : (Nat → UInt8) → Decompression) :
    Decompression :=
  match source, destination with
  | some source, some _ => call source
  | _, _ => ⟨0, []⟩

@[simp] theorem unlessNull_some (source destination : Nat → UInt8)
    (call : (Nat → UInt8) → Decompression) :
    unlessNull (some source) (some destination) call = call source := rfl

def NullCompression.decompress (source : Pointer) (srcSize : U64) (destination : Pointer)
    (destSize : U64) : Decompression :=
  unlessNull source destination fun source =>
    let toCopy := stdMin srcSize destSize
    ⟨toCopy, firstCells source toCopy.toNat⟩

def SnappyCompression.decompress (libraries : Libraries) (source : Pointer) (srcSize : U64)
    (destination : Pointer) (destSize : U64) : Decompression :=
  unlessNull source destination fun source =>
    match libraries.rawUncompress source srcSize with
    | (true, written) => ⟨destSize, written⟩
    | (false, written) => ⟨0, written⟩

/-- The sizes are stored in the `uInt` members of a `z_stream`. -/
def DeflateCompression.decompress (libraries : Libraries) (source : Pointer) (srcSize : U64)
    (destination : Pointer) (destSize : U64) : Decompression :=
  unlessNull source destination fun source =>
    if libraries.inflateInit2 (-15) ≠ Z_OK then ⟨-1, []⟩
    else
      let zstream := libraries.inflate source (srcSize.setWidth 32) (destSize.setWidth 32)
      if zstream.status ≠ Z_STREAM_END then ⟨-1, zstream.written⟩
      else ⟨zstream.total_out, zstream.written⟩

def ZlibCompression.decompress (libraries : Libraries) (source : Pointer) (srcSize : U64)
    (destination : Pointer) (destSize : U64) : Decompression :=
  unlessNull source destination fun source =>
    let answer := libraries.uncompress source destSize srcSize
    ⟨answer.destLen, answer.written⟩

/-- The sizes are passed as `int`, and the `int` that comes back is converted to `uint64_t`. -/
def LZ4Compression.decompress (libraries : Libraries) (source : Pointer) (srcSize : U64)
    (destination : Pointer) (destSize : U64) : Decompression :=
  unlessNull source destination fun source =>
    let answer := libraries.lz4DecompressSafe source (srcSize.setWidth 32) (destSize.setWidth 32)
    ⟨answer.1.signExtend 64, answer.2⟩

inductive CompressionCodec where
  | nullCompression
  | snappyCompression
  | deflateCompression
  | zlibCompression
  | lz4Compression
  deriving DecidableEq, Repr

def getCodec (resource : Lexicon) : Option CompressionCodec :=
  match resource with
  | .aff4ImageCompressionSnappy => some .snappyCompression
  | .aff4ImageCompressionSnappy2 => some .snappyCompression
  | .aff4ImageCompressionLz4 => some .lz4Compression
  | .aff4ImageCompressionDeflate => some .deflateCompression
  | .aff4ImageCompressionStored => some .nullCompression
  | .aff4ImageCompressionZlib => some .zlibCompression
  | _ => none

/-- The overload that takes a `std::string`. -/
def getCodecOf (resource : Bytes) : Option CompressionCodec := getCodec (getLexicon resource)

namespace CompressionCodec

def decompress (codec : CompressionCodec) (libraries : Libraries) (source : Pointer)
    (srcSize : U64) (destination : Pointer) (destSize : U64) : Decompression :=
  match codec with
  | nullCompression => NullCompression.decompress source srcSize destination destSize
  | snappyCompression => SnappyCompression.decompress libraries source srcSize destination destSize
  | deflateCompression =>
      DeflateCompression.decompress libraries source srcSize destination destSize
  | zlibCompression => ZlibCompression.decompress libraries source srcSize destination destSize
  | lz4Compression => LZ4Compression.decompress libraries source srcSize destination destSize

/-! ## The contract -/

/-- The decompressor behind the codec reports failure. -/
def Failure (codec : CompressionCodec) (libraries : Libraries) (source : Nat → UInt8)
    (srcSize destSize : U64) : Prop :=
  match codec with
  | nullCompression => False
  | snappyCompression => (libraries.rawUncompress source srcSize).1 = false
  | deflateCompression =>
      libraries.inflateInit2 (-15) ≠ Z_OK ∨
        (libraries.inflate source (srcSize.setWidth 32) (destSize.setWidth 32)).status ≠
          Z_STREAM_END
  | zlibCompression => (libraries.uncompress source destSize srcSize).status ≠ Z_OK
  | lz4Compression =>
      (libraries.lz4DecompressSafe source (srcSize.setWidth 32) (destSize.setWidth 32)).1.toInt < 0

instance (codec : CompressionCodec) (libraries : Libraries) (source : Nat → UInt8)
    (srcSize destSize : U64) : Decidable (codec.Failure libraries source srcSize destSize) :=
  match codec with
  | nullCompression => inferInstanceAs (Decidable False)
  | snappyCompression => inferInstanceAs (Decidable (_ = false))
  | deflateCompression => inferInstanceAs (Decidable (_ ∨ _))
  | zlibCompression => inferInstanceAs (Decidable (_ ≠ _))
  | lz4Compression => inferInstanceAs (Decidable (_ < _))

/-- It is called, and reports failure. -/
def Fails (codec : CompressionCodec) (libraries : Libraries) (source : Pointer) (srcSize : U64)
    (destination : Pointer) (destSize : U64) : Prop :=
  ∃ memory, source = some memory ∧ destination.isSome ∧
    codec.Failure libraries memory srcSize destSize

/-- At most `destSize` bytes are written; the result is their number, or 0 for a failure. -/
structure Meets (result : Decompression) (destSize : U64) (failed : Prop) : Prop where
  within : result.written.length ≤ destSize.toNat
  counted : ¬failed → result.res.toNat = result.written.length
  zero : failed → result.res = 0

/-- When a call on two pointers meets the contract. -/
def Keeps (codec : CompressionCodec) (libraries : Libraries) (source : Nat → UInt8)
    (srcSize destSize : U64) : Prop :=
  match codec with
  | nullCompression => True
  | snappyCompression =>
      match libraries.rawUncompress source srcSize with
      | (true, _) => libraries.getUncompressedLength source srcSize = destSize.toNat
      | (false, written) => written.length ≤ destSize.toNat
  | deflateCompression => ¬deflateCompression.Failure libraries source srcSize destSize
  | zlibCompression =>
      zlibCompression.Failure libraries source srcSize destSize →
        (libraries.uncompress source destSize srcSize).destLen = 0
  | lz4Compression => ¬lz4Compression.Failure libraries source srcSize destSize

private theorem toNat_narrow_le (size : U64) : (size.setWidth 32).toNat ≤ size.toNat := by
  rw [BitVec.toNat_setWidth]
  exact Nat.mod_le _ _

section

variable {libraries : Libraries} (documented : libraries.Documented) (source : Nat → UInt8)
  (srcSize destSize : U64) (destination : Nat → UInt8)

private theorem null_meets (libraries : Libraries) :
    Meets (NullCompression.decompress (some source) srcSize (some destination) destSize) destSize
      (nullCompression.Failure libraries source srcSize destSize) where
  within := by
    change (firstCells source (stdMin srcSize destSize).toNat).length ≤ _
    rw [length_firstCells, toNat_stdMin]
    exact min_le_right _ _
  counted := fun _ => (length_firstCells _ _).symm
  zero := False.elim

include documented in
private theorem snappy_meets_iff :
    Meets (SnappyCompression.decompress libraries (some source) srcSize (some destination) destSize)
        destSize (snappyCompression.Failure libraries source srcSize destSize) ↔
      snappyCompression.Keeps libraries source srcSize destSize := by
  have whole := documented.snappyWhole source srcSize
  unfold SnappyCompression.decompress Failure Keeps
  rw [unlessNull_some]
  dsimp only at whole ⊢
  cases answer : libraries.rawUncompress source srcSize with
  | mk success written =>
      rw [answer] at whole
      cases success with
      | false => exact ⟨fun meets => meets.within, fun fits => ⟨fits, absurd rfl, fun _ => rfl⟩⟩
      | true =>
          have announced : written.length = _ := whole rfl
          constructor
          · intro meets
            have counted : destSize.toNat = written.length := meets.counted Bool.true_eq_false.mp
            exact announced.symm.trans counted.symm
          · intro exactly
            have counted : written.length = destSize.toNat := announced.trans exactly
            exact ⟨counted.le, fun _ => counted.symm, fun failed => by cases failed⟩

private theorem deflate_failure (libraries : Libraries)
    (failure : deflateCompression.Failure libraries source srcSize destSize) :
    (DeflateCompression.decompress libraries (some source) srcSize (some destination)
      destSize).res = -1 := by
  unfold DeflateCompression.decompress
  rw [unlessNull_some]
  by_cases started : libraries.inflateInit2 (-15) = Z_OK
  · rw [if_neg (not_not_intro started)]
    dsimp only
    rw [if_pos (failure.resolve_left (not_not_intro started))]
  · rw [if_pos started]

private theorem deflate_success (libraries : Libraries)
    (success : ¬deflateCompression.Failure libraries source srcSize destSize) :
    let zstream := libraries.inflate source (srcSize.setWidth 32) (destSize.setWidth 32)
    zstream.status = Z_STREAM_END ∧
      DeflateCompression.decompress libraries (some source) srcSize (some destination) destSize =
        ⟨zstream.total_out, zstream.written⟩ := by
  obtain ⟨started, ended⟩ := not_or.mp success
  refine ⟨not_not.mp ended, ?_⟩
  unfold DeflateCompression.decompress
  rw [unlessNull_some, if_neg started]
  dsimp only
  rw [if_neg ended]

include documented in
private theorem deflate_meets_iff :
    Meets (DeflateCompression.decompress libraries (some source) srcSize (some destination)
        destSize) destSize (deflateCompression.Failure libraries source srcSize destSize) ↔
      deflateCompression.Keeps libraries source srcSize destSize := by
  have capacity := documented.inflateCapacity source (srcSize.setWidth 32) (destSize.setWidth 32)
  have total := documented.inflateTotal source (srcSize.setWidth 32) (destSize.setWidth 32)
  constructor
  · intro meets failure
    have zero := meets.zero failure
    rw [deflate_failure source srcSize destSize destination libraries failure] at zero
    exact absurd zero (by decide)
  · intro success
    obtain ⟨ended, result⟩ :=
      deflate_success source srcSize destSize destination libraries success
    rw [result]
    exact ⟨capacity.trans (toNat_narrow_le destSize), fun _ => total ended,
      fun failed => absurd failed success⟩

include documented in
private theorem zlib_meets_iff :
    Meets (ZlibCompression.decompress libraries (some source) srcSize (some destination) destSize)
        destSize (zlibCompression.Failure libraries source srcSize destSize) ↔
      zlibCompression.Keeps libraries source srcSize destSize := by
  have capacity := documented.uncompressCapacity source destSize srcSize
  have length := documented.uncompressLength source destSize srcSize
  constructor
  · exact fun meets => meets.zero
  · exact fun keeps => ⟨capacity, fun succeeded => length (not_not.mp succeeded), keeps⟩

include documented in
private theorem lz4_meets_iff :
    Meets (LZ4Compression.decompress libraries (some source) srcSize (some destination) destSize)
        destSize (lz4Compression.Failure libraries source srcSize destSize) ↔
      lz4Compression.Keeps libraries source srcSize destSize := by
  have capacity := documented.lz4Capacity source (srcSize.setWidth 32) (destSize.setWidth 32)
  have length := documented.lz4Length source (srcSize.setWidth 32) (destSize.setWidth 32)
  have narrow := toNat_narrow_le destSize
  unfold LZ4Compression.decompress Keeps Failure
  rw [unlessNull_some]
  dsimp only at length ⊢
  generalize libraries.lz4DecompressSafe source (srcSize.setWidth 32) (destSize.setWidth 32) =
    answer at *
  have value : (answer.1.signExtend 64).toInt = answer.1.toInt :=
    BitVec.toInt_signExtend_of_le (by decide)
  constructor
  · intro meets failed
    have zero : answer.1.signExtend 64 = 0 := meets.zero failed
    rw [← value, zero] at failed
    exact absurd failed (by decide)
  · intro success
    have positive := not_lt.mp success
    have counted := length positive
    have signed := BitVec.toInt_eq_toNat_cond (destSize.setWidth 32)
    refine ⟨?_, fun _ => ?_, fun failed => absurd failed success⟩
    · split at signed
      · dsimp only
        omega
      · dsimp only
        omega
    · have unsigned := BitVec.toInt_eq_toNat_cond (answer.1.signExtend 64)
      dsimp only
      split at unsigned
      · omega
      · omega

end

private theorem decompress_null (codec : CompressionCodec) (libraries : Libraries)
    {source : Pointer}
    (srcSize : U64) {destination : Pointer} (destSize : U64)
    (null : source = none ∨ destination = none) :
    codec.decompress libraries source srcSize destination destSize = ⟨0, []⟩ := by
  have skipped : ∀ call, unlessNull source destination call = ⟨0, []⟩ := by
    intro call
    rcases null with rfl | rfl
    · rfl
    · cases source with
      | none => rfl
      | some memory => rfl
  cases codec with
  | nullCompression => exact skipped _
  | snappyCompression => exact skipped _
  | deflateCompression => exact skipped _
  | zlibCompression => exact skipped _
  | lz4Compression => exact skipped _

private theorem fails_some (codec : CompressionCodec) (libraries : Libraries)
    (source destination : Nat → UInt8) (srcSize destSize : U64) :
    codec.Fails libraries (some source) srcSize (some destination) destSize ↔
      codec.Failure libraries source srcSize destSize := by
  constructor
  · rintro ⟨memory, same, -, failure⟩
    cases same
    exact failure
  · exact fun failure => ⟨source, rfl, rfl, failure⟩

/-- A codec meets its contract on an input exactly when a pointer is null or the call is one that
the codec keeps it for. -/
theorem decompress_meets_iff {libraries : Libraries} (documented : libraries.Documented)
    (codec : CompressionCodec) (source : Pointer) (srcSize : U64) (destination : Pointer)
    (destSize : U64) :
    Meets (codec.decompress libraries source srcSize destination destSize) destSize
        (codec.Fails libraries source srcSize destination destSize) ↔
      ∀ memory, source = some memory → destination.isSome →
        codec.Keeps libraries memory srcSize destSize := by
  by_cases null : source = none ∨ destination = none
  · rw [decompress_null codec libraries srcSize destSize null]
    have uncalled : ∀ memory, source = some memory → ¬destination.isSome = true := by
      rintro memory rfl present
      rcases null with missing | rfl
      · cases missing
      · cases present
    have holds : Meets ⟨0, []⟩ destSize (codec.Fails libraries source srcSize destination
        destSize) :=
      ⟨Nat.zero_le _, fun _ => rfl, fun _ => rfl⟩
    exact ⟨fun _ memory present called => absurd called (uncalled memory present), fun _ => holds⟩
  · obtain ⟨hasSource, hasDestination⟩ := not_or.mp null
    obtain ⟨memory, rfl⟩ := Option.ne_none_iff_exists'.mp hasSource
    obtain ⟨place, rfl⟩ := Option.ne_none_iff_exists'.mp hasDestination
    have called : (∀ other, some memory = some other → (some place).isSome = true →
        codec.Keeps libraries other srcSize destSize) ↔
          codec.Keeps libraries memory srcSize destSize :=
      ⟨fun all => all memory rfl rfl, fun keeps other same _ => Option.some.inj same ▸ keeps⟩
    rw [fails_some, called]
    cases codec with
    | nullCompression =>
        exact ⟨fun _ => trivial, fun _ => null_meets memory srcSize destSize place libraries⟩
    | snappyCompression => exact snappy_meets_iff documented memory srcSize destSize place
    | deflateCompression => exact deflate_meets_iff documented memory srcSize destSize place
    | zlibCompression => exact zlib_meets_iff documented memory srcSize destSize place
    | lz4Compression => exact lz4_meets_iff documented memory srcSize destSize place

/-! ## Decompressors for blocks of literals -/

/-- Decode the whole content, then write as much of it as there is room for. -/
def attempt (decode : Bytes → Option Bytes) (source : Bytes) (capacity : Nat) : Bool × Bytes :=
  match decode source with
  | none => (false, [])
  | some content => (content.length ≤ capacity, content.take capacity)

private theorem attempt_capacity (decode : Bytes → Option Bytes) (source : Bytes) (capacity : Nat) :
    (attempt decode source capacity).2.length ≤ capacity := by
  unfold attempt
  cases decode source with
  | none => exact Nat.zero_le _
  | some content => exact List.length_take_le _ _

/-- A final stored block; any other block type is not decoded. -/
def storedBlock : Bytes → Option Bytes
  | 1 :: low :: high :: _ :: _ :: rest =>
      let length := low.toNat + 256 * high.toNat
      if length ≤ rest.length then some (rest.take length) else none
  | _ => none

/-- A block of a few literals: their number is in the high half of the token. -/
def literalBlock : Bytes → Option Bytes
  | token :: rest => if token.toNat = 16 * rest.length then some rest else none
  | [] => none

def announcedBy : Bytes → Nat
  | first :: _ => first.toNat
  | [] => 0

/-- The announced length, and one literal of this length. -/
def snappyBlock : Bytes → Option Bytes
  | length :: tag :: rest =>
      if length.toNat = rest.length ∧ tag.toNat = 4 * (rest.length - 1) then some rest else none
  | _ => none

def literalLibraries : Libraries where
  inflateInit2 _ := Z_OK
  inflate next_in avail_in avail_out :=
    let (success, written) := attempt storedBlock
      (firstCells next_in avail_in.toNat) avail_out.toNat
    ⟨if success then Z_STREAM_END else -3, written, BitVec.ofNat 64 written.length⟩
  uncompress source destLen sourceLen :=
    let (success, written) :=
      attempt (fun bytes => storedBlock (bytes.drop 2)) (firstCells source sourceLen.toNat)
        destLen.toNat
    ⟨if success then Z_OK else -3, written, BitVec.ofNat 64 written.length⟩
  lz4DecompressSafe src compressedSize dstCapacity :=
    let (success, written) :=
      attempt literalBlock (firstCells src compressedSize.toNat) dstCapacity.toInt.toNat
    (if success then BitVec.ofNat 32 written.length else -1, written)
  rawUncompress compressed compressed_length :=
    match snappyBlock (firstCells compressed compressed_length.toNat) with
    | some content => (true, content)
    | none => (false, [])
  getUncompressedLength compressed compressed_length :=
    announcedBy (firstCells compressed compressed_length.toNat)

private theorem snappyBlock_announced {source content : Bytes}
    (decoded : snappyBlock source = some content) :
    content.length = announcedBy source := by
  unfold snappyBlock at decoded
  split at decoded
  · split at decoded
    · rename_i matching
      cases decoded
      exact matching.1.symm
    · cases decoded
  · cases decoded

theorem toNat_length {width capacity : Nat} {bytes : Bytes} (fits : bytes.length ≤ capacity)
    (small : capacity < 2 ^ width) : (BitVec.ofNat width bytes.length).toNat = bytes.length := by
  rw [BitVec.toNat_ofNat]
  exact Nat.mod_eq_of_lt (lt_of_le_of_lt fits small)

private theorem literalLibraries_documented : literalLibraries.Documented where
  inflateCapacity _ _ _ := attempt_capacity _ _ _
  inflateTotal _ _ avail_out _ := toNat_length (attempt_capacity _ _ _) (by omega)
  uncompressCapacity _ _ _ := attempt_capacity _ _ _
  uncompressLength _ destLen _ _ := toNat_length (attempt_capacity _ _ _) destLen.isLt
  lz4Capacity _ _ _ := attempt_capacity _ _ _
  lz4Length src compressedSize dstCapacity := by
    have fits := attempt_capacity literalBlock (firstCells src compressedSize.toNat)
      dstCapacity.toInt.toNat
    have small := BitVec.toInt_lt (x := dstCapacity)
    dsimp only [literalLibraries]
    intro positive
    cases answer : attempt literalBlock (firstCells src compressedSize.toNat)
        dstCapacity.toInt.toNat with
    | mk success written =>
        rw [answer] at fits positive
        dsimp only at fits positive
        cases success with
        | false => exact absurd positive (show ¬0 ≤ BitVec.toInt (-1 : U32) by decide)
        | true =>
            have signed := BitVec.toInt_eq_toNat_cond (BitVec.ofNat 32 written.length)
            rw [BitVec.toNat_ofNat] at signed
            change (BitVec.ofNat 32 written.length).toInt = written.length
            omega
  snappyWhole compressed compressed_length := by
    dsimp only [literalLibraries]
    cases decoded : snappyBlock (firstCells compressed compressed_length.toNat) with
    | none => exact fun failed => by cases failed
    | some content => exact fun _ => snappyBlock_announced decoded

theorem decompress_meets_iff_literals :
    Meets (snappyCompression.decompress literalLibraries (some (memoryOf [2, 4, 65, 66])) 4
          (some (memoryOf [])) 2) 2
        (snappyCompression.Fails literalLibraries (some (memoryOf [2, 4, 65, 66])) 4
          (some (memoryOf [])) 2) ↔
      ∀ memory, some (memoryOf [2, 4, 65, 66]) = some memory → (some (memoryOf [])).isSome →
        snappyCompression.Keeps literalLibraries memory 4 2 :=
  decompress_meets_iff literalLibraries_documented .snappyCompression
    (some (memoryOf [2, 4, 65, 66])) 4 (some (memoryOf [])) 2

def deflateGarbage : Decompression :=
  deflateCompression.decompress literalLibraries (some (memoryOf [7])) 1 (some (memoryOf [])) 4

/-- A block that announces four bytes, for a destination of two. -/
def snappyOverrun : Decompression :=
  snappyCompression.decompress literalLibraries (some (memoryOf [4, 12, 65, 66, 67, 68])) 6
    (some (memoryOf [])) 2

/-- The failure is reported as 2^64 - 1 bytes, and the destination is overrun. -/
theorem failure_counted_and_overrun :
    literalLibraries.Documented ∧
      (deflateCompression.Fails literalLibraries (some (memoryOf [7])) 1 (some (memoryOf [])) 4 ∧
        deflateGarbage = ⟨0xffffffffffffffff, []⟩ ∧
        ¬Meets deflateGarbage 4
          (deflateCompression.Fails literalLibraries (some (memoryOf [7])) 1
            (some (memoryOf [])) 4)) ∧
      snappyOverrun = ⟨2, [65, 66, 67, 68]⟩ ∧
      ¬Meets snappyOverrun 2
        (snappyCompression.Fails literalLibraries (some (memoryOf [4, 12, 65, 66, 67, 68])) 6
          (some (memoryOf [])) 2) := by
  have failure : deflateCompression.Failure literalLibraries (memoryOf [7]) 1 4 := by
    dsimp only [Failure]
    decide
  have failed := (fails_some _ _ _ (memoryOf []) _ _).mpr failure
  refine ⟨literalLibraries_documented, ⟨failed, by decide, ?_⟩, by decide, ?_⟩
  · intro meets
    exact absurd (meets.zero failed) (by decide)
  · intro meets
    exact absurd meets.within (by decide)

end CompressionCodec

end Aff4Lite.Codec
