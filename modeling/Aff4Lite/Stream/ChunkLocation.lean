import Aff4Lite.Stream.ChunkLoader

/-!
# Where `ChunkLoader::load` looks for a chunk

The bevvy segment that `BevvyIndex` names and the point that `load` asks its index for, as
functions of the chunk offset. The name is cut to 8 characters, so the bevvies from 10^8 on
share the names of others.
-/

set_option autoImplicit false

namespace Aff4Lite.Stream

open Lib Containers

/-! ## Decimal texts -/

/-- The number that the characters of a `%08` text spell. -/
def decimalValue (bytes : Bytes) : Nat :=
  Nat.ofDigitChars 10 (bytes.map fun byte => Char.ofNat byte.toNat) 0

private theorem ofNat_ofNat_of_isDigit {char : Char} (digit : char.isDigit = true) :
    Char.ofNat (UInt8.ofNat char.toNat).toNat = char := by
  have small : char.toNat < 256 := by
    simp only [Char.isDigit, Bool.and_eq_true, decide_eq_true_eq, ge_iff_le] at digit
    have upper : char.val.toNat ≤ 57 := UInt32.le_iff_toNat_le.mp digit.2
    exact lt_of_le_of_lt upper (by decide)
  rw [UInt8.toNat_ofNat_of_lt' small, Char.ofNat_toNat]

private theorem decimalValue_padded (width value : Nat) :
    decimalValue (padded width value) = value := by
  have digits : ∀ char ∈ List.leftpad width '0' (Nat.toDigits 10 value), char.isDigit = true := by
    intro char member
    rcases List.mem_append.mp member with zero | spelled
    · rw [List.eq_of_mem_replicate zero]
      rfl
    · exact Nat.isDigit_of_mem_toDigits (by decide) (by decide) spelled
  have back : (padded width value).map (fun byte => Char.ofNat byte.toNat) =
      List.leftpad width '0' (Nat.toDigits 10 value) := by
    unfold padded
    rw [List.map_map]
    exact (List.map_congr_left fun char member =>
      ofNat_ofNat_of_isDigit (digits char member)).trans (List.map_id _)
  unfold decimalValue
  rw [back, List.leftpad, Nat.ofDigitChars_append, Nat.ofDigitChars_replicate_zero, Nat.mul_zero,
    Nat.ofDigitChars_ten_toDigits]

private theorem padded_injective (width : Nat) : Function.Injective (padded width) :=
  Function.LeftInverse.injective (decimalValue_padded width)

private theorem bevvyText_injective {left right : U32} (leftSmall : left.toNat < 10 ^ 8)
    (rightSmall : right.toNat < 10 ^ 8) (same : bevvyText left = bevvyText right) :
    left = right := by
  rw [bevvyText_of_lt leftSmall, bevvyText_of_lt rightSmall] at same
  exact BitVec.eq_of_toNat_eq (padded_injective 8 same)

/-! ## The pair that is consulted -/

def bevvyOf (chunkSize chunksInSegment : U32) (offset : U64) : U32 :=
  (offset / chunkSize.setWidth 64 / chunksInSegment.setWidth 64).setWidth 32

def pointOf (chunkSize chunksInSegment : U32) (offset : U64) : U32 :=
  (offset / chunkSize.setWidth 64 % chunksInSegment.setWidth 64).setWidth 32

def BevvyIndex.segmentName (resource : Bytes) (bevvyID : U32) : Bytes :=
  resource ++ text "/" ++ bevvyText bevvyID

structure ChunkLocation where
  segmentName : Bytes
  point : U32
  deriving DecidableEq, Repr

/-- What `load` and the constructor of `BevvyIndex` consult; `none` is a division by zero. -/
def consulted (resource : Bytes) (chunkSize chunksInSegment : U32) (offset : U64) :
    Option ChunkLocation :=
  if chunkSize = 0 ∨ chunksInSegment = 0 then none
  else
    some ⟨BevvyIndex.segmentName resource (bevvyOf chunkSize chunksInSegment offset),
      pointOf chunkSize chunksInSegment offset⟩

theorem DeviceStream.loadChunk_congr {World : Type} (self : DeviceStream World)
    {key other : U64}
    (bevvy : bevvyOf self.chunkSize self.chunksInSegment key =
      bevvyOf self.chunkSize self.chunksInSegment other)
    (point : pointOf self.chunkSize self.chunksInSegment key =
      pointOf self.chunkSize self.chunksInSegment other)
    (state : DeviceStream.LoaderState World) :
    self.loadChunk key state = self.loadChunk other state := by
  unfold bevvyOf at bevvy
  unfold pointOf at point
  unfold DeviceStream.loadChunk
  dsimp only
  rw [bevvy, point]

private theorem BevvyIndex.create_congr (container : ZipContainer) (resource : Bytes)
    {left right : U32}
    (heap decompbuffer : Nat → UInt8)
    (same : BevvyIndex.segmentName resource left = BevvyIndex.segmentName resource right) :
    BevvyIndex.create container resource right heap decompbuffer =
      { BevvyIndex.create container resource left heap decompbuffer with bevvyID := right } := by
  unfold BevvyIndex.segmentName at same
  unfold BevvyIndex.create
  dsimp only
  rw [same]
  repeat' split
  all_goals rfl

/-- Offsets with one location get one point of one bevvy, so one chunk is served for both. -/
theorem served_of_consulted_eq (container : ZipContainer) {resource : Bytes}
    {chunkSize chunksInSegment : U32} (heap decompbuffer : Nat → UInt8) {offset other : U64}
    (nonzero : ¬(chunkSize = 0 ∨ chunksInSegment = 0))
    (same : consulted resource chunkSize chunksInSegment offset =
      consulted resource chunkSize chunksInSegment other) :
    let index := BevvyIndex.create container resource (bevvyOf chunkSize chunksInSegment offset)
      heap decompbuffer
    let otherIndex := BevvyIndex.create container resource
      (bevvyOf chunkSize chunksInSegment other) heap decompbuffer
    index.getPoint (pointOf chunkSize chunksInSegment offset) =
        otherIndex.getPoint (pointOf chunkSize chunksInSegment other) ∧
      index.dataChunkOffset = otherIndex.dataChunkOffset := by
  unfold consulted at same
  rw [if_neg nonzero, if_neg nonzero] at same
  obtain ⟨name, point⟩ := ChunkLocation.mk.inj (Option.some.inj same)
  rw [BevvyIndex.create_congr container resource heap decompbuffer name, point]
  exact ⟨rfl, rfl⟩

/-! ## When the mapping is injective -/

/-- A chunk-aligned offset of a stream. -/
structure AlignedBelow (chunkSize : U32) (length offset : U64) : Prop where
  aligned : chunkSize.toNat ∣ offset.toNat
  below : offset.toNat < length.toNat

/-- Every two chunks have locations of their own. -/
def ConsultsApart (resource : Bytes) (chunkSize chunksInSegment : U32) (length : U64) : Prop :=
  ∀ offset other, AlignedBelow chunkSize length offset → AlignedBelow chunkSize length other →
    offset ≠ other →
      ∃ location otherLocation,
        consulted resource chunkSize chunksInSegment offset = some location ∧
        consulted resource chunkSize chunksInSegment other = some otherLocation ∧
        location ≠ otherLocation

section Injectivity

variable {chunkSize chunksInSegment : U32}

private theorem toNat_quotient (offset : U64) :
    (offset / chunkSize.setWidth 64).toNat = offset.toNat / chunkSize.toNat := by
  rw [BitVec.toNat_udiv, toNat_widen _ (by decide)]

private theorem toNat_bevvyOf {offset : U64}
    (fits : offset.toNat / chunkSize.toNat / chunksInSegment.toNat < 2 ^ 32) :
    (bevvyOf chunkSize chunksInSegment offset).toNat =
      offset.toNat / chunkSize.toNat / chunksInSegment.toNat := by
  unfold bevvyOf
  rw [BitVec.toNat_setWidth, toNat_quotient, toNat_quotient, Nat.mod_eq_of_lt fits]

private theorem toNat_pointOf (nonzero : chunksInSegment ≠ 0) (offset : U64) :
    (pointOf chunkSize chunksInSegment offset).toNat =
      offset.toNat / chunkSize.toNat % chunksInSegment.toNat := by
  have positive : 0 < chunksInSegment.toNat := by bv_omega
  have small := Nat.mod_lt (offset.toNat / chunkSize.toNat) positive
  have bound := chunksInSegment.isLt
  unfold pointOf
  rw [BitVec.toNat_setWidth, BitVec.toNat_umod, toNat_quotient, toNat_widen _ (by decide),
    Nat.mod_eq_of_lt (by omega)]

private theorem eq_of_parts_eq {size perSegment offset other : Nat} (aligned : size ∣ offset)
    (otherAligned : size ∣ other)
    (bevvy : offset / size / perSegment = other / size / perSegment)
    (point : offset / size % perSegment = other / size % perSegment) : offset = other := by
  have chunk : offset / size = other / size := by
    rw [← Nat.div_add_mod (offset / size) perSegment, bevvy, point, Nat.div_add_mod]
  rw [← Nat.div_mul_cancel aligned, chunk, Nat.div_mul_cancel otherAligned]

private theorem bevvy_lt {size perSegment offset : Nat}
    (bound : offset < 10 ^ 8 * perSegment * size) :
    offset / size / perSegment < 10 ^ 8 := by
  have chunk : offset / size < 10 ^ 8 * perSegment := Nat.div_lt_of_lt_mul (by
    rw [Nat.mul_comm]
    exact bound)
  exact Nat.div_lt_of_lt_mul (by
    rw [Nat.mul_comm]
    exact chunk)

private theorem consulted_bevvy (resource : Bytes) {bevvyID : U32} {offset : U64}
    (nonzero : ¬(chunkSize = 0 ∨ chunksInSegment = 0))
    (starts : offset.toNat = bevvyID.toNat * chunksInSegment.toNat * chunkSize.toNat) :
    consulted resource chunkSize chunksInSegment offset =
      some ⟨BevvyIndex.segmentName resource bevvyID, 0⟩ := by
  push Not at nonzero
  have sizePos : 0 < chunkSize.toNat := by
    have := nonzero.1
    bv_omega
  have segmentPos : 0 < chunksInSegment.toNat := by
    have := nonzero.2
    bv_omega
  have chunk : offset.toNat / chunkSize.toNat = bevvyID.toNat * chunksInSegment.toNat := by
    rw [starts, Nat.mul_div_cancel _ sizePos]
  have bevvy : offset.toNat / chunkSize.toNat / chunksInSegment.toNat = bevvyID.toNat := by
    rw [chunk, Nat.mul_div_cancel _ segmentPos]
  have named : bevvyOf chunkSize chunksInSegment offset = bevvyID := by
    apply BitVec.eq_of_toNat_eq
    rw [toNat_bevvyOf (by rw [bevvy]; exact bevvyID.isLt), bevvy]
  have first : pointOf chunkSize chunksInSegment offset = 0 := by
    apply BitVec.eq_of_toNat_eq
    rw [toNat_pointOf nonzero.2, chunk, Nat.mul_mod_left]
    rfl
  unfold consulted
  rw [if_neg (by push Not; exact nonzero), named, first]

private theorem single_chunk {length offset other : U64}
    (single : chunkSize = 0 ∨ length ≤ chunkSize.setWidth 64)
    (aligned : AlignedBelow chunkSize length offset)
    (otherAligned : AlignedBelow chunkSize length other) : offset = other := by
  have first : ∀ {position : U64}, AlignedBelow chunkSize length position → position.toNat = 0 := by
    intro position alignedBelow
    rcases single with zero | short
    · exact Nat.eq_zero_of_zero_dvd (by simpa [zero] using alignedBelow.aligned)
    · have wide := toNat_widen chunkSize (by decide : 32 ≤ 64)
      have inside := alignedBelow.below
      exact Nat.eq_zero_of_dvd_of_lt alignedBelow.aligned (by bv_omega)
  exact BitVec.eq_of_toNat_eq ((first aligned).trans (first otherAligned).symm)

private theorem two_chunks {length : U64} (sized : chunkSize ≠ 0)
    (long : chunkSize.setWidth 64 < length) :
    AlignedBelow chunkSize length 0 ∧ AlignedBelow chunkSize length (chunkSize.setWidth 64) ∧
      (0 : U64) ≠ chunkSize.setWidth 64 := by
  have wide := toNat_widen chunkSize (by decide : 32 ≤ 64)
  refine ⟨⟨Nat.dvd_zero _, ?_⟩, ⟨by rw [wide], ?_⟩, ?_⟩ <;> bv_omega

def bevvyStart (chunkSize chunksInSegment bevvyID : U32) : U64 :=
  BitVec.ofNat 64 (bevvyID.toNat * chunksInSegment.toNat * chunkSize.toNat)

private theorem toNat_bevvyStart {bevvyID : U32}
    (fits : bevvyID.toNat * chunksInSegment.toNat * chunkSize.toNat < 2 ^ 64) :
    (bevvyStart chunkSize chunksInSegment bevvyID).toNat =
      bevvyID.toNat * chunksInSegment.toNat * chunkSize.toNat := by
  unfold bevvyStart
  rw [BitVec.toNat_ofNat, Nat.mod_eq_of_lt fits]

end Injectivity

/-- The ninth digit is cut off. -/
theorem segmentName_clash (resource : Bytes) :
    BevvyIndex.segmentName resource 100000000 = BevvyIndex.segmentName resource 10000000 := by
  unfold BevvyIndex.segmentName
  rw [show bevvyText 100000000 = bevvyText 10000000 by decide]

private theorem consultsApart_of_lt (resource : Bytes) {chunkSize chunksInSegment : U32}
    {length : U64}
    (nonzero : ¬(chunkSize = 0 ∨ chunksInSegment = 0))
    (short : length.toNat ≤ 10 ^ 8 * chunksInSegment.toNat * chunkSize.toNat) :
    ConsultsApart resource chunkSize chunksInSegment length := by
  intro offset other aligned otherAligned different
  unfold consulted
  rw [if_neg nonzero, if_neg nonzero]
  refine ⟨_, _, rfl, rfl, fun same => different ?_⟩
  obtain ⟨name, point⟩ := ChunkLocation.mk.inj same
  have bound := bevvy_lt (lt_of_lt_of_le aligned.below short)
  have otherBound := bevvy_lt (lt_of_lt_of_le otherAligned.below short)
  have number := toNat_bevvyOf (lt_trans bound (by decide))
  have otherNumber := toNat_bevvyOf (lt_trans otherBound (by decide))
  have bevvy := bevvyText_injective (by rw [number]; exact bound)
    (by rw [otherNumber]; exact otherBound) (List.append_cancel_left name)
  push Not at nonzero
  apply BitVec.eq_of_toNat_eq
  apply eq_of_parts_eq aligned.aligned otherAligned.aligned
  · rw [← number, ← otherNumber, bevvy]
  · rw [← toNat_pointOf nonzero.2, ← toNat_pointOf nonzero.2, point]

/-- Bevvy 10^8 is looked for under the name of bevvy 10^7. -/
theorem not_consultsApart_of_long (resource : Bytes) {chunkSize chunksInSegment : U32}
    {length : U64} (nonzero : ¬(chunkSize = 0 ∨ chunksInSegment = 0))
    (long : 10 ^ 8 * chunksInSegment.toNat * chunkSize.toNat < length.toNat) :
    ¬ConsultsApart resource chunkSize chunksInSegment length := by
  intro apart
  have split := nonzero
  push Not at split
  have sizePos : 0 < chunkSize.toNat := by
    have := split.1
    bv_omega
  have segmentPos : 0 < chunksInSegment.toNat := by
    have := split.2
    bv_omega
  have bevvyPos := Nat.mul_pos segmentPos sizePos
  rw [Nat.mul_assoc] at long
  have start : ∀ bevvyID : U32, bevvyID.toNat ≤ 10 ^ 8 →
      (bevvyStart chunkSize chunksInSegment bevvyID).toNat =
          bevvyID.toNat * chunksInSegment.toNat * chunkSize.toNat ∧
        AlignedBelow chunkSize length (bevvyStart chunkSize chunksInSegment bevvyID) := by
    intro bevvyID small
    have bound := length.isLt
    have scaled := Nat.mul_le_mul_right (chunksInSegment.toNat * chunkSize.toNat) small
    have fits : bevvyID.toNat * chunksInSegment.toNat * chunkSize.toNat < 2 ^ 64 := by
      rw [Nat.mul_assoc]
      omega
    have value := toNat_bevvyStart fits
    exact ⟨value, by rw [value]; exact Nat.dvd_mul_left _ _, by
      rw [value, Nat.mul_assoc]
      omega⟩
  obtain ⟨late, lateAligned⟩ := start 100000000 (by decide)
  obtain ⟨early, earlyAligned⟩ := start 10000000 (by decide)
  have different : bevvyStart chunkSize chunksInSegment 100000000 ≠
      bevvyStart chunkSize chunksInSegment 10000000 := by
    intro same
    rw [same, early, Nat.mul_assoc, Nat.mul_assoc] at late
    have values := Nat.eq_of_mul_eq_mul_right bevvyPos late
    exact absurd values (by decide)
  obtain ⟨_, _, found, otherFound, distinct⟩ := apart _ _ lateAligned earlyAligned different
  rw [consulted_bevvy resource nonzero late] at found
  rw [consulted_bevvy resource nonzero early] at otherFound
  cases found
  cases otherFound
  exact distinct (by rw [segmentName_clash])

/-- The chunks have locations of their own exactly if there is at most one of them, or if none
lies in the bevvy 10^8 or behind it. -/
theorem consultsApart_iff (resource : Bytes) (chunkSize chunksInSegment : U32) (length : U64) :
    ConsultsApart resource chunkSize chunksInSegment length ↔
      chunkSize = 0 ∨ length ≤ chunkSize.setWidth 64 ∨
        chunksInSegment ≠ 0 ∧
          length.toNat ≤ 10 ^ 8 * chunksInSegment.toNat * chunkSize.toNat := by
  by_cases single : chunkSize = 0 ∨ length ≤ chunkSize.setWidth 64
  · refine ⟨fun _ => single.imp_right .inl, fun _ => ?_⟩
    intro offset other aligned otherAligned different
    exact absurd (single_chunk single aligned otherAligned) different
  · push Not at single
    by_cases zero : chunksInSegment = 0
    · refine ⟨fun apart => ?_, fun either => ?_⟩
      · -- the two first chunks are asked for with a division by zero
        obtain ⟨first, second, different⟩ := two_chunks single.1 (BitVec.not_le.mp single.2)
        obtain ⟨_, _, found, _⟩ := apart _ _ first second different
        unfold consulted at found
        rw [if_pos (.inr zero)] at found
        cases found
      · rcases either with noSize | short | ⟨nonzero, _⟩
        · exact absurd noSize single.1
        · exact absurd short single.2
        · exact absurd zero nonzero
    · have nonzero : ¬(chunkSize = 0 ∨ chunksInSegment = 0) := by
        push Not
        exact ⟨single.1, zero⟩
      constructor
      · intro apart
        refine .inr (.inr ⟨zero, ?_⟩)
        by_contra long
        exact not_consultsApart_of_long resource nonzero (by omega) apart
      · rintro (noSize | short | ⟨_, short⟩)
        · exact absurd noSize single.1
        · exact absurd short single.2
        · exact consultsApart_of_lt resource nonzero short

/-- 10^8 + 1 chunks of one byte, one chunk to a bevvy. -/
theorem consultsApart_fails :
    ¬∀ (resource : Bytes) (chunkSize chunksInSegment : U32) (length : U64),
      ConsultsApart resource chunkSize chunksInSegment length := by
  intro every
  exact not_consultsApart_of_long [] (by decide) (by decide) (every [] 1 1 100000001)

end Aff4Lite.Stream
