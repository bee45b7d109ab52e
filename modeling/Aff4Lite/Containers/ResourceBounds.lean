import Aff4Lite.Containers.ResourceIDProperties

/-!
The bytes that the fast path of `getResourceID` looks at. The records that it inspects lie in
the buffer; the segment that it takes may run out of it, since the bound for the size adds the
lengths of the name and of the extra field where it has to subtract them.
-/

set_option autoImplicit false

namespace Aff4Lite.Containers

open Lib Zip

/-! ## What is inspected -/

structure ByteRange where
  start : Nat
  count : Nat
  deriving DecidableEq, Repr

def ByteRange.Inside (range : ByteRange) : Prop := range.start + range.count ≤ resourceBufferSize

instance (range : ByteRange) : Decidable range.Inside := inferInstanceAs (Decidable (_ ≤ _))

/-- The record of the extra field, with the sizes in it that are loaded. -/
def extraReads (header : ZipFileHeader) (buffer : Bytes) : List ByteRange :=
  let offset := ZipFileHeader.sizeof + fileDescriptor.length
  let extraHeader := ZipExtraFieldHeader.ofBytes (buffer.drop offset)
  if header.extra_field_len ≠ 0 then
    ⟨offset, ZipExtraFieldHeader.sizeof⟩ ::
      if extraHeader.header_id = 1 then
        let hasSize := extraHeader.data_size ≥ 8
        let size : U64 := if hasSize then wordAt 64 (offset + 4) buffer else 0
        let dataSize := if hasSize then extraHeader.data_size - 8 else extraHeader.data_size
        let next := if hasSize then offset + 12 else offset + 4
        (if hasSize then [⟨offset + 4, 8⟩] else []) ++
          if header.compress_size = 0xffffffff ∧ dataSize ≥ 8 ∧ (size = 0 ∨ size = -1) then
            [⟨next, 8⟩]
          else []
      else []
  else []

/-- The places that are taken for a `ZipDataDescriptor64`, up to the first with a signature. -/
def descriptorReads (buffer : Bytes) : List ByteRange :=
  let last := (scanDescriptor buffer).getD (resourceBufferSize - 24)
  (List.range (last + 1)).map (⟨·, 24⟩)

/-- What is looked at behind the check of the first signature, besides the segment. -/
def inspected (buffer : Bytes) : List ByteRange :=
  let header := firstHeader buffer
  ⟨0, ZipFileHeader.sizeof⟩ ::
    if header.compression_method ≠ 0 then []
    else if header.file_name_length ≠ 0x15 then []
    else
      ⟨ZipFileHeader.sizeof, 21⟩ ::
        if slice buffer ZipFileHeader.sizeof 21 ≠ fileDescriptor then []
        else if header.file_size = 0xffffffff then
          let size := extraSize header buffer
          extraReads header buffer ++
            if size = 0 ∨ size = -1 then descriptorReads buffer else []
        else []

private theorem eq_of_mem_if {α : Type} {condition : Prop} [Decidable condition] {item value : α}
    (member : item ∈ if condition then [value] else []) : item = value := by
  split at member
  · exact List.mem_singleton.mp member
  · cases member

private theorem extraReads_inside (header : ZipFileHeader) (buffer : Bytes) :
    ∀ range ∈ extraReads header buffer, range.Inside := by
  intro range member
  unfold extraReads at member
  have offset : ZipFileHeader.sizeof + fileDescriptor.length = 51 := by decide
  rw [offset] at member
  dsimp only at member
  split at member
  · rcases List.mem_cons.mp member with rfl | rest
    · decide
    by_cases kind : (ZipExtraFieldHeader.ofBytes (buffer.drop 51)).header_id = 1
    · rw [if_pos kind] at rest
      rcases List.mem_append.mp rest with first | second
      · rw [eq_of_mem_if first]
        decide
      · rw [eq_of_mem_if second]
        split <;> decide
    · rw [if_neg kind] at rest
      cases rest
  · cases member

private theorem scanDescriptor_le {buffer : Bytes} {position : Nat}
    (found : scanDescriptor buffer = some position) : position ≤ resourceBufferSize - 24 := by
  have member := List.mem_range.mp (List.mem_of_find?_eq_some found)
  omega

private theorem descriptorReads_inside (buffer : Bytes) :
    ∀ range ∈ descriptorReads buffer, range.Inside := by
  intro range member
  obtain ⟨start, below, rfl⟩ := List.mem_map.mp member
  have last : (scanDescriptor buffer).getD (resourceBufferSize - 24) ≤ resourceBufferSize - 24 := by
    cases found : scanDescriptor buffer with
    | none => exact le_refl _
    | some position => exact scanDescriptor_le found
  have small := List.mem_range.mp below
  unfold ByteRange.Inside
  unfold resourceBufferSize at *
  dsimp only
  omega

private theorem inspected_inside (buffer : Bytes) : ∀ range ∈ inspected buffer, range.Inside := by
  intro range member
  unfold inspected at member
  dsimp only at member
  rcases List.mem_cons.mp member with rfl | rest
  · decide
  split at rest
  · cases rest
  split at rest
  · cases rest
  rcases List.mem_cons.mp rest with rfl | rest
  · decide
  split at rest
  · cases rest
  split at rest
  · rcases List.mem_append.mp rest with extra | scanned
    · exact extraReads_inside _ _ range extra
    · split at scanned
      · exact descriptorReads_inside _ range scanned
      · cases scanned
  · cases rest

/-! ## Where the size is announced -/

/-- A 64-bit size that is neither missing nor deferred. -/
def Given (size : U64) : Prop := size ≠ 0 ∧ size ≠ -1

instance (size : U64) : Decidable (Given size) := inferInstanceAs (Decidable (_ ∧ _))

/-- The sizes behind the header of the first record of the extra field. -/
def zip64Slot (buffer : Bytes) (index : Nat) : U64 := wordAt 64 (55 + 8 * index) buffer

/-- The first record of the extra field is of kind 1 and holds `count` sizes. -/
def Zip64Slots (buffer : Bytes) (count : Nat) : Prop :=
  (firstHeader buffer).extra_field_len ≠ 0 ∧
    (ZipExtraFieldHeader.ofBytes (buffer.drop 51)).header_id = 1 ∧
    8 * count ≤ (ZipExtraFieldHeader.ofBytes (buffer.drop 51)).data_size.toNat

instance (buffer : Bytes) (count : Nat) : Decidable (Zip64Slots buffer count) :=
  inferInstanceAs (Decidable (_ ∧ _))

/-- The size that the extra field gives. -/
inductive ExtraAnnounces (buffer : Bytes) : U64 → Prop where
  | file (slots : Zip64Slots buffer 1) (given : Given (zip64Slot buffer 0)) :
      ExtraAnnounces buffer (zip64Slot buffer 0)
  | compressed (slots : Zip64Slots buffer 2) (deferred : ¬Given (zip64Slot buffer 0))
      (large : (firstHeader buffer).compress_size = 0xffffffff)
      (given : Given (zip64Slot buffer 1)) :
      ExtraAnnounces buffer (zip64Slot buffer 1)

structure FirstDescriptor (buffer : Bytes) (position : Nat) : Prop where
  fits : position + 24 ≤ resourceBufferSize
  signed : wordAt 32 position buffer = dataDescriptorMagic
  first : ∀ earlier < position, wordAt 32 earlier buffer ≠ dataDescriptorMagic

/-- The sizes of the first segment, each with the place that gives it. -/
inductive Announces (buffer : Bytes) : U64 → Prop where
  | header (small : (firstHeader buffer).file_size ≠ 0xffffffff) :
      Announces buffer ((firstHeader buffer).file_size.setWidth 64)
  | extra (large : (firstHeader buffer).file_size = 0xffffffff) {size : U64}
      (announced : ExtraAnnounces buffer size) : Announces buffer size
  | descriptor (large : (firstHeader buffer).file_size = 0xffffffff)
      (silent : ∀ size, ¬ExtraAnnounces buffer size) {position : Nat}
      (first : FirstDescriptor buffer position) : Announces buffer (wordAt 64 (position + 8) buffer)

private theorem scanDescriptor_some_iff {buffer : Bytes} {position : Nat} :
    scanDescriptor buffer = some position ↔ FirstDescriptor buffer position := by
  unfold scanDescriptor
  rw [List.find?_range_eq_some]
  simp only [decide_eq_true_eq, Bool.not_eq_true', decide_eq_false_iff_not]
  constructor
  · rintro ⟨signed, below, first⟩
    exact ⟨by unfold resourceBufferSize at *; have := List.mem_range.mp below; omega, signed, first⟩
  · rintro ⟨fits, signed, first⟩
    exact ⟨signed, List.mem_range.mpr (by unfold resourceBufferSize at *; omega), first⟩

private theorem not_given_iff {size : U64} : ¬Given size ↔ size = 0 ∨ size = -1 := by
  unfold Given
  tauto

private theorem extraSize_slots {buffer : Bytes} (slots : Zip64Slots buffer 1) :
    extraSize (firstHeader buffer) buffer =
      if (firstHeader buffer).compress_size = 0xffffffff ∧ Zip64Slots buffer 2 ∧
          ¬Given (zip64Slot buffer 0) then zip64Slot buffer 1
      else zip64Slot buffer 0 := by
  obtain ⟨extra, kind, long⟩ := slots
  have offset : ZipFileHeader.sizeof + fileDescriptor.length = 51 := by decide
  have hasSize : (ZipExtraFieldHeader.ofBytes (buffer.drop 51)).data_size ≥ 8 := by bv_omega
  unfold extraSize
  rw [offset]
  dsimp only
  rw [if_pos ⟨extra, kind⟩, if_pos hasSize, if_pos hasSize, if_pos hasSize]
  have second : (ZipExtraFieldHeader.ofBytes (buffer.drop 51)).data_size - 8 ≥ 8 ↔
      Zip64Slots buffer 2 := by
    constructor
    · intro more
      exact ⟨extra, kind, by bv_omega⟩
    · rintro ⟨_, _, more⟩
      bv_omega
  congr 1
  rw [second, not_given_iff]
  rfl

private theorem extraSize_none {buffer : Bytes} (absent : ¬Zip64Slots buffer 1) :
    extraSize (firstHeader buffer) buffer = 0 := by
  have offset : ZipFileHeader.sizeof + fileDescriptor.length = 51 := by decide
  unfold extraSize
  rw [offset]
  dsimp only
  split
  · rename_i kind
    have short : ¬(ZipExtraFieldHeader.ofBytes (buffer.drop 51)).data_size ≥ 8 :=
      fun long => absent ⟨kind.1, kind.2, by bv_omega⟩
    rw [if_neg short, if_neg short, if_neg short, if_neg (fun both => short both.2.1)]
  · rfl

private theorem Zip64Slots.of_more {buffer : Bytes} (slots : Zip64Slots buffer 2) :
    Zip64Slots buffer 1 :=
  ⟨slots.1, slots.2.1, by have := slots.2.2; omega⟩

private theorem extraAnnounces_iff {buffer : Bytes} {size : U64} :
    ExtraAnnounces buffer size ↔ Given size ∧ extraSize (firstHeader buffer) buffer = size := by
  constructor
  · rintro (⟨slots, given⟩ | ⟨slots, deferred, large, given⟩)
    · exact ⟨given, by rw [extraSize_slots slots, if_neg fun all => all.2.2 given]⟩
    · exact ⟨given, by rw [extraSize_slots slots.of_more, if_pos ⟨large, slots, deferred⟩]⟩
  · rintro ⟨given, rfl⟩
    by_cases slots : Zip64Slots buffer 1
    · rw [extraSize_slots slots] at given ⊢
      split at given
      · rename_i all
        rw [if_pos all]
        exact .compressed all.2.1 all.2.2 all.1 given
      · rename_i other
        rw [if_neg other]
        exact .file slots given
    · rw [extraSize_none slots] at given
      exact absurd rfl given.1

/-- What the fast path takes for the size is what is announced, where anything is. -/
theorem announces_iff {buffer : Bytes} {size : U64} (given : Given size) :
    Announces buffer size ↔ segmentEntrySize (firstHeader buffer) buffer = size := by
  unfold segmentEntrySize
  dsimp only
  constructor
  · rintro (small | ⟨large, announced⟩ | ⟨large, silent, first⟩)
    · rw [if_neg small]
    · obtain ⟨_, same⟩ := extraAnnounces_iff.mp announced
      rw [if_pos large, same, if_neg fun nothing => not_given_iff.mpr nothing given]
    · have nothing : extraSize (firstHeader buffer) buffer = 0 ∨
          extraSize (firstHeader buffer) buffer = -1 := by
        rw [← not_given_iff]
        exact fun given => silent _ (extraAnnounces_iff.mpr ⟨given, rfl⟩)
      rw [if_pos large, if_pos nothing, scanDescriptor_some_iff.mpr first]
  · intro same
    by_cases large : (firstHeader buffer).file_size = 0xffffffff
    · rw [if_pos large] at same
      by_cases nothing : extraSize (firstHeader buffer) buffer = 0 ∨
          extraSize (firstHeader buffer) buffer = -1
      · rw [if_pos nothing] at same
        cases found : scanDescriptor buffer with
        | none =>
            rw [found] at same
            exact absurd given (not_given_iff.mpr (same ▸ nothing))
        | some position =>
            rw [found] at same
            rw [← same]
            refine .descriptor large (fun other announced => ?_) (scanDescriptor_some_iff.mp found)
            obtain ⟨otherGiven, rfl⟩ := extraAnnounces_iff.mp announced
            exact not_given_iff.mpr nothing otherGiven
      · rw [if_neg nothing] at same
        exact .extra large (extraAnnounces_iff.mpr ⟨given, same⟩)
    · rw [if_neg large] at same
      rw [← same]
      exact .header large

/-! ## The segment -/

/-- The checks before the size. -/
structure HeadsDescription (file : File) : Prop where
  starts : StartsWithHeader file
  method : (firstHeader (firstBytes file)).compression_method = 0
  nameLength : (firstHeader (firstBytes file)).file_name_length = 0x15
  name : slice (firstBytes file) ZipFileHeader.sizeof 21 = fileDescriptor

/-- What is used besides the caller's memory stays in the buffer of 4096 bytes. -/
structure StaysInside (file : File) : Prop where
  records : StartsWithHeader file → ∀ range ∈ inspected (firstBytes file), range.Inside
  segment : StartsWithHeader file → ∀ position size,
    fastSegment (firstBytes file) = some (position, size) →
      position + size.toNat ≤ resourceBufferSize

/-- A size of the segment fits behind the name and the extra field, or the bound rejects it. -/
def SizeFits (header : ZipFileHeader) (size : U64) : Prop :=
  size = 0 ∨ 51 + header.extra_field_len.toNat + size.toNat ≤ resourceBufferSize ∨
    resourceBufferSize - 9 + header.extra_field_len.toNat < size.toNat

private theorem toNat_sizeBound (extra : U16) :
    (BitVec.ofNat 64 resourceBufferSize - (BitVec.ofNat 64 ZipFileHeader.sizeof -
      BitVec.setWidth 64 (0x15 : U16) - extra.setWidth 64)).toNat =
        resourceBufferSize - 9 + extra.toNat := by
  have wide := wide16 extra
  have small := extra.isLt
  unfold resourceBufferSize ZipFileHeader.sizeof
  bv_omega

private theorem fastSegment_iff {file : File} (heads : HeadsDescription file) {position : Nat}
    {size : U64} :
    fastSegment (firstBytes file) = some (position, size) ↔
      segmentEntrySize (firstHeader (firstBytes file)) (firstBytes file) = size ∧ size ≠ 0 ∧
        size.toNat ≤ resourceBufferSize - 9 +
          (firstHeader (firstBytes file)).extra_field_len.toNat ∧
        position = 51 + (firstHeader (firstBytes file)).extra_field_len.toNat := by
  have bound := toNat_sizeBound (firstHeader (firstBytes file)).extra_field_len
  unfold fastSegment
  dsimp only
  rw [if_neg (not_not_intro heads.method), if_neg (not_not_intro heads.nameLength),
    if_neg (not_not_intro heads.name), heads.nameLength]
  split
  · rename_i rejected
    constructor
    · intro taken
      cases taken
    · rintro ⟨rfl, nonempty, small, _⟩
      rcases rejected with nothing | large
      · exact absurd nothing nonempty
      · exact absurd (BitVec.lt_def.mp large) (by omega)
  · rename_i accepted
    rw [not_or, gt_iff_lt, BitVec.lt_def, bound] at accepted
    rw [Option.some.injEq, Prod.mk.injEq]
    constructor
    · rintro ⟨rfl, rfl⟩
      exact ⟨rfl, accepted.1, Nat.le_of_not_lt accepted.2, rfl⟩
    · rintro ⟨same, _, _, rfl⟩
      exact ⟨rfl, same⟩

private theorem heads_of_fastSegment {file : File} (starts : StartsWithHeader file) {position : Nat}
    {size : U64} (taken : fastSegment (firstBytes file) = some (position, size)) :
    HeadsDescription file := by
  obtain ⟨method, nameLength, name, _⟩ := fastSegment_some taken
  exact ⟨starts, method, nameLength, name⟩

private theorem segment_inside_iff (file : File) :
    (StartsWithHeader file → ∀ position size,
      fastSegment (firstBytes file) = some (position, size) →
        position + size.toNat ≤ resourceBufferSize) ↔
      (HeadsDescription file → ∀ size, Announces (firstBytes file) size →
        SizeFits (firstHeader (firstBytes file)) size) := by
  constructor
  · intro inside heads size announced
    unfold SizeFits
    by_cases nothing : size = 0
    · exact .inl nothing
    by_cases large : resourceBufferSize - 9 +
        (firstHeader (firstBytes file)).extra_field_len.toNat < size.toNat
    · exact .inr (.inr large)
    · have extraSmall := (firstHeader (firstBytes file)).extra_field_len.isLt
      have given : Given size := ⟨nothing, fun top => large (by
        rw [top]
        unfold resourceBufferSize
        bv_omega)⟩
      have taken := (fastSegment_iff heads).mpr
        ⟨(announces_iff given).mp announced, nothing, Nat.le_of_not_lt large, rfl⟩
      exact .inr (.inl (inside heads.starts _ _ taken))
  · intro fits starts position size taken
    have heads := heads_of_fastSegment starts taken
    obtain ⟨same, nonempty, small, rfl⟩ := (fastSegment_iff heads).mp taken
    have extraSmall := (firstHeader (firstBytes file)).extra_field_len.isLt
    have given : Given size := ⟨nonempty, fun top => by
      rw [top] at small
      unfold resourceBufferSize at small
      bv_omega⟩
    rcases fits heads size ((announces_iff given).mpr same) with nothing | inside | large
    · exact absurd nothing nonempty
    · exact inside
    · omega

/-- The fast path stays in its buffer exactly if no size that the first segment announces passes
the bound without fitting. -/
theorem staysInside_iff (file : File) :
    StaysInside file ↔
      (HeadsDescription file → ∀ size, Announces (firstBytes file) size →
        SizeFits (firstHeader (firstBytes file)) size) := by
  rw [← segment_inside_iff]
  exact ⟨StaysInside.segment, fun segment => ⟨fun _ => inspected_inside _, segment⟩⟩

/-- Staying in the buffer is what makes the result a function of the file. -/
theorem staysInside_iff_independent (file : File) :
    StaysInside file ↔ ∀ memory other, fastPath file memory = fastPath file other := by
  constructor
  · intro inside memory other
    by_cases starts : StartsWithHeader file
    · rw [fastPath_segment memory starts, fastPath_segment other starts]
      cases taken : fastSegment (firstBytes file) with
      | none => rfl
      | some segment =>
          obtain ⟨position, size⟩ := segment
          have fits := inside.segment starts position size taken
          have full : (firstBytes file).length = resourceBufferSize := by
            rw [length_firstBytes, Nat.min_eq_left starts.1]
          unfold takeSegment firstCells
          dsimp only
          rw [map_store memory (full ▸ fits), map_store other (full ▸ fits)]
    · rw [fastPath_early memory starts, fastPath_early other starts]
  · intro independent
    refine ⟨fun _ => inspected_inside _, fun starts position size taken => ?_⟩
    obtain ⟨_, nonempty, _⟩ := (fastSegment_iff (heads_of_fastSegment starts taken)).mp taken
    have positive : 0 < size.toNat := by bv_omega
    have full : (firstBytes file).length = resourceBufferSize := by
      rw [length_firstBytes, Nat.min_eq_left starts.1]
    have cells := fun memory => independent memory fun _ => 0
    simp only [fastPath_segment _ starts, taken, takeSegment, FastPath.returned.injEq] at cells
    rw [← full]
    exact ((firstCells_store_iff (show (0 : UInt8) ≠ 1 by decide) positive).mp cells).1

/-! ## A size that passes the bound -/

/-- A header without an extra field that announces 4087 bytes behind the first 51. -/
def overrunHeader : ZipFileHeader :=
  { descriptionEntry.fileHeader with compress_size := 4087, file_size := 4087 }

def overrunFile : File where
  content := overrunHeader.toBytes ++ (fileDescriptor ++ List.replicate 4045 0)
  small := by decide +kernel

private theorem firstHeader_overrunFile : firstHeader (firstBytes overrunFile) = overrunHeader := by
  rw [firstHeader_firstBytes]
  exact ZipFileHeader.ofBytes_append _ _

private theorem overrunFile_heads : HeadsDescription overrunFile where
  starts := ⟨by decide +kernel, by decide +kernel⟩
  method := by
    rw [firstHeader_overrunFile]
    decide
  nameLength := by
    rw [firstHeader_overrunFile]
    decide
  name := by decide +kernel

theorem overrunFile_leaves : ¬∀ file, StaysInside file := by
  intro every
  have announced : Announces (firstBytes overrunFile) 4087 := by
    have header := Announces.header (show (firstHeader (firstBytes overrunFile)).file_size ≠ _ by
      rw [firstHeader_overrunFile]
      decide)
    rw [firstHeader_overrunFile] at header
    exact header
  have fits := (segment_inside_iff overrunFile).mp (every overrunFile).segment overrunFile_heads
    4087 announced
  rw [firstHeader_overrunFile] at fits
  rcases fits with nothing | inside | large
  · exact absurd nothing (by decide)
  · exact absurd inside (by decide)
  · exact absurd large (by decide)

end Aff4Lite.Containers
