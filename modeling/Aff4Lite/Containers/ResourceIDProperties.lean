import Aff4Lite.Containers.ResourceID
import Aff4Lite.Zip.Archive

/-!
When the fast path of `getResourceID` agrees with the slow path. It decides too early on
files that are short or do not start with a local header, and it believes the sizes of the
first local header, of its extra field or of the first data descriptor in the buffer.
-/

set_option autoImplicit false

namespace Aff4Lite.Containers

open Lib Zip

/-- A well-formed archive, with what `parseCD` decodes. Every segment has its own name, the
name and method of its local header and its data in the file; a local header at the start
of the file is that of a segment; and the description of the container is not empty. -/
structure WellFormed (file : File) (heap : Nat → Nat → UInt8) (parsed : Parsed) : Prop where
  decoded : ParsesTo file heap (.returned parsed)
  complete : parsed.errno = .zero
  entries : parsed.entries ≠ []
  names : parsed.entries.Pairwise fun first second => first.segmentName ≠ second.segmentName
  headers : ∀ entry ∈ parsed.entries, ∀ header,
    readZipFileHeader file entry.headerOffset = some header →
      header.compression_method = entry.compressionMethod ∧
      slice file.content (entry.headerOffset.toNat + ZipFileHeader.sizeof)
        header.file_name_length.toNat = entry.segmentName
  first : ∀ header, readZipFileHeader file 0 = some header →
    ∃ entry ∈ parsed.entries, entry.headerOffset = 0
  data : ∀ entry ∈ parsed.entries,
    entry.offset.toNat + entry.compressedLength.toNat ≤ file.content.length
  storedLength : ∀ entry ∈ parsed.entries, entry.compressionMethod = stored →
    entry.compressedLength = entry.length
  description : ∀ entry ∈ parsed.entries, entry.segmentName = fileDescriptor → entry.length ≠ 0

/-- The file is as long as the buffer and starts with the signature of a local header. -/
def StartsWithHeader (file : File) : Prop :=
  resourceBufferSize ≤ file.content.length ∧
    wordAt 32 0 file.content = ZipFileHeader.defaultMagic

section Agreement

variable (inflate : Bytes → Nat → Option Bytes) (file : File) (decompbuffer : Nat → UInt8)
  (heap : Nat → Nat → UInt8)

/-- Whatever memory holds behind the buffer, `getResourceID` returns what the slow path
returns. -/
def AgreesWithSlowPath : Prop :=
  ∀ memory, ∃ fuel resource, slowPath inflate file decompbuffer heap fuel =
    some (.returned resource) ∧
    getResourceID inflate file decompbuffer memory heap fuel = some (.returned resource)

end Agreement

section Paths

variable {inflate : Bytes → Nat → Option Bytes} {file : File} {decompbuffer : Nat → UInt8}
  {heap : Nat → Nat → UInt8} {parsed : Parsed}

private theorem slowPath_returns (inflate : Bytes → Nat → Option Bytes) (decompbuffer : Nat → UInt8)
    (decoded : ParsesTo file heap (.returned parsed)) :
    ∃ fuel, slowPath inflate file decompbuffer heap fuel =
      some (.returned (slowResource inflate file decompbuffer parsed)) := by
  obtain ⟨fuel, ran⟩ := decoded
  exact ⟨fuel, by rw [slowPath, ran]; rfl⟩

theorem slowPath_unique (decoded : ParsesTo file heap (.returned parsed)) {fuel : Nat}
    {resource : Bytes}
    (returned : slowPath inflate file decompbuffer heap fuel = some (.returned resource)) :
    resource = slowResource inflate file decompbuffer parsed := by
  obtain ⟨outcome, ran, ended⟩ := Option.map_eq_some_iff.mp returned
  cases decoded.unique ⟨fuel, ran⟩
  cases ended
  rfl

private theorem agrees_iff (decoded : ParsesTo file heap (.returned parsed)) :
    AgreesWithSlowPath inflate file decompbuffer heap ↔ ∀ memory,
      fastPath file memory = .slowPath ∨
        fastPath file memory = .returned (slowResource inflate file decompbuffer parsed) := by
  constructor
  · intro agrees memory
    obtain ⟨fuel, resource, slow, fast⟩ := agrees memory
    have same := slowPath_unique decoded slow
    unfold getResourceID at fast
    cases path : fastPath file memory with
    | slowPath => exact .inl rfl
    | returned value =>
        rw [path] at fast
        cases fast
        exact .inr (congrArg _ same)
  · intro paths memory
    obtain ⟨fuel, slow⟩ := slowPath_returns inflate decompbuffer decoded
    refine ⟨fuel, _, slow, ?_⟩
    unfold getResourceID
    rcases paths memory with path | path
    · rw [path]
      exact slow
    · rw [path]

/-! ## The first segment -/

theorem length_firstBytes (file : File) :
    (firstBytes file).length = min resourceBufferSize file.content.length := by
  rw [firstBytes, length_slice, Nat.sub_zero]

theorem firstHeader_firstBytes (file : File) :
    firstHeader (firstBytes file) = ZipFileHeader.ofBytes file.content := by
  unfold firstHeader ZipFileHeader.ofBytes
  congr 1 <;> exact wordAt_slice (by decide)

private theorem readZipFileHeader_first (starts : StartsWithHeader file) :
    readZipFileHeader file 0 = some (firstHeader (firstBytes file)) := by
  obtain ⟨long, magic⟩ := starts
  have record : readRecord file ZipFileHeader.sizeof 0 =
      some (slice file.content 0 ZipFileHeader.sizeof) :=
    (readRecord_some (by decide)).mpr ⟨rfl, length_slice_of_le (by
      unfold resourceBufferSize at long
      unfold ZipFileHeader.sizeof
      omega)⟩
  have same : ZipFileHeader.ofBytes (slice file.content 0 ZipFileHeader.sizeof) =
      firstHeader (firstBytes file) := by
    rw [firstHeader_firstBytes]
    unfold ZipFileHeader.ofBytes
    congr 1 <;> exact wordAt_slice (by decide)
  have signed : (firstHeader (firstBytes file)).magic = ZipFileHeader.defaultMagic := by
    rw [firstHeader_firstBytes]
    exact magic
  rw [readZipFileHeader, record]
  dsimp only [Option.bind_eq_bind, Option.bind_some]
  rw [same, if_pos signed]

theorem fastPath_early (memory : Nat → UInt8) (without : ¬StartsWithHeader file) :
    fastPath file memory = .returned [] := by
  have length := length_firstBytes file
  unfold fastPath
  by_cases long : resourceBufferSize ≤ file.content.length
  · have full : (firstBytes file).length = resourceBufferSize := by omega
    have unsigned : (firstHeader (firstBytes file)).magic ≠ ZipFileHeader.defaultMagic := by
      rw [firstHeader_firstBytes]
      exact fun magic => without ⟨long, magic⟩
    dsimp only
    rw [if_neg (not_not_intro full)]
    exact if_pos unsigned
  · have short : (firstBytes file).length ≠ resourceBufferSize := by omega
    exact if_pos short

theorem fastPath_segment (memory : Nat → UInt8) (starts : StartsWithHeader file) :
    fastPath file memory =
      takeSegment (firstBytes file) memory (fastSegment (firstBytes file)) := by
  obtain ⟨long, magic⟩ := starts
  have length := length_firstBytes file
  have full : (firstBytes file).length = resourceBufferSize := by omega
  have signed : (firstHeader (firstBytes file)).magic = ZipFileHeader.defaultMagic := by
    rw [firstHeader_firstBytes]
    exact magic
  unfold fastPath
  dsimp only
  rw [if_neg (not_not_intro full), if_neg (not_not_intro signed)]

theorem fastSegment_some {buffer : Bytes} {position : Nat} {size : U64}
    (taken : fastSegment buffer = some (position, size)) :
    (firstHeader buffer).compression_method = 0 ∧ (firstHeader buffer).file_name_length = 0x15 ∧
      slice buffer ZipFileHeader.sizeof 21 = fileDescriptor ∧
      position = ZipFileHeader.sizeof + (firstHeader buffer).file_name_length.toNat +
        (firstHeader buffer).extra_field_len.toNat ∧
      size ≠ 0 ∧ size.toNat < 2 ^ 17 := by
  unfold fastSegment at taken
  dsimp only at taken
  split at taken
  · cases taken
  rename_i method
  split at taken
  · cases taken
  rename_i nameLength
  split at taken
  · cases taken
  rename_i name
  split at taken
  · cases taken
  rename_i bounded
  cases taken
  rw [not_or] at bounded
  obtain ⟨nonempty, small⟩ := bounded
  have extraWide := wide16 (firstHeader buffer).extra_field_len
  have extraSmall := (firstHeader buffer).extra_field_len.isLt
  have method := not_not.mp method
  have nameLength := not_not.mp nameLength
  refine ⟨method, nameLength, not_not.mp name, rfl, nonempty, ?_⟩
  rw [nameLength] at small
  unfold resourceBufferSize ZipFileHeader.sizeof at small
  bv_omega

private theorem getStream_of_unique {entries : List ZipEntry} {entry : ZipEntry}
    (member : entry ∈ entries)
    (names : entries.Pairwise fun first second => first.segmentName ≠ second.segmentName) :
    getStream entries entry.segmentName = some entry := by
  induction entries with
  | nil => cases member
  | cons head tail ih =>
      obtain ⟨different, rest⟩ := List.pairwise_cons.mp names
      unfold getStream at *
      rcases List.mem_cons.mp member with rfl | later
      · rw [List.find?_cons_of_pos (by simp)]
      · have other := different entry later
        rw [List.find?_cons_of_neg (by simpa using other)]
        exact ih later rest

private theorem first_segment (wellFormed : WellFormed file heap parsed)
    (starts : StartsWithHeader file)
    {position : Nat} {size : U64} (taken : fastSegment (firstBytes file) = some (position, size)) :
    ∃ entry, getStream parsed.entries fileDescriptor = some entry ∧
      entry.compressionMethod = stored ∧ entry.offset.toNat = position ∧ entry.length ≠ 0 ∧
      position + entry.length.toNat ≤ file.content.length := by
  obtain ⟨method, nameLength, name, place, _, _⟩ := fastSegment_some taken
  have found := readZipFileHeader_first starts
  obtain ⟨entry, member, start⟩ := wellFormed.first _ found
  rw [← start] at found
  obtain ⟨sameMethod, sameName⟩ := wellFormed.headers entry member _ found
  have description : entry.segmentName = fileDescriptor := by
    rw [← sameName, start, nameLength, ← name]
    unfold firstBytes
    exact (slice_slice _ _ _ _ _ (by decide)).symm
  have isStored : entry.compressionMethod = stored := sameMethod.symm.trans method
  obtain ⟨own, ownFound, offset⟩ := wellFormed.decoded.ownHeader entry member
  cases ownFound.symm.trans found
  have offsetPlace := toNat_dataOffset found
  rw [← offset, start] at offsetPlace
  have data := wellFormed.data entry member
  rw [wellFormed.storedLength entry member isStored] at data
  have here : entry.offset.toNat = position := by
    have zero : (0 : U64).toNat = 0 := rfl
    rw [offsetPlace, place, zero, Nat.zero_add]
  refine ⟨entry, ?_, isStored, here, wellFormed.description entry member description, here ▸ data⟩
  rw [← description]
  exact getStream_of_unique member wellFormed.names

private theorem slowResource_stored {entry : ZipEntry} (filled : parsed.entries ≠ [])
    (found : getStream parsed.entries fileDescriptor = some entry)
    (method : entry.compressionMethod = stored) (nonempty : entry.length ≠ 0)
    (inside : entry.offset.toNat + entry.length.toNat ≤ file.content.length) :
    slowResource inflate file decompbuffer parsed =
      slice file.content entry.offset.toNat (min entry.length.toNat maxTransfer) := by
  have small := file.small
  have read := fileRead_slice file (show entry.length.toNat < 2 ^ 63 by omega) entry.offset
  have length : (slice file.content entry.offset.toNat
      (min entry.length.toNat maxTransfer)).length = min entry.length.toNat maxTransfer :=
    length_slice_of_le (by omega)
  have positive : 0 < min entry.length.toNat maxTransfer := by
    unfold maxTransfer
    bv_omega
  unfold slowResource
  rw [if_neg filled, found]
  dsimp only
  rw [readSegment_stored inflate file method, read, Stream.ReadResult.res_delivered,
    Stream.ReadResult.bytes_delivered, length, if_pos (by exact_mod_cast positive)]

def NoResource (inflate : Bytes → Nat → Option Bytes) (file : File) (decompbuffer : Nat → UInt8)
    (parsed : Parsed) : Prop :=
  parsed.comment = [] ∧ ∀ entry, getStream parsed.entries fileDescriptor = some entry →
    (readSegment inflate file entry decompbuffer entry.length 0).res ≤ 0

private theorem slowResource_nil_iff (nonempty : parsed.entries ≠ []) :
    slowResource inflate file decompbuffer parsed = [] ↔
      NoResource inflate file decompbuffer parsed := by
  unfold slowResource NoResource
  rw [if_neg nonempty]
  cases found : getStream parsed.entries fileDescriptor with
  | none => simp
  | some entry =>
      dsimp only
      by_cases readable : (readSegment inflate file entry decompbuffer entry.length 0).res > 0
      · rw [if_pos readable]
        constructor
        · intro empty
          cases result : readSegment inflate file entry decompbuffer entry.length 0 with
          | failed =>
              rw [result] at readable
              cases readable
          | delivered bytes =>
              rw [result] at readable empty
              rw [Stream.ReadResult.bytes_delivered] at empty
              rw [empty] at readable
              cases readable
        · rintro ⟨_, unreadable⟩
          exact absurd readable (not_lt.mpr (unreadable entry rfl))
      · rw [if_neg readable]
        constructor
        · intro comment
          refine ⟨comment, ?_⟩
          rintro other same
          cases same
          exact not_lt.mp readable
        · exact fun nothing => nothing.1

/-- The size that the fast path takes for a first segment is the length of the description
in the directory, and its data end inside the buffer. -/
def TakesWhole (file : File) (parsed : Parsed) : Prop :=
  ∀ position size, fastSegment (firstBytes file) = some (position, size) →
    position + size.toNat ≤ resourceBufferSize ∧
      ∃ entry, getStream parsed.entries fileDescriptor = some entry ∧ entry.length = size

private theorem agrees_segment_iff (wellFormed : WellFormed file heap parsed)
    (starts : StartsWithHeader file) :
    (∀ memory, fastPath file memory = .slowPath ∨
      fastPath file memory = .returned (slowResource inflate file decompbuffer parsed)) ↔
      TakesWhole file parsed := by
  have full : (firstBytes file).length = resourceBufferSize := by
    rw [length_firstBytes, Nat.min_eq_left starts.1]
  unfold TakesWhole
  cases taken : fastSegment (firstBytes file) with
  | none =>
      constructor
      · rintro _ position size ⟨⟩
      · intro _ memory
        rw [fastPath_segment memory starts, taken]
        exact .inl rfl
  | some segment =>
      obtain ⟨position, size⟩ := segment
      obtain ⟨_, _, _, _, filled, small⟩ := fastSegment_some taken
      obtain ⟨entry, found, method, offset, nonempty, inside⟩ :=
        first_segment wellFormed starts taken
      have slow : slowResource inflate file decompbuffer parsed =
          slice file.content position (min entry.length.toNat maxTransfer) := by
        rw [slowResource_stored wellFormed.entries found method nonempty (offset ▸ inside), offset]
      have positive : 0 < size.toNat := by bv_omega
      have cells : (∀ memory, firstCells
          (fun index => store memory 0 (firstBytes file) (position + index)) size.toNat =
            slice file.content position (min entry.length.toNat maxTransfer)) ↔
          position + size.toNat ≤ (firstBytes file).length ∧
            slice (firstBytes file) position size.toNat =
              slice file.content position (min entry.length.toNat maxTransfer) :=
        firstCells_store_iff (show (0 : UInt8) ≠ 1 by decide) positive
      rw [full] at cells
      have paths : ∀ memory, (fastPath file memory = .slowPath ∨
          fastPath file memory = .returned (slowResource inflate file decompbuffer parsed)) ↔
          firstCells (fun index => store memory 0 (firstBytes file) (position + index))
            size.toNat = slice file.content position (min entry.length.toNat maxTransfer) := by
        intro memory
        rw [fastPath_segment memory starts, taken, takeSegment, slow]
        simp
      rw [forall_congr' paths, cells]
      constructor
      · rintro ⟨bounded, same⟩ _ _ ⟨⟩
        have lengths := congrArg List.length same
        rw [length_slice_of_le (by rw [full]; exact bounded),
          length_slice_of_le (by omega)] at lengths
        refine ⟨bounded, entry, found, ?_⟩
        unfold maxTransfer at lengths
        bv_omega
      · intro whole
        obtain ⟨bounded, other, otherFound, length⟩ := whole position size rfl
        cases otherFound.symm.trans found
        refine ⟨bounded, ?_⟩
        have short : min entry.length.toNat maxTransfer = size.toNat := by
          rw [length]
          unfold maxTransfer
          omega
        rw [short]
        unfold firstBytes
        rw [slice_slice _ _ _ _ _ bounded, Nat.zero_add]

/-- The exact condition for a well-formed archive: when it starts with a local header and
fills the buffer, a first segment that the fast path takes is taken as it is; otherwise
there is nothing to return. -/
theorem getResourceID_agrees_iff (wellFormed : WellFormed file heap parsed) :
    AgreesWithSlowPath inflate file decompbuffer heap ↔
      (StartsWithHeader file → TakesWhole file parsed) ∧
        (¬StartsWithHeader file → NoResource inflate file decompbuffer parsed) := by
  rw [agrees_iff wellFormed.decoded]
  by_cases starts : StartsWithHeader file
  · rw [agrees_segment_iff wellFormed starts]
    exact ⟨fun whole => ⟨fun _ => whole, fun without => absurd starts without⟩,
      fun both => both.1 starts⟩
  · rw [← slowResource_nil_iff wellFormed.entries]
    constructor
    · intro paths
      refine ⟨fun start => absurd start starts, fun _ => ?_⟩
      have path := paths fun _ => 0
      rw [fastPath_early _ starts] at path
      rcases path with path | path
      · cases path
      · injection path with empty
        exact empty.symm
    · rintro ⟨_, nothing⟩ memory
      rw [fastPath_early memory starts, nothing starts]
      exact .inr rfl

end Paths

/-! ## An archive below 4 KiB -/

/-- The stored segment `container.description` of 8 bytes. -/
def descriptionEntry : DirectoryEntry where
  header := { segmentA.header with compress_size := 8, file_size := 8, file_name_length := 21 }
  name := fileDescriptor
  extra := []
  comment := []
  fileHeader := { segmentA.fileHeader with
    compress_size := 8, file_size := 8, file_name_length := 21, extra_field_len := 0 }
  magic := rfl
  nameLength := by decide
  extraLength := rfl
  commentLength := rfl
  fileMagic := rfl

def smallFile : File where
  content := descriptionEntry.fileHeader.toBytes ++ fileDescriptor ++ Stream.text "aff4://x" ++
    descriptionEntry.bytes ++
    { endA with
      size_of_cd := 67, offset_of_cd := 59, comment_len := 0 : EndCentralDirectory }.toBytes
  small := by decide +kernel

def smallParsed : Parsed := ⟨[⟨fileDescriptor, 0, 51, 8, 8, 0⟩], [], .zero⟩

private theorem smallFile_wellFormed : WellFormed smallFile (fun _ _ => 0) smallParsed where
  decoded := ⟨3, by decide +kernel⟩
  complete := rfl
  entries := by decide
  names := List.pairwise_singleton _ _
  headers := by
    intro entry member header found
    obtain rfl := List.mem_singleton.mp member
    have read : readZipFileHeader smallFile 0 = some descriptionEntry.fileHeader := by
      decide +kernel
    cases found.symm.trans read
    decide +kernel
  first := fun _ _ => ⟨_, List.mem_singleton.mpr rfl, rfl⟩
  data := by
    intro entry member
    obtain rfl := List.mem_singleton.mp member
    decide +kernel
  storedLength := by
    intro entry member _
    obtain rfl := List.mem_singleton.mp member
    rfl
  description := by
    intro entry member _
    obtain rfl := List.mem_singleton.mp member
    decide

/-- The fast path returns the empty string, although the archive has a description. -/
theorem smallFile_empty_resource :
    WellFormed smallFile (fun _ _ => 0) smallParsed ∧
    slowPath (fun _ _ => none) smallFile (fun _ => 0) (fun _ _ => 0) 3 =
      some (.returned (Stream.text "aff4://x")) ∧
    (∀ memory fuel, getResourceID (fun _ _ => none) smallFile (fun _ => 0) memory
      (fun _ _ => 0) fuel = some (.returned [])) ∧
    ¬AgreesWithSlowPath (fun _ _ => none) smallFile (fun _ => 0) (fun _ _ => 0) := by
  have slow : slowPath (fun _ _ => none) smallFile (fun _ => 0) (fun _ _ => 0) 3 =
      some (.returned (Stream.text "aff4://x")) := by
    decide +kernel
  have fast : ∀ memory fuel, getResourceID (fun _ _ => none) smallFile (fun _ => 0) memory
      (fun _ _ => 0) fuel = some (.returned []) := by
    intro memory fuel
    have short : ¬StartsWithHeader smallFile := fun starts => absurd starts.1 (by decide +kernel)
    unfold getResourceID
    rw [fastPath_early memory short]
  refine ⟨smallFile_wellFormed, slow, fast, ?_⟩
  intro agrees
  obtain ⟨fuel, resource, slowRan, fastRan⟩ := agrees fun _ => 0
  rw [fast] at fastRan
  cases fastRan
  have same := slowPath_unique smallFile_wellFormed.decoded slow
  rw [← slowPath_unique smallFile_wellFormed.decoded slowRan] at same
  exact absurd same (by decide)

theorem smallFile_agrees_iff :
    AgreesWithSlowPath (fun _ _ => none) smallFile (fun _ => 0) (fun _ _ => 0) ↔
      (StartsWithHeader smallFile → TakesWhole smallFile smallParsed) ∧
        (¬StartsWithHeader smallFile →
          NoResource (fun _ _ => none) smallFile (fun _ => 0) smallParsed) :=
  getResourceID_agrees_iff smallFile_wellFormed

end Aff4Lite.Containers
