import Aff4Lite.Zip.Zip

/-!
What `fileRead` gives for the small counts of `parseCD`, how the records are read back,
and which position the scan for the end record finds.
-/

set_option autoImplicit false

namespace Aff4Lite.Zip

open Lib

theorem File.toNat_length (file : File) : file.length.toNat = file.content.length := by
  have small := file.small
  rw [File.length, BitVec.toNat_ofNat, Nat.mod_eq_of_lt (by omega)]

theorem wide16 (length : U16) : (length.setWidth 64).toNat = length.toNat :=
  toNat_widen length (by decide)

theorem File.length_pread64_le (file : File) (count offset : U64) :
    (file.pread64 count offset).bytes.length ≤ min count.toNat maxTransfer := by
  unfold pread64
  split
  · rw [Stream.ReadResult.bytes_delivered, length_slice]
    exact min_le_left _ _
  · exact Nat.zero_le _

/-- A read is cut off by the end of the file and by what one transfer moves. -/
theorem fileRead_slice (file : File) {count : U64} (representable : count.toNat < 2 ^ 63)
    (offset : U64) :
    fileRead file count offset =
      .delivered (slice file.content offset.toNat (min count.toNat maxTransfer)) := by
  have whole := file.toNat_length
  have small := file.small
  unfold fileRead
  by_cases nothing : count = 0
  · rw [if_pos nothing, nothing]
    exact congrArg _ (slice_zero _ _).symm
  · rw [if_neg nothing]
    by_cases beyond : offset > file.length
    · rw [if_pos beyond]
      exact congrArg _ (slice_of_length_le (by bv_omega) _).symm
    · have left : (Stream.truncateCount file.length offset count).toNat =
          min count.toNat (file.content.length - offset.toNat) := by
        rw [Stream.toNat_truncateCount (by bv_omega) (by bv_omega), whole]
      rw [if_neg beyond, File.pread64, if_pos (by omega), left, min_right_comm, slice_truncate]

theorem fileRead_eq_slice (file : File) {count : U64} (short : count.toNat ≤ maxTransfer)
    (offset : U64) :
    fileRead file count offset = .delivered (slice file.content offset.toNat count.toNat) := by
  have representable : count.toNat < 2 ^ 63 := lt_of_le_of_lt short (by decide)
  rw [fileRead_slice file representable, min_eq_left short]

theorem length_fileRead_le_transfer (file : File) (count offset : U64) :
    (fileRead file count offset).bytes.length ≤ min count.toNat maxTransfer := by
  unfold fileRead
  split
  · exact Nat.zero_le _
  · split
    · exact Nat.zero_le _
    · have fewer : (Stream.truncateCount file.length offset count).toNat ≤ count.toNat :=
        Stream.truncateCount_le (by bv_omega)
      exact (file.length_pread64_le _ offset).trans (min_le_min_right _ fewer)

theorem length_fileRead_le (file : File) (count offset : U64) :
    (fileRead file count offset).bytes.length ≤ count.toNat :=
  (length_fileRead_le_transfer file count offset).trans (min_le_left _ _)

private theorem fileRead_sized (file : File) {size : Nat} (short : size ≤ maxTransfer)
    (offset : U64) :
    fileRead file (BitVec.ofNat 64 size) offset =
      .delivered (slice file.content offset.toNat size) := by
  have exactly : (BitVec.ofNat 64 size).toNat = size := by
    unfold maxTransfer at short
    rw [BitVec.toNat_ofNat, Nat.mod_eq_of_lt (by omega)]
  rw [fileRead_eq_slice file (by rwa [exactly]), exactly]

theorem fileRead_length16 (file : File) (length : U16) (offset : U64) :
    fileRead file (length.setWidth 64) offset =
      .delivered (slice file.content offset.toNat length.toNat) := by
  have wide : (length.setWidth 64).toNat = length.toNat := toNat_widen length (by decide)
  have small := length.isLt
  rw [fileRead_eq_slice file (by rw [wide]; unfold maxTransfer; omega), wide]

theorem readRecord_some {file : File} {size : Nat} (short : size ≤ maxTransfer) {offset : U64}
    {bytes : Bytes} :
    readRecord file size offset = some bytes ↔
      slice file.content offset.toNat size = bytes ∧ bytes.length = size := by
  unfold readRecord
  rw [fileRead_sized file short]
  dsimp only [Stream.ReadResult.bytes]
  constructor
  · intro found
    split at found
    · rename_i full
      cases found
      exact ⟨rfl, full⟩
    · cases found
  · rintro ⟨rfl, full⟩
    exact if_pos full

theorem inside_of_readRecord {file : File} {size : Nat} (short : size ≤ maxTransfer)
    (nonzero : 0 < size) {offset : U64} {bytes : Bytes}
    (found : readRecord file size offset = some bytes) :
    offset.toNat + size ≤ file.content.length := by
  obtain ⟨rfl, full⟩ := (readRecord_some short).mp found
  rw [length_slice] at full
  omega

/-- The Zip64 records before a saturated end record. -/
theorem findDirectory_zip64_iff {file : File} {endCD : EndCentralDirectory} {eocd_offset : U64}
    {directory : Directory} (full : endCD.offset_of_cd = 0xffffffff) :
    findDirectory file endCD eocd_offset = some directory ↔
      ∃ locator end_cd,
        readRecord file Zip64CDLocator.sizeof
          (eocd_offset - BitVec.ofNat 64 Zip64CDLocator.sizeof) = some locator ∧
        ¬((Zip64CDLocator.ofBytes locator).magic ≠ Zip64CDLocator.defaultMagic ∨
          (Zip64CDLocator.ofBytes locator).disk_with_cd ≠ 0 ∨
          (Zip64CDLocator.ofBytes locator).number_of_disks ≠ 1) ∧
        readRecord file Zip64EndCD.sizeof (eocd_offset - BitVec.ofNat 64 Zip64CDLocator.sizeof -
          BitVec.ofNat 64 Zip64EndCD.sizeof) = some end_cd ∧
        (Zip64EndCD.ofBytes end_cd).magic = Zip64EndCD.defaultMagic ∧
        directory = ⟨(Zip64EndCD.ofBytes end_cd).offset_of_cd,
          (Zip64EndCD.ofBytes end_cd).number_of_entries_in_volume,
          eocd_offset - BitVec.ofNat 64 Zip64CDLocator.sizeof -
            BitVec.ofNat 64 Zip64EndCD.sizeof - (Zip64EndCD.ofBytes end_cd).size_of_cd -
            (Zip64EndCD.ofBytes end_cd).offset_of_cd⟩ := by
  unfold findDirectory
  rw [if_neg (not_not_intro full)]
  dsimp only
  constructor
  · intro found
    cases locatorRead : readRecord file Zip64CDLocator.sizeof
        (eocd_offset - BitVec.ofNat 64 Zip64CDLocator.sizeof) with
    | none =>
        rw [locatorRead] at found
        cases found
    | some locator =>
        rw [locatorRead] at found
        dsimp only at found
        split at found
        · cases found
        · rename_i ordered
          cases endRead : readRecord file Zip64EndCD.sizeof
              (eocd_offset - BitVec.ofNat 64 Zip64CDLocator.sizeof -
                BitVec.ofNat 64 Zip64EndCD.sizeof) with
          | none =>
              rw [endRead] at found
              cases found
          | some end_cd =>
              rw [endRead] at found
              dsimp only at found
              split at found
              · cases found
              · rename_i signed
                exact ⟨locator, end_cd, rfl, ordered, rfl, not_not.mp signed,
                  (Option.some.inj found).symm⟩
  · rintro ⟨locator, end_cd, locatorRead, ordered, endRead, signed, rfl⟩
    rw [locatorRead]
    dsimp only
    rw [if_neg ordered, endRead]
    exact if_neg (not_not_intro signed)

theorem readCDFileHeader_of_slice {file : File} {offset : U64} {entry : CDFileHeader}
    (stored : slice file.content offset.toNat CDFileHeader.sizeof = entry.toBytes)
    (magic : entry.magic = CDFileHeader.defaultMagic) :
    readCDFileHeader file offset = some entry := by
  have record : readRecord file CDFileHeader.sizeof offset = some entry.toBytes :=
    (readRecord_some (by decide)).mpr ⟨stored, entry.length_toBytes⟩
  have decoded := CDFileHeader.ofBytes_append entry []
  rw [List.append_nil] at decoded
  simp only [readCDFileHeader, record, Option.bind_eq_bind, Option.bind_some, decoded, magic,
    if_true]

theorem readZipFileHeader_of_slice {file : File} {offset : U64} {fileHeader : ZipFileHeader}
    (stored : slice file.content offset.toNat ZipFileHeader.sizeof = fileHeader.toBytes)
    (magic : fileHeader.magic = ZipFileHeader.defaultMagic) :
    readZipFileHeader file offset = some fileHeader := by
  have record : readRecord file ZipFileHeader.sizeof offset = some fileHeader.toBytes :=
    (readRecord_some (by decide)).mpr ⟨stored, fileHeader.length_toBytes⟩
  have decoded := ZipFileHeader.ofBytes_append fileHeader []
  rw [List.append_nil] at decoded
  simp only [readZipFileHeader, record, Option.bind_eq_bind, Option.bind_some, decoded, magic,
    if_true]

/-! ## The scan -/

theorem File.toNat_tailStart (file : File) :
    (file.length - file.tailCount).toNat = file.content.length - 4096 := by
  have length := file.toNat_length
  unfold File.tailCount bufferSize
  split <;> bv_omega

theorem File.read_tail (file : File) :
    (fileRead file file.tailCount (file.length - file.tailCount)).bytes =
      file.content.drop (file.content.length - 4096) := by
  have length := file.toNat_length
  have start := file.toNat_tailStart
  have count : file.tailCount.toNat = min file.content.length 4096 := by
    unfold File.tailCount bufferSize
    split <;> bv_omega
  have short : file.tailCount.toNat ≤ maxTransfer := by
    unfold maxTransfer
    omega
  rw [fileRead_eq_slice file short, Stream.ReadResult.bytes_delivered, start, count, slice,
    List.take_of_length_le]
  rw [List.length_drop]
  omega

theorem openDirectory_eq (file : File) (heap : Nat → Nat → UInt8) :
    openDirectory file heap =
      scanBuffer file heap (file.content.drop (file.content.length - 4096))
        (BitVec.ofNat 64 (file.content.length - 4096)) := by
  have start : file.length - file.tailCount = BitVec.ofNat 64 (file.content.length - 4096) := by
    rw [← file.toNat_tailStart, BitVec.ofNat_toNat, BitVec.setWidth_eq]
  unfold openDirectory
  dsimp only
  rw [file.read_tail, start]

def EndMagicAt (bytes : Bytes) (position : Nat) : Prop :=
  wordAt 32 position bytes = EndCentralDirectory.defaultMagic

instance (bytes : Bytes) (position : Nat) : Decidable (EndMagicAt bytes position) :=
  inferInstanceAs (Decidable (_ = _))

theorem endMagic_drop (bytes : Bytes) (position : Nat) :
    (EndCentralDirectory.ofBytes (bytes.drop position)).magic = EndCentralDirectory.defaultMagic ↔
      EndMagicAt bytes position := by
  unfold EndMagicAt EndCentralDirectory.ofBytes wordAt
  rw [List.drop_zero]

/-- The scan finds the last signature, position 0 excluded. -/
theorem scanBack_eq_some {buffer : Bytes} {count found : Nat} :
    scanBack buffer count = some found ↔
      0 < found ∧ found ≤ count ∧ EndMagicAt buffer found ∧
        ∀ later, found < later → later ≤ count → ¬EndMagicAt buffer later := by
  induction count with
  | zero =>
      constructor
      · intro nothing
        cases nothing
      · rintro ⟨positive, bounded, _⟩
        omega
  | succ count ih =>
      rw [scanBack]
      by_cases here : EndMagicAt buffer (count + 1)
      · rw [if_pos ((endMagic_drop buffer (count + 1)).mpr here)]
        constructor
        · rintro ⟨rfl⟩
          exact ⟨Nat.succ_pos _, le_rfl, here, fun later after bounded => by omega⟩
        · rintro ⟨_, bounded, _, last⟩
          by_cases same : found = count + 1
          · rw [same]
          · exact absurd here (last (count + 1) (by omega) le_rfl)
      · rw [if_neg (fun magic => here ((endMagic_drop buffer (count + 1)).mp magic)), ih]
        constructor
        · rintro ⟨positive, bounded, magic, last⟩
          refine ⟨positive, by omega, magic, fun later after within => ?_⟩
          by_cases same : later = count + 1
          · exact same ▸ here
          · exact last later after (by omega)
        · rintro ⟨positive, bounded, magic, last⟩
          have different : found ≠ count + 1 := fun same => here (same ▸ magic)
          exact ⟨positive, by omega, magic, fun later after within => last later after (by omega)⟩

/-! ## The values of a Zip64 record -/

/-- The code looks at `dataSize` before each value, but it never decreases. -/
theorem readZip64_wide (file : File) (zipEntry : Zip64Entry) {dataSize : U16} (wide : dataSize ≥ 8)
    (offset : U64) :
    readZip64 file zipEntry dataSize offset =
      let afterSize := if saturated zipEntry.size then offset + 8 else offset
      let afterCsize := if saturated zipEntry.csize then afterSize + 8 else afterSize
      { size := if saturated zipEntry.size then readInto file zipEntry.size offset
          else zipEntry.size
        csize := if saturated zipEntry.csize then readInto file zipEntry.csize afterSize
          else zipEntry.csize
        headerOffset :=
          if saturated zipEntry.headerOffset then readInto file zipEntry.headerOffset afterCsize
          else zipEntry.headerOffset } := by
  simp only [readZip64, wide, and_true]

theorem readZip64_narrow (file : File) (zipEntry : Zip64Entry) {dataSize : U16}
    (narrow : ¬dataSize ≥ 8) (offset : U64) :
    readZip64 file zipEntry dataSize offset = zipEntry := by
  simp only [readZip64, narrow, and_false, if_false]

/-! ## What one turn can do -/

def ParseState.outer : ParseState → DirectoryState
  | directory state => state
  | extra pending _ => pending.outer

namespace ParseContext

variable {context : ParseContext}

def extraHeader (context : ParseContext) (pending : Pending) (hOffset : U16) :
    Option ZipExtraFieldHeader :=
  (readRecord context.file ZipExtraFieldHeader.sizeof
    (context.fieldOffset pending + hOffset.setWidth 64)).map ZipExtraFieldHeader.ofBytes

def extraValues (context : ParseContext) (pending : Pending) (hOffset : U16)
    (extraHeader : ZipExtraFieldHeader) : Zip64Entry :=
  if extraHeader.header_id = 1 then
    readZip64 context.file pending.zipEntry extraHeader.data_size
      (context.fieldOffset pending + hOffset.setWidth 64 +
        BitVec.ofNat 64 ZipExtraFieldHeader.sizeof)
  else pending.zipEntry

theorem extraValues_other {pending : Pending} {hOffset : U16} {extraHeader : ZipExtraFieldHeader}
    (other : extraHeader.header_id ≠ 1) :
    context.extraValues pending hOffset extraHeader = pending.zipEntry :=
  if_neg other

theorem extraValues_zip64 {pending : Pending} {hOffset : U16} {extraHeader : ZipExtraFieldHeader}
    (kind : extraHeader.header_id = 1) :
    context.extraValues pending hOffset extraHeader =
      readZip64 context.file pending.zipEntry extraHeader.data_size
        (context.fieldOffset pending + hOffset.setWidth 64 +
          BitVec.ofNat 64 ZipExtraFieldHeader.sizeof) :=
  if_pos kind

def nextOffset (hOffset : U16) (extraHeader : ZipExtraFieldHeader) : U16 :=
  hOffset + (extraHeader.data_size + BitVec.ofNat 16 ZipExtraFieldHeader.sizeof)

theorem finishEntry_cases (context : ParseContext) (pending : Pending) :
    (readZipFileHeader context.file pending.zipEntry.headerOffset = none ∧
      context.finishEntry pending = context.fail pending.outer.entries) ∨
    ∃ fileHeader, readZipFileHeader context.file pending.zipEntry.headerOffset = some fileHeader ∧
      context.finishEntry pending = .next (.directory (nextState pending fileHeader)) := by
  unfold finishEntry
  cases found : readZipFileHeader context.file pending.zipEntry.headerOffset with
  | none => exact .inl ⟨rfl, rfl⟩
  | some fileHeader => exact .inr ⟨fileHeader, rfl, rfl⟩

theorem directoryTurn_cases (context : ParseContext) (state : DirectoryState) :
    (context.directory.numberOfEntries ≤ state.i ∧
      context.directoryTurn state = .done ⟨state.entries, context.comment, .zero⟩) ∨
    (state.i < context.directory.numberOfEntries ∧
      readCDFileHeader context.file (context.position state) = none ∧
      context.directoryTurn state = context.fail state.entries) ∨
    ∃ entry, state.i < context.directory.numberOfEntries ∧
      readCDFileHeader context.file (context.position state) = some entry ∧
      context.directoryTurn state =
        if saturated (context.pending state entry).zipEntry.headerOffset then
          .next (.extra (context.pending state entry) 0)
        else context.finishEntry (context.pending state entry) := by
  unfold directoryTurn
  by_cases finished : state.i ≥ context.directory.numberOfEntries
  · exact .inl ⟨finished, if_pos finished⟩
  · rw [if_neg finished]
    have more : state.i < context.directory.numberOfEntries := BitVec.not_le.mp finished
    cases found : readCDFileHeader context.file (context.position state) with
    | none => exact .inr (.inl ⟨more, rfl, rfl⟩)
    | some entry => exact .inr (.inr ⟨entry, more, rfl, rfl⟩)

theorem extraTurn_cases (context : ParseContext) (pending : Pending) (hOffset : U16) :
    (pending.entry.extra_field_len ≤ hOffset ∧
      context.extraTurn pending hOffset = context.finishEntry pending) ∨
    (hOffset < pending.entry.extra_field_len ∧ context.extraHeader pending hOffset = none ∧
      context.extraTurn pending hOffset = context.fail pending.outer.entries) ∨
    ∃ extraHeader, hOffset < pending.entry.extra_field_len ∧
      context.extraHeader pending hOffset = some extraHeader ∧
      context.extraTurn pending hOffset =
        .next (.extra
          { pending with zipEntry := context.extraValues pending hOffset extraHeader }
          (nextOffset hOffset extraHeader)) := by
  unfold extraTurn extraHeader
  by_cases more : hOffset < pending.entry.extra_field_len
  · rw [if_pos more]
    dsimp only
    cases readRecord context.file ZipExtraFieldHeader.sizeof
        (context.fieldOffset pending + hOffset.setWidth 64) with
    | none => exact .inr (.inl ⟨more, rfl, rfl⟩)
    | some bytes => exact .inr (.inr ⟨ZipExtraFieldHeader.ofBytes bytes, more, rfl, rfl⟩)
  · exact .inl ⟨BitVec.not_lt.mp more, if_neg more⟩

theorem finishEntry_next {pending : Pending} {after : ParseState}
    (moved : context.finishEntry pending = .next after) :
    ∃ fileHeader, readZipFileHeader context.file pending.zipEntry.headerOffset = some fileHeader ∧
      after = .directory (nextState pending fileHeader) := by
  rcases context.finishEntry_cases pending with ⟨_, failed⟩ | ⟨fileHeader, found, finished⟩
  · rw [failed] at moved
    cases moved
  · rw [finished] at moved
    cases moved
    exact ⟨fileHeader, found, rfl⟩

theorem directoryTurn_next {state : DirectoryState} {after : ParseState}
    (moved : context.directoryTurn state = .next after) :
    ∃ entry, readCDFileHeader context.file (context.position state) = some entry ∧
      (after = .extra (context.pending state entry) 0 ∨
        ∃ fileHeader, readZipFileHeader context.file
            (context.pending state entry).zipEntry.headerOffset = some fileHeader ∧
          after = .directory (nextState (context.pending state entry) fileHeader)) := by
  rcases context.directoryTurn_cases state with
    ⟨_, left⟩ | ⟨_, _, failed⟩ | ⟨entry, _, read, turned⟩
  · rw [left] at moved
    cases moved
  · rw [failed] at moved
    cases moved
  · refine ⟨entry, read, ?_⟩
    rw [turned] at moved
    split at moved
    · cases moved
      exact .inl rfl
    · exact .inr (finishEntry_next moved)

theorem extraTurn_next {pending : Pending} {hOffset : U16} {after : ParseState}
    (moved : context.extraTurn pending hOffset = .next after) :
    (∃ fileHeader, readZipFileHeader context.file pending.zipEntry.headerOffset = some fileHeader ∧
        after = .directory (nextState pending fileHeader)) ∨
      ∃ extraHeader, hOffset < pending.entry.extra_field_len ∧
        context.extraHeader pending hOffset = some extraHeader ∧
        after = .extra { pending with zipEntry := context.extraValues pending hOffset extraHeader }
          (nextOffset hOffset extraHeader) := by
  rcases context.extraTurn_cases pending hOffset with
    ⟨_, turned⟩ | ⟨_, _, failed⟩ | ⟨extraHeader, more, found, turned⟩
  · rw [turned] at moved
    exact .inl (finishEntry_next moved)
  · rw [failed] at moved
    cases moved
  · rw [turned] at moved
    cases moved
    exact .inr ⟨extraHeader, more, found, rfl⟩

theorem finishEntry_done {pending : Pending} {parsed : Parsed}
    (left : context.finishEntry pending = .done parsed) :
    parsed.entries = pending.outer.entries := by
  rcases context.finishEntry_cases pending with ⟨_, failed⟩ | ⟨_, _, finished⟩
  · rw [failed] at left
    cases left
    rfl
  · rw [finished] at left
    cases left

private theorem turn_done {state : ParseState} {parsed : Parsed}
    (left : context.turn state = .done parsed) : parsed.entries = state.outer.entries := by
  cases state with
  | directory head =>
      rcases context.directoryTurn_cases head with
        ⟨_, turned⟩ | ⟨_, _, turned⟩ | ⟨entry, _, _, turned⟩
      · cases turned.symm.trans left
        rfl
      · cases turned.symm.trans left
        rfl
      · have ended := turned.symm.trans left
        split at ended
        · cases ended
        · exact finishEntry_done ended
  | extra pending hOffset =>
      rcases context.extraTurn_cases pending hOffset with
        ⟨_, turned⟩ | ⟨_, _, turned⟩ | ⟨_, _, _, turned⟩
      · exact finishEntry_done (turned.symm.trans left)
      · cases turned.symm.trans left
        rfl
      · cases turned.symm.trans left

end ParseContext

theorem magic_of_readCDFileHeader {file : File} {offset : U64} {entry : CDFileHeader}
    (found : readCDFileHeader file offset = some entry) :
    wordAt 32 offset.toNat file.content = CDFileHeader.defaultMagic := by
  rw [readCDFileHeader, Option.bind_eq_bind, Option.bind_eq_some_iff] at found
  obtain ⟨bytes, record, signed⟩ := found
  obtain ⟨rfl, full⟩ := (readRecord_some (by decide)).mp record
  dsimp only at signed
  split at signed
  · rename_i magic
    rw [← magic]
    unfold CDFileHeader.ofBytes wordAt wordLE slice
    dsimp only
    rw [List.drop_zero, List.take_take]
    rfl
  · cases signed

theorem inside_of_readCDFileHeader {file : File} {offset : U64} {entry : CDFileHeader}
    (found : readCDFileHeader file offset = some entry) :
    offset.toNat + CDFileHeader.sizeof ≤ file.content.length := by
  rw [readCDFileHeader, Option.bind_eq_bind, Option.bind_eq_some_iff] at found
  obtain ⟨bytes, record, _⟩ := found
  exact inside_of_readRecord (by decide) (by decide) record

theorem run_no_header (context : ParseContext)
    (missing : readCDFileHeader context.file
      (context.directory.globalOffset + context.directory.offset) = none) :
    ∃ parsed, (∃ fuel, Loop.run context.turn fuel context.start = some parsed) ∧
      parsed.entries = [] := by
  rcases context.directoryTurn_cases ⟨0, context.directory.offset, []⟩ with
    ⟨_, left⟩ | ⟨_, _, failed⟩ | ⟨entry, _, read, _⟩
  · exact ⟨_, ⟨1, Loop.run_done left 0⟩, rfl⟩
  · exact ⟨_, ⟨1, Loop.run_done failed 0⟩, rfl⟩
  · cases missing.symm.trans read

/-! ## Results -/

theorem parsesTo_of_run {file : File} {heap : Nat → Nat → UInt8} {context : ParseContext}
    (entered : openDirectory file heap = .inr context) {parsed : Parsed}
    (ran : ∃ fuel, Loop.run context.turn fuel context.start = some parsed) :
    ParsesTo file heap (.returned parsed) := by
  obtain ⟨fuel, ran⟩ := ran
  refine ⟨fuel, ?_⟩
  rw [parseCD, entered]
  dsimp only
  rw [ran]
  rfl

theorem openDirectory_returned {file : File} {heap : Nat → Nat → UInt8} {parsed : Parsed}
    (left : openDirectory file heap = .inl (.returned parsed)) :
    parsed.entries = [] ∧ parsed.errno = .eio := by
  unfold openDirectory scanBuffer enterDirectory at left
  dsimp only at left
  repeat' split at left
  all_goals cases left
  all_goals exact ⟨rfl, rfl⟩

theorem openDirectory_file {file : File} {heap : Nat → Nat → UInt8} {context : ParseContext}
    (entered : openDirectory file heap = .inr context) : context.file = file := by
  unfold openDirectory scanBuffer enterDirectory at entered
  dsimp only at entered
  repeat' split at entered
  all_goals cases entered
  rfl

theorem ParsesTo.entered {file : File} {heap : Nat → Nat → UInt8} {parsed : Parsed}
    (parses : ParsesTo file heap (.returned parsed)) (complete : parsed.errno = .zero) :
    ∃ context fuel, openDirectory file heap = .inr context ∧
      Loop.run context.turn fuel context.start = some parsed := by
  obtain ⟨fuel, ran⟩ := parses
  unfold parseCD at ran
  cases entered : openDirectory file heap with
  | inl outcome =>
      rw [entered] at ran
      cases ran
      cases complete.symm.trans (openDirectory_returned entered).2
  | inr context =>
      rw [entered] at ran
      obtain ⟨result, finished, same⟩ := Option.map_eq_some_iff.mp ran
      cases same
      exact ⟨context, fuel, rfl, finished⟩

private theorem inside_of_readZipFileHeader {file : File} {offset : U64}
    {fileHeader : ZipFileHeader}
    (found : readZipFileHeader file offset = some fileHeader) :
    offset.toNat + ZipFileHeader.sizeof ≤ file.content.length := by
  rw [readZipFileHeader, Option.bind_eq_bind, Option.bind_eq_some_iff] at found
  obtain ⟨bytes, record, _⟩ := found
  exact inside_of_readRecord (by decide) (by decide) record

theorem toNat_dataOffset {file : File} {offset : U64} {fileHeader : ZipFileHeader}
    (found : readZipFileHeader file offset = some fileHeader) :
    (offset + (BitVec.ofNat 64 ZipFileHeader.sizeof + fileHeader.file_name_length.setWidth 64 +
      fileHeader.extra_field_len.setWidth 64)).toNat = offset.toNat + ZipFileHeader.sizeof +
        fileHeader.file_name_length.toNat + fileHeader.extra_field_len.toNat := by
  have inside := inside_of_readZipFileHeader found
  have small := file.small
  have nameWide := wide16 fileHeader.file_name_length
  have extraWide := wide16 fileHeader.extra_field_len
  unfold ZipFileHeader.sizeof at *
  bv_omega

/-- The local header that an entry was listed with. -/
def OwnHeader (archive : File) (entry : ZipEntry) : Prop :=
  ∃ fileHeader, readZipFileHeader archive entry.headerOffset = some fileHeader ∧
    entry.offset = entry.headerOffset + (BitVec.ofNat 64 ZipFileHeader.sizeof +
      fileHeader.file_name_length.setWidth 64 + fileHeader.extra_field_len.setWidth 64)

private theorem ownHeader_listed {context : ParseContext} {pending : Pending}
    {fileHeader : ZipFileHeader}
    (found : readZipFileHeader context.file pending.zipEntry.headerOffset = some fileHeader)
    (before : ∀ entry ∈ pending.outer.entries, OwnHeader context.file entry) :
    ∀ entry ∈ (ParseContext.nextState pending fileHeader).entries,
      OwnHeader context.file entry := by
  intro entry member
  rcases List.mem_append.mp member with earlier | last
  · exact before entry earlier
  · obtain rfl := List.mem_singleton.mp last
    exact ⟨fileHeader, found, rfl⟩

private theorem ownHeader_reached {context : ParseContext} {state : ParseState}
    (reached : Loop.Reaches context.turn context.start state) :
    ∀ entry ∈ state.outer.entries, OwnHeader context.file entry := by
  refine reached.invariant
    (fun state => ∀ entry ∈ state.outer.entries, OwnHeader context.file entry)
    (by simp [ParseContext.start, ParseState.outer]) ?_
  rintro (head | ⟨pending, hOffset⟩) after listed moved
  · obtain ⟨entry, _, rfl | ⟨fileHeader, found, rfl⟩⟩ := ParseContext.directoryTurn_next moved
    · exact listed
    · exact ownHeader_listed found listed
  · obtain ⟨fileHeader, found, rfl⟩ | ⟨_, _, _, rfl⟩ := ParseContext.extraTurn_next moved
    · exact ownHeader_listed found listed
    · exact listed

theorem ParsesTo.ownHeader {file : File} {heap : Nat → Nat → UInt8} {parsed : Parsed}
    (parses : ParsesTo file heap (.returned parsed)) :
    ∀ entry ∈ parsed.entries, OwnHeader file entry := by
  obtain ⟨fuel, ran⟩ := parses
  unfold parseCD at ran
  cases entered : openDirectory file heap with
  | inl outcome =>
      rw [entered] at ran
      cases ran
      rw [(openDirectory_returned entered).1]
      simp
  | inr context =>
      rw [entered] at ran
      obtain ⟨result, finished, same⟩ := Option.map_eq_some_iff.mp ran
      cases same
      obtain ⟨last, reached, left⟩ := Loop.run_reaches finished
      rw [ParseContext.turn_done left, ← openDirectory_file entered]
      exact ownHeader_reached reached

theorem ParsesTo.unique {file : File} {heap : Nat → Nat → UInt8} {left right : ParseEnd}
    (first : ParsesTo file heap left) (second : ParsesTo file heap right) : left = right := by
  obtain ⟨fuel, ran⟩ := first
  obtain ⟨more, again⟩ := second
  unfold parseCD at ran again
  cases entered : openDirectory file heap with
  | inl outcome =>
      rw [entered] at ran again
      exact (Option.some.inj ran).symm.trans (Option.some.inj again)
  | inr context =>
      rw [entered] at ran again
      dsimp only at ran again
      obtain ⟨parsed, leftRun, rfl⟩ := Option.map_eq_some_iff.mp ran
      obtain ⟨other, rightRun, rfl⟩ := Option.map_eq_some_iff.mp again
      rw [Loop.run_unique leftRun rightRun]

end Aff4Lite.Zip
