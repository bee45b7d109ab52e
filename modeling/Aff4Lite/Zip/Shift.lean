import Aff4Lite.Zip.Archive

/-!
An archive behind other bytes. The end record, the Zip64 records and the directory are
found at their new positions, because the global offset grows by the bytes in front; the
local headers are still read at the positions that the directory stores.
-/

set_option autoImplicit false

namespace Aff4Lite.Zip

open Lib

/-! ## Reads -/

section Reads

variable {archive appended : File} {front : Bytes}

abbrev shift (front : Bytes) : U64 := BitVec.ofNat 64 front.length

private theorem toNat_add_shift (behind : appended.content = front ++ archive.content)
    {offset : U64}
    (low : offset.toNat ≤ archive.content.length + 64) :
    (offset + shift front).toNat = front.length + offset.toNat := by
  have small := appended.small
  rw [behind, List.length_append] at small
  bv_omega

private theorem fileRead_shift (behind : appended.content = front ++ archive.content)
    {count offset : U64}
    (short : count.toNat ≤ maxTransfer) (low : offset.toNat ≤ archive.content.length + 64) :
    fileRead appended count (offset + shift front) = fileRead archive count offset := by
  rw [fileRead_eq_slice _ short, fileRead_eq_slice _ short, toNat_add_shift behind low, behind,
    slice_append_left]

private theorem readRecord_shift (behind : appended.content = front ++ archive.content) {size : Nat}
    (short : size ≤ maxTransfer) {offset : U64} (low : offset.toNat ≤ archive.content.length + 64) :
    readRecord appended size (offset + shift front) = readRecord archive size offset := by
  have exactly : (BitVec.ofNat 64 size).toNat = size := by
    unfold maxTransfer at short
    rw [BitVec.toNat_ofNat, Nat.mod_eq_of_lt (by omega)]
  rw [readRecord, readRecord, fileRead_shift behind (by rwa [exactly]) low]

private theorem readCDFileHeader_shift (behind : appended.content = front ++ archive.content)
    {offset : U64} {entry : CDFileHeader} (found : readCDFileHeader archive offset = some entry) :
    readCDFileHeader appended (offset + shift front) = some entry := by
  have inside := inside_of_readCDFileHeader found
  have small := archive.small
  rw [readCDFileHeader, readRecord_shift behind (by decide) (by omega)]
  exact found

private theorem length16_short (length : U16) : (length.setWidth 64).toNat ≤ maxTransfer := by
  have small := length.isLt
  rw [wide16]
  unfold maxTransfer
  omega

private theorem readInto_shift (behind : appended.content = front ++ archive.content) (value : U64)
    {offset : U64} (low : offset.toNat ≤ archive.content.length + 64) :
    readInto appended value (offset + shift front) = readInto archive value offset := by
  unfold readInto
  rw [fileRead_shift behind (by decide) low]

private theorem readZip64_shift (behind : appended.content = front ++ archive.content)
    (zipEntry : Zip64Entry) (dataSize : U16) {offset : U64}
    (low : offset.toNat ≤ archive.content.length + 32) :
    readZip64 appended zipEntry dataSize (offset + shift front) =
      readZip64 archive zipEntry dataSize offset := by
  have next : offset + shift front + 8 = offset + 8 + shift front := by bv_omega
  have last : offset + 8 + shift front + 8 = offset + 8 + 8 + shift front := by bv_omega
  have first : ∀ value, readInto appended value (offset + shift front) =
      readInto archive value offset := fun value => readInto_shift behind value (by omega)
  have second : ∀ value, readInto appended value (offset + 8 + shift front) =
      readInto archive value (offset + 8) := fun value => readInto_shift behind value (by bv_omega)
  have third : ∀ value, readInto appended value (offset + 8 + 8 + shift front) =
      readInto archive value (offset + 8 + 8) :=
    fun value => readInto_shift behind value (by bv_omega)
  by_cases wide : dataSize ≥ 8
  · rw [readZip64_wide _ _ wide, readZip64_wide _ _ wide]
    -- Which values are all ones decides where the next one is read.
    cases saturated zipEntry.size <;> cases saturated zipEntry.csize <;>
      simp only [if_true, Bool.false_eq_true, if_false, next, last, first, second, third]
  · rw [readZip64_narrow _ _ wide, readZip64_narrow _ _ wide]

end Reads

/-! ## The end record -/

section EndRecord

variable {archive appended : File} {front : Bytes}

private theorem endMagicAt_append (front bytes : Bytes) (position : Nat) :
    EndMagicAt (front ++ bytes) (front.length + position) ↔ EndMagicAt bytes position := by
  rw [EndMagicAt, EndMagicAt, ← wordAt_drop, List.drop_left]

private theorem scanBack_shift (behind : appended.content = front ++ archive.content) {found : Nat}
    (scanned : scanBack (archive.content.drop (archive.content.length - 4096))
      ((archive.content.drop (archive.content.length - 4096)).length -
        EndCentralDirectory.sizeof) = some found) :
    ∃ position, scanBack (appended.content.drop (appended.content.length - 4096))
        ((appended.content.drop (appended.content.length - 4096)).length -
          EndCentralDirectory.sizeof) = some position ∧
      (appended.content.length - 4096) + position =
        front.length + ((archive.content.length - 4096) + found) := by
  have length : appended.content.length = front.length + archive.content.length := by
    rw [behind, List.length_append]
  rw [scanBack_eq_some, List.length_drop] at scanned
  obtain ⟨positive, bounded, magic, last⟩ := scanned
  unfold EndCentralDirectory.sizeof at *
  have start : ∃ position, (appended.content.length - 4096) + position =
      front.length + ((archive.content.length - 4096) + found) :=
    ⟨front.length + ((archive.content.length - 4096) + found) - (appended.content.length - 4096),
      by omega⟩
  obtain ⟨position, same⟩ := start
  refine ⟨position, ?_, same⟩
  rw [scanBack_eq_some, List.length_drop]
  unfold EndMagicAt at *
  rw [wordAt_drop] at magic ⊢
  refine ⟨by omega, by omega, ?_, ?_⟩
  · rw [same, behind]
    exact (endMagicAt_append front archive.content _).mpr magic
  · intro later after within
    have earlier := last (later - position + found) (by omega) (by omega)
    rw [wordAt_drop] at earlier ⊢
    have place : (appended.content.length - 4096) + later = front.length +
        ((archive.content.length - 4096) + (later - position + found)) := by
      omega
    rw [place, behind]
    exact fun magic => earlier ((endMagicAt_append front archive.content _).mp magic)

private theorem readComment_shift (behind : appended.content = front ++ archive.content)
    (endCD : EndCentralDirectory) {eocd_offset : U64}
    (low : eocd_offset.toNat ≤ archive.content.length) :
    readComment appended endCD (eocd_offset + shift front) =
      readComment archive endCD eocd_offset := by
  have next : eocd_offset + shift front + BitVec.ofNat 64 EndCentralDirectory.sizeof =
      eocd_offset + BitVec.ofNat 64 EndCentralDirectory.sizeof + shift front := by
    bv_omega
  unfold readComment
  rw [next, fileRead_shift behind (length16_short _)
    (by unfold EndCentralDirectory.sizeof; bv_omega)]

private theorem findDirectory_shift (behind : appended.content = front ++ archive.content)
    {endCD : EndCentralDirectory} {eocd_offset : U64} {directory : Directory}
    (found : findDirectory archive endCD eocd_offset = some directory) :
    findDirectory appended endCD (eocd_offset + shift front) =
      some { directory with globalOffset := directory.globalOffset + shift front } := by
  by_cases full : endCD.offset_of_cd = 0xffffffff
  · obtain ⟨locator, end_cd, locatorRead, ordered, endRead, signed, rfl⟩ :=
      (findDirectory_zip64_iff full).mp found
    have locatorPlace : eocd_offset + shift front - BitVec.ofNat 64 Zip64CDLocator.sizeof =
        eocd_offset - BitVec.ofNat 64 Zip64CDLocator.sizeof + shift front := by
      bv_omega
    have endPlace : eocd_offset - BitVec.ofNat 64 Zip64CDLocator.sizeof + shift front -
        BitVec.ofNat 64 Zip64EndCD.sizeof = eocd_offset - BitVec.ofNat 64 Zip64CDLocator.sizeof -
          BitVec.ofNat 64 Zip64EndCD.sizeof + shift front := by
      bv_omega
    have locatorLow := inside_of_readRecord (by decide) (by decide) locatorRead
    have endLow := inside_of_readRecord (by decide) (by decide) endRead
    refine (findDirectory_zip64_iff full).mpr
      ⟨locator, end_cd, ?_, ordered, ?_, signed, ?_⟩
    · rw [locatorPlace, readRecord_shift behind (by decide) (by omega), locatorRead]
    · rw [locatorPlace, endPlace, readRecord_shift behind (by decide) (by omega), endRead]
    · rw [locatorPlace, endPlace]
      congr 1
      bv_omega
  · rw [findDirectory, if_pos full] at found ⊢
    cases found
    congr 2
    bv_omega

/-- The loops are entered with the same directory, further on. -/
def ParseContext.behind (context : ParseContext) (appended : File) (front : Bytes) :
    ParseContext where
  file := appended
  heap := context.heap
  comment := context.comment
  directory := { context.directory with
    globalOffset := context.directory.globalOffset + shift front }

private theorem openDirectory_shift (behind : appended.content = front ++ archive.content)
    {heap : Nat → Nat → UInt8} {context : ParseContext}
    (entered : openDirectory archive heap = .inr context) :
    openDirectory appended heap = .inr (context.behind appended front) := by
  have length : appended.content.length = front.length + archive.content.length := by
    rw [behind, List.length_append]
  have small := appended.small
  rw [openDirectory_eq, scanBuffer] at entered ⊢
  split at entered
  · cases entered
  split at entered
  · cases entered
  rename_i notShort notSame
  rw [List.length_drop] at notShort notSame
  unfold EndCentralDirectory.sizeof at notShort notSame
  split at entered
  · cases entered
  rename_i found scanned
  have bounded := (scanBack_eq_some.mp scanned).2.1
  rw [List.length_drop] at bounded
  unfold EndCentralDirectory.sizeof at bounded
  obtain ⟨position, shifted, place⟩ := scanBack_shift behind scanned
  rw [if_neg (by rw [List.length_drop]; unfold EndCentralDirectory.sizeof; omega),
    if_neg (by rw [List.length_drop]; unfold EndCentralDirectory.sizeof; omega), shifted]
  dsimp only at entered ⊢
  have record : (appended.content.drop (appended.content.length - 4096)).drop position =
      (archive.content.drop (archive.content.length - 4096)).drop found := by
    rw [List.drop_drop, List.drop_drop, place, behind, List.drop_length_add_append]
  have offset : BitVec.ofNat 64 (appended.content.length - 4096) + BitVec.ofNat 64 position =
      BitVec.ofNat 64 (archive.content.length - 4096) + BitVec.ofNat 64 found + shift front := by
    rw [← BitVec.ofNat_add, place, shift, BitVec.ofNat_add, BitVec.ofNat_add, BitVec.add_comm]
  rw [record, offset]
  unfold enterDirectory at entered ⊢
  rw [readComment_shift behind _ (by bv_omega)]
  dsimp only at entered ⊢
  split at entered
  · cases entered
  · rename_i directory located
    rw [findDirectory_shift behind located]
    cases entered
    rfl

end EndRecord

/-! ## Turns -/

def Pending.withEntries (pending : Pending) (entries : List ZipEntry) : Pending :=
  { pending with outer := { pending.outer with entries := entries } }

def ParseState.withEntries : ParseState → List ZipEntry → ParseState
  | directory state, entries => directory { state with entries := entries }
  | extra pending hOffset, entries => extra (pending.withEntries entries) hOffset

section Turns

variable {context : ParseContext} {appended : File} {front : Bytes}

private theorem position_behind (context : ParseContext) (appended : File) (front : Bytes)
    (state : DirectoryState) (entries : List ZipEntry) :
    (context.behind appended front).position { state with entries := entries } =
      context.position state + shift front := by
  unfold ParseContext.position ParseContext.behind
  dsimp only
  bv_omega

private theorem fieldOffset_behind (context : ParseContext) (appended : File) (front : Bytes)
    (pending : Pending) (entries : List ZipEntry) :
    (context.behind appended front).fieldOffset (pending.withEntries entries) =
      context.fieldOffset pending + shift front := by
  unfold ParseContext.fieldOffset Pending.withEntries
  rw [position_behind]
  bv_omega

private theorem pending_behind (behind : appended.content = front ++ context.file.content)
    {state : DirectoryState} {entry : CDFileHeader}
    (read : readCDFileHeader context.file (context.position state) = some entry)
    (entries : List ZipEntry) :
    (context.behind appended front).pending { state with entries := entries } entry =
      (context.pending state entry).withEntries entries := by
  have inside := inside_of_readCDFileHeader read
  have small := context.file.small
  have next : context.position state + shift front + BitVec.ofNat 64 CDFileHeader.sizeof =
      context.position state + BitVec.ofNat 64 CDFileHeader.sizeof + shift front := by
    bv_omega
  unfold ParseContext.pending Pending.withEntries ParseContext.readName
  rw [position_behind]
  unfold ParseContext.behind
  dsimp only
  rw [next, fileRead_shift behind (length16_short _)]
  unfold CDFileHeader.sizeof at *
  bv_omega

private theorem directoryTurn_behind (behind : appended.content = front ++ context.file.content)
    {state : DirectoryState} {entry : CDFileHeader}
    (more : state.i < context.directory.numberOfEntries)
    (read : readCDFileHeader context.file (context.position state) = some entry)
    (entries : List ZipEntry) :
    (context.behind appended front).directoryTurn { state with entries := entries } =
      if saturated (context.pending state entry).zipEntry.headerOffset then
        .next (.extra ((context.pending state entry).withEntries entries) 0)
      else (context.behind appended front).finishEntry
        ((context.pending state entry).withEntries entries) := by
  have shifted := readCDFileHeader_shift behind read
  rw [← position_behind context appended front state entries] at shifted
  rcases (context.behind appended front).directoryTurn_cases { state with entries := entries } with
    ⟨finished, _⟩ | ⟨_, missing, _⟩ | ⟨other, _, found, turned⟩
  · exact absurd more (BitVec.not_lt.mpr finished)
  · cases missing.symm.trans shifted
  · cases found.symm.trans shifted
    rw [turned, pending_behind behind read entries]
    rfl

private theorem extraTurn_behind (behind : appended.content = front ++ context.file.content)
    {pending : Pending} {hOffset : U16} {extraHeader : ZipExtraFieldHeader}
    (more : hOffset < pending.entry.extra_field_len)
    (found : context.extraHeader pending hOffset = some extraHeader) (entries : List ZipEntry) :
    (context.behind appended front).extraTurn (pending.withEntries entries) hOffset =
      .next (.extra
        (Pending.withEntries
          { pending with zipEntry := context.extraValues pending hOffset extraHeader } entries)
        (ParseContext.nextOffset hOffset extraHeader)) := by
  have place : (context.behind appended front).fieldOffset (pending.withEntries entries) +
      hOffset.setWidth 64 = context.fieldOffset pending + hOffset.setWidth 64 + shift front := by
    rw [fieldOffset_behind]
    bv_omega
  obtain ⟨bytes, record, decoded⟩ := Option.map_eq_some_iff.mp found
  have inside := inside_of_readRecord (by decide) (by decide) record
  have small := context.file.small
  have shifted : (context.behind appended front).extraHeader (pending.withEntries entries) hOffset =
      some extraHeader := by
    unfold ParseContext.extraHeader
    rw [place]
    exact (congrArg _ (readRecord_shift behind (by decide) (by omega))).trans found
  have values : (context.behind appended front).extraValues (pending.withEntries entries) hOffset
      extraHeader = context.extraValues pending hOffset extraHeader := by
    have next : context.fieldOffset pending + hOffset.setWidth 64 + shift front +
        BitVec.ofNat 64 ZipExtraFieldHeader.sizeof = context.fieldOffset pending +
          hOffset.setWidth 64 + BitVec.ofNat 64 ZipExtraFieldHeader.sizeof + shift front := by
      bv_omega
    unfold ParseContext.extraValues
    rw [place, next]
    split
    · exact readZip64_shift behind _ _ (by unfold ZipExtraFieldHeader.sizeof at *; bv_omega)
    · rfl
  rcases (context.behind appended front).extraTurn_cases (pending.withEntries entries) hOffset with
    ⟨finished, _⟩ | ⟨_, missing, _⟩ | ⟨other, _, same, turned⟩
  · exact absurd more (BitVec.not_lt.mpr finished)
  · cases missing.symm.trans shifted
  · cases same.symm.trans shifted
    rw [turned, values]
    rfl

end Turns

/-! ## Runs -/

/-- The same entry, listed with what stands at its header offset in the longer file. -/
def Relisted (appended : File) (entry other : ZipEntry) : Prop :=
  ∃ fileHeader, readZipFileHeader appended entry.headerOffset = some fileHeader ∧
    other = { entry with
      offset := entry.headerOffset + (BitVec.ofNat 64 ZipFileHeader.sizeof +
        fileHeader.file_name_length.setWidth 64 + fileHeader.extra_field_len.setWidth 64) }

/-- How the run over the longer file ends, with the entries `added` still to come. -/
def EndsWith (appended : File) (comment : Bytes) (before added : List ZipEntry)
    (result : Parsed) : Prop :=
  (∃ others, List.Forall₂ (Relisted appended) added others ∧
      result = ⟨before ++ others, comment, .zero⟩) ∨
    ((∃ entry ∈ added, readZipFileHeader appended entry.headerOffset = none) ∧
      result.entries.length < before.length + added.length)

section Runs

variable {context : ParseContext} {appended : File} {front : Bytes} {parsed : Parsed}

/-- The run over the longer file that corresponds to a run from `state` to `parsed`. -/
def Follows (context : ParseContext) (appended : File) (front : Bytes) (parsed : Parsed)
    (state : ParseState) (before : List ZipEntry) : Prop :=
  ∃ added, parsed.entries = state.outer.entries ++ added ∧
    ∃ result, EndsWith appended context.comment before added result ∧
      ∃ fuel, Loop.run (context.behind appended front).turn fuel (state.withEntries before) =
        some result

theorem Follows.next {state after : ParseState} {before : List ZipEntry}
    (follows : Follows context appended front parsed after before)
    (same : after.outer.entries = state.outer.entries)
    (moved : (context.behind appended front).turn (state.withEntries before) =
      .next (after.withEntries before)) :
    Follows context appended front parsed state before := by
  obtain ⟨added, listed, result, ends, fuel, ran⟩ := follows
  exact ⟨added, same ▸ listed, result, ends, fuel + 1, (Loop.run_next moved fuel).trans ran⟩

theorem Follows.finish (state : ParseState) (pending : Pending) {fuel : Nat}
    (ih : ∀ (state : ParseState) (before : List ZipEntry),
      Loop.run context.turn fuel state = some parsed →
      Follows context appended front parsed state before)
    (about : state.outer = pending.outer)
    (turned : context.turn state = context.finishEntry pending)
    (before : List ZipEntry)
    (shifted : (context.behind appended front).turn (state.withEntries before) =
      (context.behind appended front).finishEntry (pending.withEntries before))
    (ran : Loop.run context.turn (fuel + 1) state = some parsed) (complete : parsed.errno = .zero) :
    Follows context appended front parsed state before := by
  rcases context.finishEntry_cases pending with ⟨_, failed⟩ | ⟨fileHeader, found, finished⟩
  · rw [Loop.run_done (turned.trans failed)] at ran
    cases ran
    cases complete
  · rw [Loop.run_next (turned.trans finished)] at ran
    -- The rest of the directory, with any entry listed in place of this one.
    have rest : ∀ other, Follows context appended front parsed
        (.directory (ParseContext.nextState pending fileHeader)) (before ++ [other]) :=
      fun other => ih _ _ ran
    obtain ⟨added, listed, _⟩ := rest (ParseContext.segment pending fileHeader)
    have whole : parsed.entries =
        state.outer.entries ++ (ParseContext.segment pending fileHeader :: added) := by
      rw [listed, about]
      simp [ParseState.outer, ParseContext.nextState]
    refine ⟨ParseContext.segment pending fileHeader :: added, whole, ?_⟩
    rcases (context.behind appended front).finishEntry_cases (pending.withEntries before) with
      ⟨missing, failed⟩ | ⟨otherHeader, standing, finished⟩
    · refine ⟨_, .inr ⟨⟨_, List.mem_cons_self, missing⟩, ?_⟩, 1,
        Loop.run_done (shifted.trans failed) 0⟩
      rw [List.length_cons]
      exact Nat.lt_add_of_pos_right (Nat.succ_pos _)
    · obtain ⟨others, sameListed, result, ends, more, continued⟩ := rest
        (ParseContext.segment (pending.withEntries before) otherHeader)
      have same : added = others := List.append_cancel_left (listed.symm.trans sameListed)
      subst same
      refine ⟨result, ?_, more + 1,
        (Loop.run_next (shifted.trans finished) more).trans continued⟩
      rcases ends with ⟨others, related, rfl⟩ | ⟨⟨entry, member, absent⟩, fewer⟩
      · refine .inl ⟨_ :: others, .cons ⟨otherHeader, standing, rfl⟩ related, ?_⟩
        rw [List.append_assoc, List.singleton_append]
        rfl
      · refine .inr ⟨⟨entry, List.mem_cons_of_mem _ member, absent⟩, ?_⟩
        rw [List.length_append, List.length_singleton] at fewer
        rw [List.length_cons]
        omega

/-- The two runs, turn by turn. -/
theorem run_behind (behind : appended.content = front ++ context.file.content)
    (complete : parsed.errno = .zero) {fuel : Nat} {state : ParseState}
    (ran : Loop.run context.turn fuel state = some parsed) (before : List ZipEntry) :
    Follows context appended front parsed state before := by
  induction fuel generalizing state before with
  | zero => simp [Loop.run] at ran
  | succ fuel ih =>
      have continues := fun (state : ParseState) (before : List ZipEntry)
        (ran : Loop.run context.turn fuel state = some parsed) => ih ran before
      cases state with
      | directory head =>
          rcases context.directoryTurn_cases head with
            ⟨finished, left⟩ | ⟨_, _, failed⟩ | ⟨entry, more, read, turned⟩
          · rw [Loop.run_done left] at ran
            cases ran
            refine ⟨[], (List.append_nil _).symm, ⟨before, context.comment, .zero⟩,
              .inl ⟨[], .nil, by rw [List.append_nil]⟩, 1, Loop.run_done ?_ 0⟩
            exact if_pos finished
          · rw [Loop.run_done failed] at ran
            cases ran
            cases complete
          · have shifted := directoryTurn_behind behind more read before
            split at turned <;> rename_i full
            · rw [if_pos full] at shifted
              rw [Loop.run_next turned] at ran
              exact (ih ran before).next rfl shifted
            · rw [if_neg full] at shifted
              exact Follows.finish (.directory head)
                (context.pending head entry) continues rfl turned
                before shifted ran complete
      | extra pending hOffset =>
          rcases context.extraTurn_cases pending hOffset with
            ⟨finished, turned⟩ | ⟨_, _, failed⟩ | ⟨extraHeader, more, found, turned⟩
          · refine Follows.finish (.extra pending hOffset) pending continues rfl turned before ?_
              ran
              complete
            exact if_neg (BitVec.not_lt.mpr finished)
          · rw [Loop.run_done failed] at ran
            cases ran
            cases complete
          · have shifted := extraTurn_behind behind more found before
            rw [Loop.run_next turned] at ran
            exact (ih ran before).next rfl shifted

end Runs

/-! ## The entries of the longer file -/

/-- The same entry, with its data further on by the bytes in front. -/
def Moved (front : Bytes) (entry other : ZipEntry) : Prop :=
  other.segmentName = entry.segmentName ∧ other.length = entry.length ∧
    other.compressedLength = entry.compressedLength ∧
    other.compressionMethod = entry.compressionMethod ∧
    other.offset.toNat = entry.offset.toNat + front.length

/-- At the unshifted header offset of the entry, the longer file holds a local header
whose name and extra field are longer by the bytes in front. -/
def HeaderInFront (archive appended : File) (front : Bytes) (entry : ZipEntry) : Prop :=
  ∃ own other, readZipFileHeader archive entry.headerOffset = some own ∧
    readZipFileHeader appended entry.headerOffset = some other ∧
    other.file_name_length.toNat + other.extra_field_len.toNat =
      own.file_name_length.toNat + own.extra_field_len.toNat + front.length

section Entries

variable {archive appended : File} {front : Bytes}

private theorem moved_iff {entry other : ZipEntry} (owned : OwnHeader archive entry)
    (relisted : Relisted appended entry other) :
    Moved front entry other ↔ HeaderInFront archive appended front entry := by
  obtain ⟨own, found, offset⟩ := owned
  obtain ⟨standing, read, rfl⟩ := relisted
  have ownOffset := toNat_dataOffset found
  have otherOffset := toNat_dataOffset read
  rw [← offset] at ownOffset
  constructor
  · rintro ⟨_, _, _, _, further⟩
    dsimp only at further
    exact ⟨own, standing, found, read, by omega⟩
  · rintro ⟨own', standing', found', read', longer⟩
    cases found.symm.trans found'
    cases read.symm.trans read'
    refine ⟨rfl, rfl, rfl, rfl, ?_⟩
    dsimp only
    omega

private theorem forall₂_moved_iff {added others : List ZipEntry}
    (relisted : List.Forall₂ (Relisted appended) added others)
    (owned : ∀ entry ∈ added, OwnHeader archive entry) :
    List.Forall₂ (Moved front) added others ↔
      ∀ entry ∈ added, HeaderInFront archive appended front entry := by
  induction relisted with
  | nil => simp
  | cons first _ ih =>
      rw [List.forall_mem_cons] at owned
      rw [List.forall₂_cons, List.forall_mem_cons, moved_iff owned.1 first, ih owned.2]

end Entries

/-- Putting bytes in front of an archive moves its entries exactly when, for every entry,
such a local header happens to stand at the old position. -/
theorem parse_behind_iff {archive appended : File} {front : Bytes}
    (behind : appended.content = front ++ archive.content) {heap : Nat → Nat → UInt8}
    {parsed : Parsed} (decoded : ParsesTo archive heap (.returned parsed))
    (complete : parsed.errno = .zero) :
    (∃ result, ParsesTo appended heap (.returned result) ∧
      List.Forall₂ (Moved front) parsed.entries result.entries) ↔
      ∀ entry ∈ parsed.entries, HeaderInFront archive appended front entry := by
  obtain ⟨context, fuel, entered, ran⟩ := decoded.entered complete
  have same := openDirectory_file entered
  subst same
  obtain ⟨added, listed, result, ends, more, again⟩ := run_behind behind complete ran []
  have parses : ParsesTo appended heap (.returned result) :=
    parsesTo_of_run (openDirectory_shift behind entered) ⟨more, again⟩
  have owned := decoded.ownHeader
  have all : parsed.entries = added := listed
  rw [all] at owned ⊢
  rcases ends with ⟨others, relisted, rfl⟩ | ⟨⟨entry, member, missing⟩, fewer⟩
  · rw [← forall₂_moved_iff relisted owned]
    constructor
    · rintro ⟨other, otherParses, moved⟩
      cases otherParses.unique parses
      exact moved
    · exact fun moved => ⟨_, parses, moved⟩
  · constructor
    · rintro ⟨other, otherParses, moved⟩
      cases otherParses.unique parses
      have length := moved.length_eq
      rw [List.length_nil] at fewer
      omega
    · intro fronts
      obtain ⟨_, _, _, read, _⟩ := fronts entry member
      cases missing.symm.trans read

/-! ## One byte in front -/

def archiveBehindByte : File where
  content := [0] ++ archiveA.content
  small := by decide +kernel

def parsedA : Parsed := ⟨[⟨[0x61], 0, 33, 1, 1, 0⟩], [0x63], .zero⟩

private theorem parsesTo_archiveA : ParsesTo archiveA (fun _ _ => 0) (.returned parsedA) :=
  ⟨3, by decide +kernel⟩

/-- The entry is lost, because no signature stands at position 0. -/
theorem entries_lost_behind_byte :
    ParsesTo archiveA (fun _ _ => 0) (.returned parsedA) ∧ parsedA.errno = .zero ∧
      parsedA.entries ≠ [] ∧
      ¬∃ result, ParsesTo archiveBehindByte (fun _ _ => 0) (.returned result) ∧
        List.Forall₂ (Moved [0]) parsedA.entries result.entries := by
  have lost : ParsesTo archiveBehindByte (fun _ _ => 0) (.returned ⟨[], [0x63], .eio⟩) :=
    ⟨3, by decide +kernel⟩
  refine ⟨parsesTo_archiveA, rfl, by decide, ?_⟩
  rintro ⟨result, parses, moved⟩
  cases parses.unique lost
  cases moved

theorem parse_behind_byte_iff :
    (∃ result, ParsesTo archiveBehindByte (fun _ _ => 0) (.returned result) ∧
      List.Forall₂ (Moved [0]) parsedA.entries result.entries) ↔
      ∀ entry ∈ parsedA.entries, HeaderInFront archiveA archiveBehindByte [0] entry :=
  parse_behind_iff rfl parsesTo_archiveA rfl

end Aff4Lite.Zip
