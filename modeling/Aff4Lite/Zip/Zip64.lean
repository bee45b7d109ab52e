import Aff4Lite.Zip.Archive

/-!
Zip64 archives. A 32-bit or 16-bit field with all bits set stands for a value elsewhere:
for the directory in the Zip64 end record, for an entry in the record of kind 1 of its
extra field. `parseCD` looks at the Zip64 end record only when the directory offset is
saturated, and at the extra field only when the header offset is.
-/

set_option autoImplicit false

namespace Aff4Lite.Zip

open Lib

/-! ## Entries -/

def recordHeader (header_id : U16) (data : Bytes) : ZipExtraFieldHeader :=
  ⟨header_id, BitVec.ofNat 16 data.length⟩

def recordBytes (header_id : U16) (data : Bytes) : Bytes :=
  (recordHeader header_id data).toBytes ++ data

/-- A record of another kind than Zip64. -/
structure ExtraRecord where
  header_id : U16
  data : Bytes
  other : header_id ≠ 1

def ExtraRecord.bytes (record : ExtraRecord) : Bytes := recordBytes record.header_id record.data

/-- The true value of a saturated field. -/
def zip64Value (field : U32) (value : U64) : Bytes :=
  if field = 0xffffffff then toLE 8 value.toNat else []

/-- The data of the Zip64 record of an entry, up to what follows the three values. -/
def zip64Data (header : CDFileHeader) (actual : Zip64Entry) : Bytes :=
  zip64Value header.file_size actual.size ++ (zip64Value header.compress_size actual.csize ++
    zip64Value header.relative_offset_local_header actual.headerOffset)

/-- An entry with its true values. Every field holds its value or is saturated; when one
is, the values of the saturated fields stand in a Zip64 record of the extra field. -/
structure Zip64Item where
  entry : DirectoryEntry
  actual : Zip64Entry
  size : entry.header.file_size = 0xffffffff ∨ entry.values.size = actual.size
  csize : entry.header.compress_size = 0xffffffff ∨ entry.values.csize = actual.csize
  headerOffset : entry.header.relative_offset_local_header = 0xffffffff ∨
    entry.values.headerOffset = actual.headerOffset
  extra : entry.header.file_size = 0xffffffff ∨ entry.header.compress_size = 0xffffffff ∨
      entry.header.relative_offset_local_header = 0xffffffff →
    ∃ (before after : List ExtraRecord) (rest : Bytes), entry.extra =
      before.flatMap ExtraRecord.bytes ++
        (recordBytes 1 (zip64Data entry.header actual ++ rest) ++ after.flatMap ExtraRecord.bytes)

private theorem saturated_widen (value : U32) :
    saturated (value.setWidth 64) = decide (value = 0xffffffff) := by
  have wide := toNat_widen value (by decide : 32 ≤ 64)
  have small := value.isLt
  unfold saturated
  rw [decide_eq_decide]
  constructor
  · rintro (full | full) <;> bv_omega
  · rintro rfl
    exact .inl rfl

private theorem readInto_of_partAt {file : File} {value actual offset : U64}
    (stands : PartAt file.content offset.toNat (toLE 8 actual.toNat)) :
    readInto file value offset = actual := by
  have read : (fileRead file 8 offset).bytes = toLE 8 actual.toNat := by
    rw [fileRead_eq_slice file (by decide), Stream.ReadResult.bytes_delivered]
    unfold PartAt at stands
    rwa [length_toLE] at stands
  unfold readInto
  rw [read]
  exact wordLE_append (by decide) actual _

private theorem read_zip64Value {file : File} {field : U32} {actual offset : U64}
    (stands : PartAt file.content offset.toNat (zip64Value field actual))
    (holds : field = 0xffffffff ∨ field.setWidth 64 = actual) :
    (if saturated (field.setWidth 64) then readInto file (field.setWidth 64) offset
      else field.setWidth 64) = actual := by
  rw [saturated_widen]
  unfold zip64Value at stands
  by_cases full : field = 0xffffffff
  · rw [if_pos full] at stands
    rw [if_pos (decide_eq_true full)]
    exact readInto_of_partAt stands
  · rw [if_neg (by simpa using full)]
    exact holds.resolve_left full

private theorem toNat_afterValue (field : U32) (value : U64) {offset : U64}
    (low : offset.toNat + 8 < 2 ^ 64) :
    (if saturated (field.setWidth 64) then offset + 8 else offset).toNat =
      offset.toNat + (zip64Value field value).length := by
  rw [saturated_widen]
  unfold zip64Value
  by_cases full : field = 0xffffffff
  · rw [if_pos (decide_eq_true full), if_pos full, length_toLE]
    bv_omega
  · rw [if_neg (by simpa using full), if_neg full]
    rfl

private theorem length_zip64Value_le (field : U32) (value : U64) :
    (zip64Value field value).length ≤ 8 := by
  unfold zip64Value
  split <;> simp

private theorem readZip64_actual {file : File} {item : Zip64Item} {dataSize : U16} {offset : U64}
    (wide : dataSize ≥ 8) (low : offset.toNat + 16 < 2 ^ 64)
    (stands : PartAt file.content offset.toNat (zip64Data item.entry.header item.actual)) :
    readZip64 file item.entry.values dataSize offset = item.actual := by
  have afterSize := toNat_afterValue item.entry.header.file_size item.actual.size
    (show offset.toNat + 8 < 2 ^ 64 by omega)
  have sizeLength := length_zip64Value_le item.entry.header.file_size item.actual.size
  have afterCsize := toNat_afterValue item.entry.header.compress_size item.actual.csize
    (show (if saturated (item.entry.header.file_size.setWidth 64) then offset + 8
      else offset).toNat + 8 < 2 ^ 64 by omega)
  rw [zip64Data, partAt_append, partAt_append, ← afterSize, ← afterCsize] at stands
  obtain ⟨sizeAt, csizeAt, offsetAt⟩ := stands
  rw [readZip64_wide _ _ wide]
  exact Zip64Entry.ext (read_zip64Value sizeAt item.size) (read_zip64Value csizeAt item.csize)
    (read_zip64Value offsetAt item.headerOffset)

/-! ## The walk over an extra field -/

theorem length_recordBytes (header_id : U16) (data : Bytes) :
    (recordBytes header_id data).length = 4 + data.length := by
  rw [recordBytes, List.length_append, ZipExtraFieldHeader.length_toBytes]
  rfl

section Walk

variable {context : ParseContext} {pending : Pending}

def FieldAt (context : ParseContext) (pending : Pending) (hOffset : U16) (part : Bytes) : Prop :=
  PartAt context.file.content ((context.fieldOffset pending).toNat + hOffset.toNat) part

private theorem toNat_cursor {hOffset : U16} {part : Bytes}
    (stands : FieldAt context pending hOffset part)
    (nonempty : part ≠ []) :
    (context.fieldOffset pending + hOffset.setWidth 64).toNat =
      (context.fieldOffset pending).toNat + hOffset.toNat := by
  have inside := stands.inside nonempty
  have small := context.file.small
  have wide := wide16 hOffset
  bv_omega

private theorem extraTurn_record {hOffset : U16} {header_id : U16} {data : Bytes}
    (stands : FieldAt context pending hOffset (recordBytes header_id data))
    (fits : hOffset.toNat + (recordBytes header_id data).length ≤
      pending.entry.extra_field_len.toNat) :
    ∃ after : U16, after.toNat = hOffset.toNat + (recordBytes header_id data).length ∧
      context.extraTurn pending hOffset = .next (.extra
        { pending with
          zipEntry := context.extraValues pending hOffset (recordHeader header_id data) }
            after) := by
  have limit := pending.entry.extra_field_len.isLt
  have length := length_recordBytes header_id data
  have cursor := toNat_cursor stands
    (List.ne_nil_of_length_pos (by rw [length]; exact Nat.lt_add_right _ (by decide)))
  have headerAt := (partAt_append.mp stands).1
  unfold PartAt at headerAt
  rw [ZipExtraFieldHeader.length_toBytes, ← cursor] at headerAt
  have record := (readRecord_some (show ZipExtraFieldHeader.sizeof ≤ maxTransfer by decide)).mpr
    ⟨headerAt, ZipExtraFieldHeader.length_toBytes _⟩
  have decoded := ZipExtraFieldHeader.ofBytes_append (recordHeader header_id data) []
  rw [List.append_nil] at decoded
  have found : context.extraHeader pending hOffset = some (recordHeader header_id data) := by
    rw [ParseContext.extraHeader, record, Option.map_some, decoded]
  refine ⟨ParseContext.nextOffset hOffset (recordHeader header_id data), ?_, ?_⟩
  · unfold ParseContext.nextOffset recordHeader ZipExtraFieldHeader.sizeof
    dsimp only
    bv_omega
  · rcases context.extraTurn_cases pending hOffset with
      ⟨finished, _⟩ | ⟨_, missing, _⟩ | ⟨other, _, same, turned⟩
    · exact absurd finished (by bv_omega)
    · cases missing.symm.trans found
    · cases same.symm.trans found
      exact turned

private theorem reaches_records (records : List ExtraRecord) {hOffset : U16}
    (stands : FieldAt context pending hOffset (records.flatMap ExtraRecord.bytes))
    (fits : hOffset.toNat + (records.flatMap ExtraRecord.bytes).length ≤
      pending.entry.extra_field_len.toNat) :
    ∃ after : U16,
      after.toNat = hOffset.toNat + (records.flatMap ExtraRecord.bytes).length ∧
      Loop.Reaches context.turn (.extra pending hOffset) (.extra pending after) := by
  induction records generalizing hOffset with
  | nil => exact ⟨hOffset, rfl, .refl⟩
  | cons record rest ih =>
      rw [List.flatMap_cons] at stands fits ⊢
      rw [List.length_append] at fits ⊢
      obtain ⟨first, others⟩ := partAt_append.mp stands
      have room : hOffset.toNat + record.bytes.length ≤ pending.entry.extra_field_len.toNat := by
        omega
      obtain ⟨next, place, turned⟩ := extraTurn_record first room
      have moved : next.toNat = hOffset.toNat + record.bytes.length := place
      have other : (recordHeader record.header_id record.data).header_id ≠ 1 := record.other
      rw [ParseContext.extraValues_other other] at turned
      have there : FieldAt context pending next (rest.flatMap ExtraRecord.bytes) := by
        unfold FieldAt
        rw [moved, ← Nat.add_assoc]
        exact others
      obtain ⟨after, total, reached⟩ := ih there (by omega)
      refine ⟨after, ?_, (Loop.Reaches.step .refl turned).trans reached⟩
      rw [total, moved, Nat.add_assoc]

private theorem extraTurn_zip64 {item : Zip64Item} (values : pending.zipEntry = item.entry.values)
    (full : item.entry.header.relative_offset_local_header = 0xffffffff) {hOffset : U16}
    {rest : Bytes}
    (stands : FieldAt context pending hOffset
      (recordBytes 1 (zip64Data item.entry.header item.actual ++ rest)))
    (fits : hOffset.toNat +
      (recordBytes 1 (zip64Data item.entry.header item.actual ++ rest)).length ≤
        pending.entry.extra_field_len.toNat) :
    ∃ after : U16, after.toNat = hOffset.toNat +
        (recordBytes 1 (zip64Data item.entry.header item.actual ++ rest)).length ∧
      context.extraTurn pending hOffset =
        .next (.extra { pending with zipEntry := item.actual } after) := by
  obtain ⟨after, place, turned⟩ := extraTurn_record stands fits
  have length := length_recordBytes 1 (zip64Data item.entry.header item.actual ++ rest)
  have nonempty : recordBytes 1 (zip64Data item.entry.header item.actual ++ rest) ≠ [] :=
    List.ne_nil_of_length_pos (by rw [length]; exact Nat.lt_add_right _ (by decide))
  have cursor := toNat_cursor stands nonempty
  have inside := stands.inside nonempty
  have small := context.file.small
  have wide : (recordHeader 1 (zip64Data item.entry.header item.actual ++ rest)).data_size ≥ 8 := by
    have limit := pending.entry.extra_field_len.isLt
    have eight : 8 ≤ (zip64Data item.entry.header item.actual ++ rest).length := by
      rw [zip64Data, List.length_append, List.length_append, List.length_append]
      unfold zip64Value
      rw [if_pos full, length_toLE]
      omega
    unfold recordHeader
    dsimp only
    bv_omega
  have dataPlace : (context.fieldOffset pending + hOffset.setWidth 64 +
      BitVec.ofNat 64 ZipExtraFieldHeader.sizeof).toNat =
        (context.fieldOffset pending).toNat + hOffset.toNat + ZipExtraFieldHeader.sizeof := by
    unfold ZipExtraFieldHeader.sizeof
    bv_omega
  have dataAt := (partAt_append.mp (partAt_append.mp stands).2).1
  rw [ZipExtraFieldHeader.length_toBytes, ← dataPlace] at dataAt
  rw [ParseContext.extraValues_zip64 rfl, values, readZip64_actual wide
    (by rw [dataPlace]; unfold ZipExtraFieldHeader.sizeof; omega) dataAt] at turned
  exact ⟨after, place, turned⟩

/-- A walk over a whole extra field with one Zip64 record. -/
theorem reaches_zip64 (item : Zip64Item) (header : pending.entry = item.entry.header)
    (values : pending.zipEntry = item.entry.values)
    (full : item.entry.header.relative_offset_local_header = 0xffffffff)
    (stands : FieldAt context pending 0 item.entry.extra) :
    ∃ after : U16, pending.entry.extra_field_len ≤ after ∧
      Loop.Reaches context.turn (.extra pending 0)
        (.extra { pending with zipEntry := item.actual } after) := by
  obtain ⟨before, behind, rest, extra⟩ := item.extra (.inr (.inr full))
  have length := item.entry.extraLength
  rw [← header, extra, List.length_append, List.length_append] at length
  rw [extra] at stands
  obtain ⟨beforeAt, others⟩ := partAt_append.mp stands
  obtain ⟨recordAt, behindAt⟩ := partAt_append.mp others
  have zero : (0 : U16).toNat = 0 := rfl
  obtain ⟨first, firstPlace, walked⟩ := reaches_records before beforeAt (by omega)
  rw [zero, Nat.zero_add] at firstPlace
  rw [zero, Nat.add_zero, ← firstPlace] at recordAt behindAt
  obtain ⟨second, secondPlace, turned⟩ := extraTurn_zip64 values full recordAt (by omega)
  have rest : FieldAt context { pending with zipEntry := item.actual } second
      (behind.flatMap ExtraRecord.bytes) := by
    unfold FieldAt
    rw [secondPlace, ← Nat.add_assoc]
    exact behindAt
  have room : second.toNat + (behind.flatMap ExtraRecord.bytes).length ≤
      pending.entry.extra_field_len.toNat := by
    omega
  obtain ⟨after, afterPlace, finished⟩ := reaches_records behind rest room
  exact ⟨after, by bv_omega, (walked.trans (.step .refl turned)).trans finished⟩

end Walk

/-- The values that `parseCD` finds: without a saturated header offset it does not look at
the extra field. -/
def Zip64Item.parsed (item : Zip64Item) : Zip64Entry :=
  if item.entry.header.relative_offset_local_header = 0xffffffff then item.actual
  else item.entry.values

private theorem Zip64Item.parsed_headerOffset (item : Zip64Item) :
    item.parsed.headerOffset = item.actual.headerOffset := by
  unfold Zip64Item.parsed
  split
  · rfl
  · rename_i unsaturated
    exact item.headerOffset.resolve_left unsaturated

private theorem Zip64Item.parsed_eq_actual (item : Zip64Item) :
    item.parsed = item.actual ↔ item.entry.header.relative_offset_local_header = 0xffffffff ∨
      item.entry.values.size = item.actual.size ∧ item.entry.values.csize = item.actual.csize := by
  unfold Zip64Item.parsed
  by_cases full : item.entry.header.relative_offset_local_header = 0xffffffff
  · simp only [full, if_true, true_or]
  · rw [if_neg full]
    have headerOffset := item.headerOffset.resolve_left full
    constructor
    · intro same
      rw [same]
      exact .inr ⟨rfl, rfl⟩
    · rintro (other | ⟨size, csize⟩)
      · exact absurd other full
      · exact Zip64Entry.ext size csize headerOffset

private theorem parses_item {context : ParseContext} {item : Zip64Item}
    (stored : item.entry.LocalAt context.file.content item.actual.headerOffset) :
    context.Parses item.entry item.parsed := by
  by_cases full : item.entry.header.relative_offset_local_header = 0xffffffff
  · have parsed : item.parsed = item.actual := if_pos full
    rw [parsed]
    intro state before after stands
    have turned := directoryTurn_stands stands
    have isFull : saturated item.entry.values.headerOffset = true :=
      (saturated_widen _).trans (decide_eq_true full)
    rw [if_pos isFull] at turned
    have small := context.file.small
    have length := item.entry.length_bytes
    have here := stands.here
    have nameWide := wide16 item.entry.header.file_name_length
    rw [stands.content, List.length_append, List.length_append] at small
    have field : (context.fieldOffset
        ⟨state, item.entry.header, item.entry.name, item.entry.values⟩).toNat =
          (before ++ (item.entry.header.toBytes ++ item.entry.name)).length := by
      rw [List.length_append, List.length_append, CDFileHeader.length_toBytes,
        ← item.entry.nameLength]
      unfold ParseContext.fieldOffset CDFileHeader.sizeof at *
      dsimp only
      bv_omega
    have extraAt : FieldAt context ⟨state, item.entry.header, item.entry.name, item.entry.values⟩ 0
        item.entry.extra := by
      have split : context.file.content =
          (before ++ (item.entry.header.toBytes ++ item.entry.name)) ++
          (item.entry.extra ++ (item.entry.comment ++ after)) := by
        rw [stands.content, DirectoryEntry.bytes]
        simp only [List.append_assoc]
      unfold FieldAt
      rw [field, split]
      exact partAt_middle _ _ _
    obtain ⟨last, finished, walked⟩ := reaches_zip64 item rfl rfl full extraAt
    refine (Loop.Reaches.trans (.step .refl turned) walked).step ?_
    exact (if_neg (BitVec.not_lt.mpr finished)).trans (finishEntry_listed rfl rfl stored)
  · have parsed : item.parsed = item.entry.values := if_neg full
    have headerOffset := item.headerOffset.resolve_left full
    rw [parsed]
    exact parses_classical ((saturated_widen _).trans (decide_eq_false full))
      (headerOffset ▸ stored)

/-! ## Archives -/

/-- A Zip64 archive: the directory is followed by the Zip64 end record, its locator and the
end record, in which the count and the directory offset hold their values or are saturated. -/
structure File.Zip64 (file : File) (locals : Bytes) (items : List Zip64Item) (end_cd : Zip64EndCD)
    (locator : Zip64CDLocator) (endCD : EndCentralDirectory) (comment : Bytes) : Prop where
  content : file.content = (locals ++ (items.flatMap (·.entry.bytes) ++
    (end_cd.toBytes ++ locator.toBytes))) ++ (endCD.toBytes ++ comment)
  magic : endCD.magic = EndCentralDirectory.defaultMagic
  commentLength : endCD.comment_len.toNat = comment.length
  count : endCD.total_entries_in_cd = 0xffff ∨ endCD.total_entries_in_cd.toNat = items.length
  start : endCD.offset_of_cd = 0xffffffff ∨ endCD.offset_of_cd.toNat = locals.length
  size : endCD.size_of_cd.toNat = min (items.flatMap (·.entry.bytes)).length 0xffffffff
  end_cdMagic : end_cd.magic = Zip64EndCD.defaultMagic
  end_cdCount : end_cd.number_of_entries_in_volume.toNat = items.length
  end_cdStart : end_cd.offset_of_cd.toNat = locals.length
  end_cdSize : end_cd.size_of_cd.toNat = (items.flatMap (·.entry.bytes)).length
  locatorMagic : locator.magic = Zip64CDLocator.defaultMagic
  locatorDisk : locator.disk_with_cd = 0
  locatorDisks : locator.number_of_disks = 1
  headers : ∀ item ∈ items, item.entry.LocalAt file.content item.actual.headerOffset

def endPosition (locals : Bytes) (items : List Zip64Item) : Nat :=
  locals.length + (items.flatMap (·.entry.bytes)).length + 76

/-- The end record starts inside the last 4096 bytes, and not at the first of them. -/
def File.EndInWindow (file : File) (locals : Bytes) (items : List Zip64Item) : Prop :=
  file.content.length < endPosition locals items + 4096

/-- The signature of an end record stands behind the end record. -/
def File.LaterSignature (file : File) (locals : Bytes) (items : List Zip64Item) : Prop :=
  ∃ later, endPosition locals items < later ∧
    later + EndCentralDirectory.sizeof ≤ file.content.length ∧ EndMagicAt file.content later

/-- A directory header stands 76 bytes, or more, behind the start of the directory: where
the directory would start if no Zip64 records stood before the end record. -/
def File.HeaderBehindStart (file : File) (locals : Bytes) (items : List Zip64Item)
    (endCD : EndCentralDirectory) : Prop :=
  ∃ entry, readCDFileHeader file
    (BitVec.ofNat 64 (endPosition locals items) - endCD.size_of_cd.setWidth 64) = some entry

section Archive

variable {file : File} {locals : Bytes} {items : List Zip64Item} {end_cd : Zip64EndCD}
  {locator : Zip64CDLocator} {endCD : EndCentralDirectory} {comment : Bytes}

private theorem length_front (locals : Bytes) (items : List Zip64Item) (end_cd : Zip64EndCD)
    (locator : Zip64CDLocator) :
    (locals ++ (items.flatMap (·.entry.bytes) ++ (end_cd.toBytes ++ locator.toBytes))).length =
      endPosition locals items := by
  simp only [List.length_append, Zip64EndCD.length_toBytes, Zip64CDLocator.length_toBytes]
  unfold endPosition Zip64EndCD.sizeof Zip64CDLocator.sizeof
  omega

private theorem File.Zip64.endsWith (archive : file.Zip64 locals items end_cd locator endCD comment)
    (window : file.EndInWindow locals items) (last : ¬file.LaterSignature locals items) :
    file.EndsWith (locals ++ (items.flatMap (·.entry.bytes) ++
      (end_cd.toBytes ++ locator.toBytes))) endCD comment where
  content := archive.content
  magic := archive.magic
  commentLength := archive.commentLength
  window := by rwa [length_front]
  notFirst := by
    rw [length_front]
    exact Nat.lt_add_left _ (by decide)
  last := by
    intro later after within magic
    rw [length_front] at after
    exact last ⟨later, after, within, magic⟩

theorem File.Zip64.length (archive : file.Zip64 locals items end_cd locator endCD comment) :
    file.content.length = endPosition locals items + (22 + comment.length) := by
  rw [archive.content, List.length_append, length_front, List.length_append,
    EndCentralDirectory.length_toBytes]
  rfl

private theorem File.Zip64.openDirectory_before
    (archive : file.Zip64 locals items end_cd locator endCD comment)
    (before : ¬file.EndInWindow locals items) (last : ¬file.LaterSignature locals items)
    (heap : Nat → Nat → UInt8) :
    openDirectory file heap = .inl (.returned ⟨[], [], .eio⟩) := by
  have length := archive.length
  unfold File.EndInWindow at before
  have tail : (file.content.drop (file.content.length - 4096)).length = 4096 := by
    rw [List.length_drop]
    omega
  rw [openDirectory_eq, scanBuffer, tail]
  unfold EndCentralDirectory.sizeof
  rw [if_neg (by decide), if_neg (by decide)]
  cases scanned : scanBack (file.content.drop (file.content.length - 4096)) (4096 - 22) with
  | none => rfl
  | some found =>
      obtain ⟨positive, bounded, magic, _⟩ := scanBack_eq_some.mp scanned
      unfold EndMagicAt at magic
      rw [wordAt_drop] at magic
      refine absurd ⟨_, ?_, ?_, magic⟩ last
      · omega
      · unfold EndCentralDirectory.sizeof
        omega

private theorem File.Zip64.findDirectory_saturated
    (archive : file.Zip64 locals items end_cd locator endCD comment)
    (full : endCD.offset_of_cd = 0xffffffff) :
    findDirectory file endCD (BitVec.ofNat 64 (endPosition locals items)) =
      some ⟨end_cd.offset_of_cd, end_cd.number_of_entries_in_volume, 0⟩ := by
  have length := archive.length
  have small := file.small
  have start := archive.end_cdStart
  have size := archive.end_cdSize
  let front := locals ++ items.flatMap (·.entry.bytes)
  have frontLength : front.length = locals.length + (items.flatMap (·.entry.bytes)).length :=
    List.length_append
  have split : file.content = front ++ ((end_cd.toBytes ++ locator.toBytes) ++
      (endCD.toBytes ++ comment)) := by
    rw [archive.content]
    simp only [front, List.append_assoc]
  have both : PartAt file.content front.length (end_cd.toBytes ++ locator.toBytes) := by
    rw [split]
    exact partAt_middle _ _ _
  obtain ⟨endAt, locatorAt⟩ := partAt_append.mp both
  unfold PartAt at endAt locatorAt
  rw [Zip64EndCD.length_toBytes] at endAt locatorAt
  rw [Zip64CDLocator.length_toBytes] at locatorAt
  have locatorPlace : (BitVec.ofNat 64 (endPosition locals items) -
      BitVec.ofNat 64 Zip64CDLocator.sizeof).toNat = front.length + Zip64EndCD.sizeof := by
    unfold endPosition Zip64CDLocator.sizeof Zip64EndCD.sizeof at *
    bv_omega
  have endPlace : (BitVec.ofNat 64 (endPosition locals items) -
      BitVec.ofNat 64 Zip64CDLocator.sizeof - BitVec.ofNat 64 Zip64EndCD.sizeof).toNat =
        front.length := by
    unfold endPosition Zip64CDLocator.sizeof Zip64EndCD.sizeof at *
    bv_omega
  rw [← locatorPlace] at locatorAt
  rw [← endPlace] at endAt
  have locatorRead := (readRecord_some (by decide)).mpr ⟨locatorAt, locator.length_toBytes⟩
  have endRead := (readRecord_some (by decide)).mpr ⟨endAt, end_cd.length_toBytes⟩
  have locatorDecoded := Zip64CDLocator.ofBytes_append locator []
  have endDecoded := Zip64EndCD.ofBytes_append end_cd []
  rw [List.append_nil] at locatorDecoded endDecoded
  have noShift : BitVec.ofNat 64 (endPosition locals items) -
      BitVec.ofNat 64 Zip64CDLocator.sizeof - BitVec.ofNat 64 Zip64EndCD.sizeof -
        end_cd.size_of_cd - end_cd.offset_of_cd = 0 := by
    bv_omega
  refine (findDirectory_zip64_iff full).mpr ⟨_, _, locatorRead, ?_, endRead, ?_, ?_⟩
  · simp [locatorDecoded, archive.locatorMagic, archive.locatorDisk, archive.locatorDisks]
  · rw [endDecoded, archive.end_cdMagic]
  · rw [endDecoded, noShift]

private theorem File.Zip64.parsesTo_saturated
    (archive : file.Zip64 locals items end_cd locator endCD comment)
    (window : file.EndInWindow locals items) (last : ¬file.LaterSignature locals items)
    (full : endCD.offset_of_cd = 0xffffffff) (heap : Nat → Nat → UInt8) :
    ParsesTo file heap (.returned {
      entries := items.map fun item => item.entry.listed item.parsed
      comment := comment.takeWhile fun byte => byte ≠ 0
      errno := .zero }) := by
  have ends := archive.endsWith window last
  have entered := openDirectory_of_end ends heap
  rw [length_front] at entered
  have read := ends.readComment
  rw [length_front] at read
  rw [enterDirectory, archive.findDirectory_saturated full, read] at entered
  let values := items.map fun item => (item.entry, item.parsed)
  have same : values.flatMap (·.1.bytes) = items.flatMap (·.entry.bytes) := by
    rw [List.flatMap_map]
  have each : ∀ value ∈ values, ParseContext.Parses
      ⟨file, heap, comment.takeWhile fun byte => byte ≠ 0,
      ⟨end_cd.offset_of_cd, end_cd.number_of_entries_in_volume, 0⟩⟩ value.1 value.2 := by
    intro value member
    obtain ⟨item, listed, rfl⟩ := List.mem_map.mp member
    exact parses_item (archive.headers item listed)
  have content : file.content = locals ++ (values.flatMap (·.1.bytes) ++
      (end_cd.toBytes ++ locator.toBytes ++ (endCD.toBytes ++ comment))) := by
    rw [same, archive.content]
    simp only [List.append_assoc]
  have ran := run_entries values each content
    (by have start := archive.end_cdStart; dsimp only; bv_omega)
    (by rw [List.length_map]; exact archive.end_cdCount.symm)
  have listed : values.map (fun value => value.1.listed value.2) =
      items.map fun item => item.entry.listed item.parsed := by
    rw [List.map_map]
    rfl
  rw [listed] at ran
  exact parsesTo_of_run entered ran

/-- Without, the directory is sought too far on, and nothing is listed unless a directory
header stands there. -/
theorem File.Zip64.parsesTo_unsaturated
    (archive : file.Zip64 locals items end_cd locator endCD comment)
    (window : file.EndInWindow locals items) (last : ¬file.LaterSignature locals items)
    (unsaturated : endCD.offset_of_cd ≠ 0xffffffff)
    (noHeader : ¬file.HeaderBehindStart locals items endCD) (heap : Nat → Nat → UInt8) :
    ∃ parsed, ParsesTo file heap (.returned parsed) ∧ parsed.entries = [] := by
  have entered := openDirectory_of_end (archive.endsWith window last) heap
  rw [length_front, enterDirectory, findDirectory, if_pos unsaturated] at entered
  have place : BitVec.ofNat 64 (endPosition locals items) - endCD.size_of_cd.setWidth 64 -
      endCD.offset_of_cd.setWidth 64 + endCD.offset_of_cd.setWidth 64 =
        BitVec.ofNat 64 (endPosition locals items) - endCD.size_of_cd.setWidth 64 := by
    bv_omega
  have missing : readCDFileHeader file
      (BitVec.ofNat 64 (endPosition locals items) - endCD.size_of_cd.setWidth 64) = none := by
    cases read : readCDFileHeader file
        (BitVec.ofNat 64 (endPosition locals items) - endCD.size_of_cd.setWidth 64) with
    | none => rfl
    | some entry => exact absurd ⟨entry, read⟩ noHeader
  obtain ⟨parsed, ran, absent⟩ := run_no_header
    ⟨file, heap, readComment file endCD (BitVec.ofNat 64 (endPosition locals items)),
      ⟨endCD.offset_of_cd.setWidth 64, endCD.total_entries_in_cd.setWidth 64,
        BitVec.ofNat 64 (endPosition locals items) - endCD.size_of_cd.setWidth 64 -
          endCD.offset_of_cd.setWidth 64⟩⟩ (by dsimp only; rw [place]; exact missing)
  exact ⟨parsed, parsesTo_of_run entered ran, absent⟩

/-- Behind an empty directory stands the end record, which is no directory header. -/
theorem File.Zip64.no_header_of_empty
    (archive : file.Zip64 locals [] end_cd locator endCD comment) :
    ¬file.HeaderBehindStart locals [] endCD := by
  rintro ⟨entry, read⟩
  have size := archive.size
  have small := file.small
  have length := archive.length
  have place : (BitVec.ofNat 64 (endPosition locals []) - endCD.size_of_cd.setWidth 64).toNat =
      endPosition locals [] := by
    simp only [List.flatMap_nil, List.length_nil, Nat.zero_min] at size
    bv_omega
  have endAt : file.content.drop (endPosition locals []) = endCD.toBytes ++ comment := by
    rw [archive.content, ← length_front locals [] end_cd locator, List.drop_left]
  have magic := magic_of_readCDFileHeader read
  rw [place, wordAt, endAt] at magic
  have other := (endMagic_drop file.content (endPosition locals [])).mp
    (by rw [endAt, EndCentralDirectory.ofBytes_append, archive.magic])
  unfold EndMagicAt at other
  rw [wordAt, endAt] at other
  exact absurd (magic.symm.trans other) (by decide)

end Archive

/-- `parseCD` gives every entry of the directory, with its true values. -/
def ListsActual (file : File) (heap : Nat → Nat → UInt8) (items : List Zip64Item) : Prop :=
  ∃ parsed, ParsesTo file heap (.returned parsed) ∧
    parsed.entries = items.map fun item => item.entry.listed item.actual

/-- What `parseCD` needs. The signature of an end record stands nowhere behind the end
record. When there is an entry, the end record starts in the window of the scan, its
directory offset is saturated, and an entry whose header offset is not saturated has its
true sizes in the directory header. -/
def File.Zip64Readable (file : File) (locals : Bytes) (items : List Zip64Item)
    (endCD : EndCentralDirectory) : Prop :=
  ¬file.LaterSignature locals items ∧
    (items ≠ [] → file.EndInWindow locals items ∧ endCD.offset_of_cd = 0xffffffff ∧
      ∀ item ∈ items, item.entry.header.relative_offset_local_header = 0xffffffff ∨
        item.entry.values.size = item.actual.size ∧ item.entry.values.csize = item.actual.csize)

section Results

variable {file : File} {locals : Bytes} {items : List Zip64Item} {end_cd : Zip64EndCD}
  {locator : Zip64CDLocator} {endCD : EndCentralDirectory} {comment : Bytes}

private theorem File.Zip64.listsActual
    (archive : file.Zip64 locals items end_cd locator endCD comment)
    (heap : Nat → Nat → UInt8) (readable : file.Zip64Readable locals items endCD) :
    ListsActual file heap items := by
  obtain ⟨last, entries⟩ := readable
  by_cases empty : items = []
  · subst empty
    by_cases window : file.EndInWindow locals []
    · by_cases full : endCD.offset_of_cd = 0xffffffff
      · exact ⟨_, archive.parsesTo_saturated window last full heap, rfl⟩
      · exact archive.parsesTo_unsaturated window last full archive.no_header_of_empty heap
    · refine ⟨⟨[], [], .eio⟩, ⟨0, ?_⟩, rfl⟩
      rw [parseCD, archive.openDirectory_before window last]
  · obtain ⟨window, full, actual⟩ := entries empty
    refine ⟨_, archive.parsesTo_saturated window last full heap, ?_⟩
    apply List.map_congr_left
    intro item member
    rw [item.parsed_eq_actual.mpr (actual item member)]

theorem File.Zip64.readable (archive : file.Zip64 locals items end_cd locator endCD comment)
    {heap : Nat → Nat → UInt8} (lists : ListsActual file heap items)
    (last : ¬file.LaterSignature locals items)
    (noHeader : endCD.offset_of_cd ≠ 0xffffffff → ¬file.HeaderBehindStart locals items endCD) :
    file.Zip64Readable locals items endCD := by
  obtain ⟨parsed, parses, listed⟩ := lists
  refine ⟨last, fun nonempty => ?_⟩
  have listedSome : parsed.entries ≠ [] := by
    rw [listed]
    exact fun absent => nonempty (List.map_eq_nil_iff.mp absent)
  have window : file.EndInWindow locals items := by
    by_contra before
    have failed : ParsesTo file heap (.returned ⟨[], [], .eio⟩) :=
      ⟨0, by rw [parseCD, archive.openDirectory_before before last]⟩
    cases parses.unique failed
    exact listedSome rfl
  have full : endCD.offset_of_cd = 0xffffffff := by
    by_contra unsaturated
    obtain ⟨other, failed, absent⟩ := archive.parsesTo_unsaturated window last unsaturated
      (noHeader unsaturated) heap
    cases parses.unique failed
    exact listedSome absent
  refine ⟨window, full, fun item member => item.parsed_eq_actual.mp ?_⟩
  cases parses.unique (archive.parsesTo_saturated window last full heap)
  have same := List.map_inj_left.mp listed item member
  have size : item.parsed.size = item.actual.size := congrArg ZipEntry.length same
  have csize : item.parsed.csize = item.actual.csize := congrArg ZipEntry.compressedLength same
  have headerOffset := item.parsed_headerOffset
  exact Zip64Entry.ext size csize headerOffset

/-- The condition is enough, and it is needed unless a stray signature of an end record, or
of a directory header where the directory is wrongly sought, stands in the file. -/
theorem parseCD_zip64 (archive : file.Zip64 locals items end_cd locator endCD comment)
    (heap : Nat → Nat → UInt8) :
    (file.Zip64Readable locals items endCD → ListsActual file heap items) ∧
      (ListsActual file heap items → file.Zip64Readable locals items endCD ∨
        file.LaterSignature locals items ∨
        (endCD.offset_of_cd ≠ 0xffffffff ∧ file.HeaderBehindStart locals items endCD)) := by
  refine ⟨archive.listsActual heap, fun lists => ?_⟩
  by_cases last : file.LaterSignature locals items
  · exact .inr (.inl last)
  · by_cases stray : endCD.offset_of_cd ≠ 0xffffffff ∧ file.HeaderBehindStart locals items endCD
    · exact .inr (.inr stray)
    · exact .inl (archive.readable lists last fun unsaturated header =>
        stray ⟨unsaturated, header⟩)

end Results

/-! ## A segment of 4 GiB at the start of a file -/

def bigHeader : CDFileHeader := { segmentA.header with
  compression_method := 8, file_size := 0xffffffff, extra_field_len := 12 }

def bigEntry : DirectoryEntry where
  header := bigHeader
  name := [0x61]
  extra := recordBytes 1 (toLE 8 (2 ^ 32))
  comment := []
  fileHeader := { segmentA.fileHeader with
    compression_method := 8, compress_size := 0xffffffff, file_size := 0xffffffff
    extra_field_len := 20 }
  magic := rfl
  nameLength := rfl
  extraLength := by decide
  commentLength := rfl
  fileMagic := rfl

def bigItem : Zip64Item where
  entry := bigEntry
  actual := ⟨0x100000000, 1, 0⟩
  size := .inl rfl
  csize := .inr (by decide)
  headerOffset := .inr (by decide)
  extra := fun _ => ⟨[], [], [], by decide⟩

def bigLocal : Bytes :=
  bigEntry.fileHeader.toBytes ++ ([0x61] ++ (recordBytes 1 (toLE 8 (2 ^ 32) ++ toLE 8 1) ++ [0x78]))

def bigEndCD : Zip64EndCD where
  magic := Zip64EndCD.defaultMagic
  size_of_header := 44
  version_made_by := 45
  version_needed := 45
  number_of_disk := 0
  number_of_disk_with_cd := 0
  number_of_entries_in_volume := 1
  number_of_entries_in_total := 1
  size_of_cd := 59
  offset_of_cd := 52

def bigLocator : Zip64CDLocator := ⟨Zip64CDLocator.defaultMagic, 0, 111, 1⟩

def bigEnd : EndCentralDirectory :=
  { endA with size_of_cd := 59, offset_of_cd := 0xffffffff, comment_len := 0 }

def bigFile : File where
  content := (bigLocal ++ (bigEntry.bytes ++ (bigEndCD.toBytes ++ bigLocator.toBytes))) ++
    (bigEnd.toBytes ++ [])
  small := by decide +kernel

private theorem bigFile_zip64 : bigFile.Zip64 bigLocal [bigItem] bigEndCD bigLocator bigEnd [] where
  content := by
    rw [List.flatMap_cons, List.flatMap_nil, List.append_nil]
    rfl
  magic := rfl
  commentLength := rfl
  count := .inr rfl
  start := .inl rfl
  size := by decide +kernel
  end_cdMagic := rfl
  end_cdCount := rfl
  end_cdStart := by decide +kernel
  end_cdSize := by decide +kernel
  locatorMagic := rfl
  locatorDisk := rfl
  locatorDisks := rfl
  headers := by
    intro item member
    obtain rfl := List.mem_singleton.mp member
    unfold DirectoryEntry.LocalAt
    decide +kernel

/-- The entry is listed with 0xffffffff for its size. -/
theorem size_not_read : bigFile.Zip64 bigLocal [bigItem] bigEndCD bigLocator bigEnd [] ∧
    ParsesTo bigFile (fun _ _ => 0) (.returned
      ⟨[⟨[0x61], 0, 51, 0xffffffff, 1, 8⟩], [], .zero⟩) ∧
    ¬ListsActual bigFile (fun _ _ => 0) [bigItem] := by
  have parses : ParsesTo bigFile (fun _ _ => 0) (.returned
      ⟨[⟨[0x61], 0, 51, 0xffffffff, 1, 8⟩], [], .zero⟩) := ⟨3, by decide +kernel⟩
  refine ⟨bigFile_zip64, parses, ?_⟩
  rintro ⟨parsed, other, listed⟩
  cases other.unique parses
  exact absurd listed (by decide)

theorem parseCD_bigFile :
    (bigFile.Zip64Readable bigLocal [bigItem] bigEnd →
      ListsActual bigFile (fun _ _ => 0) [bigItem]) ∧
    (ListsActual bigFile (fun _ _ => 0) [bigItem] →
      bigFile.Zip64Readable bigLocal [bigItem] bigEnd ∨
      bigFile.LaterSignature bigLocal [bigItem] ∨
      (bigEnd.offset_of_cd ≠ 0xffffffff ∧ bigFile.HeaderBehindStart bigLocal [bigItem] bigEnd)) :=
  parseCD_zip64 bigFile_zip64 fun _ _ => 0

end Aff4Lite.Zip
