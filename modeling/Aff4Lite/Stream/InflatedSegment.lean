import Aff4Lite.Stream.BevvySegment

/-!
# A deflated segment

`ZipSegmentStream::readCompressed` inflates the whole segment and copies the range that was
asked for from a buffer of the declared length, however much of it was inflated to.
-/

set_option autoImplicit false

namespace Aff4Lite.Stream

open Lib Zip Containers

/-- The end of the stream is reported exactly when a complete stream has been decoded within the
room for its output. `decode` gives the content of the complete stream at the start of a
payload. -/
structure Inflates (inflate : Bytes → Nat → Option Bytes) (decode : Bytes → Option Bytes) :
    Prop where
  streamEnd : ∀ payload room content,
    inflate payload room = some content ↔ decode payload = some content ∧ content.length ≤ room

/-- The compressed bytes of an entry, as far as the file has them; `none` where `pread64` refuses
their count. -/
def payload (file : File) (entry : ZipEntry) : Option Bytes :=
  (fileRead file entry.compressedLength entry.offset).toOption

private theorem payload_eq_some {file : File} {entry : ZipEntry} {read : Bytes} :
    payload file entry = some read ↔
      fileRead file entry.compressedLength entry.offset = .delivered read := by
  unfold payload
  cases fileRead file entry.compressedLength entry.offset with
  | failed => simp [ReadResult.toOption]
  | delivered bytes => simp [ReadResult.toOption]

/-- An entry that stores `content` as it is. -/
structure StoredCopy (content : Bytes) (file : File) (entry : ZipEntry) : Prop where
  method : entry.compressionMethod = stored
  length : entry.length.toNat = content.length
  stands : PartAt file.content entry.offset.toNat content

/-- The read fails, or all that was asked for is the content's own bytes, which an entry that
stores the content would give as well. -/
def DeliversContent (inflate : Bytes → Nat → Option Bytes) (length : U64) (content : Option Bytes)
    (count offset : U64) (result : ReadResult) : Prop :=
  result = .failed ∨
    ∃ bytes, content = some bytes ∧
      result = .delivered (slice bytes offset.toNat
        (min count.toNat (length.toNat - offset.toNat))) ∧
      result.bytes.length = min count.toNat (length.toNat - offset.toNat) ∧
      ∀ file entry decompbuffer, StoredCopy bytes file entry →
        readSegment inflate file entry decompbuffer count offset = result

/-! ## Stored copies -/

theorem StoredCopy.read {content : Bytes} {file : File} {entry : ZipEntry}
    (copy : StoredCopy content file entry) (short : content.length ≤ wholeStream.toNat)
    (inflate : Bytes → Nat → Option Bytes) (decompbuffer : Nat → UInt8) {count offset : U64}
    (noOverflow : offset.toNat + count.toNat < 2 ^ 64) :
    readSegment inflate file entry decompbuffer count offset =
      .delivered (slice content offset.toNat count.toNat) := by
  have length := copy.length
  have stands := copy.stands
  have method : entry.compressionMethod ≠ deflate := by
    rw [copy.method]
    decide
  unfold readSegment
  by_cases behind : offset > entry.length
  · rw [if_pos behind, slice_of_length_le (by bv_omega)]
  · have left := toNat_truncateCount (show offset ≤ entry.length by bv_omega) noOverflow
    have transfer : (truncateCount entry.length offset count).toNat ≤ maxTransfer := by
      have bound : wholeStream.toNat ≤ maxTransfer := by decide
      omega
    rw [if_neg behind]
    dsimp only
    rw [if_neg method, if_neg (not_not_intro copy.method), fileRead_eq_slice file transfer, left,
      length]
    congr 1
    by_cases nothing : min count.toNat (content.length - offset.toNat) = 0
    · rw [nothing, slice_zero, ← slice_truncate content, nothing, slice_zero]
    · have inside := stands.inside (List.ne_nil_of_length_pos (by omega))
      have small := file.small
      have position : (offset + entry.offset).toNat = entry.offset.toNat + offset.toNat := by
        rw [toNat_add_of_lt (by omega), Nat.add_comm]
      have part : slice content offset.toNat (min count.toNat (content.length - offset.toNat)) =
          slice file.content (entry.offset.toNat + offset.toNat)
            (min count.toNat (content.length - offset.toNat)) :=
        (congrArg (slice · offset.toNat _) stands.symm).trans
          (slice_slice file.content _ _ _ _ (by omega))
      rw [position, ← part, slice_truncate]

/-! ## Reads of a deflated segment -/

theorem readSegment_deflated (inflate : Bytes → Nat → Option Bytes) (file : File)
    {entry : ZipEntry} (method : entry.compressionMethod = deflate)
    (decompbuffer : Nat → UInt8) {count offset : U64} (inside : offset ≤ entry.length) :
    readSegment inflate file entry decompbuffer count offset =
      readCompressed inflate file entry decompbuffer (truncateCount entry.length offset count)
        offset := by
  unfold readSegment
  rw [if_neg (by bv_omega)]
  exact if_pos method

/-- Without the end of the stream in the declared length every read fails. -/
theorem readCompressed_failed {inflate : Bytes → Nat → Option Bytes} {file : File}
    {entry : ZipEntry}
    (inflated : ∀ read, payload file entry = some read → inflate read entry.length.toNat = none)
    (decompbuffer : Nat → UInt8) (count offset : U64) :
    readCompressed inflate file entry decompbuffer count offset = .failed := by
  unfold readCompressed
  split
  · cases raw : fileRead file entry.compressedLength entry.offset with
    | failed => rfl
    | delivered read =>
        dsimp only
        rw [inflated read (payload_eq_some.mpr raw)]
  · rfl

/-- With the end of the stream in the declared length the read is the content's exactly when the
content reaches to the end of what is asked for. -/
theorem readCompressed_delivers_iff {container : ZipContainer} {entry : ZipEntry}
    (small : entry.length ≤ wholeStream) {read content : Bytes}
    (raw : payload container.file entry = some read)
    (inflated : container.inflate read entry.length.toNat = some content)
    (room : content.length ≤ entry.length.toNat)
    {count offset : U64} (inside : offset ≤ entry.length)
    (noOverflow : offset.toNat + count.toNat < 2 ^ 64) :
    (∀ decompbuffer, DeliversContent container.inflate entry.length (some content) count offset
        (readCompressed container.inflate container.file entry decompbuffer
          (truncateCount entry.length offset count) offset)) ↔
      min count.toNat (entry.length.toNat - offset.toNat) = 0 ∨
        offset.toNat + min count.toNat (entry.length.toNat - offset.toNat) ≤ content.length := by
  have left := toNat_truncateCount inside noOverflow
  have delivered := readCompressed_iff container entry (truncateCount entry.length offset count)
    offset (slice content offset.toNat (min count.toNat (entry.length.toNat - offset.toNat)))
  rw [payload_eq_some.mp raw, left] at delivered
  constructor
  · intro delivers
    obtain ⟨_, _, _, sameRead, same, fits, _⟩ := delivered.mp fun decompbuffer => by
      rcases delivers decompbuffer with failed | ⟨bytes, same, result, _⟩
      · rw [readCompressed_inflated small (payload_eq_some.mp raw) inflated] at failed
        cases failed
      · cases same
        exact result
    cases sameRead
    cases inflated.symm.trans same
    exact fits
  · intro fits decompbuffer
    have whole : min count.toNat (entry.length.toNat - offset.toNat) = count.toNat ∨
        content.length ≤ offset.toNat +
          min count.toNat (entry.length.toNat - offset.toNat) := by
      clear delivered
      omega
    have result := delivered.mpr ⟨small, read, content, rfl, inflated, fits, rfl⟩ decompbuffer
    refine .inr ⟨content, rfl, result, ?_, ?_⟩
    · rw [result, ReadResult.bytes_delivered, length_slice]
      omega
    · intro file copy buffer stores
      have same := (slice_eq_iff content offset.toNat (Nat.min_le_left _ _)).mpr whole
      rw [result, stores.read (room.trans small) container.inflate buffer noOverflow, same]

/-- A deflated segment is read as its content exactly when the content does not fit into the
declared length (and the read fails), or reaches to the end of what is asked for. -/
theorem readSegment_deflated_iff {container : ZipContainer} {decode : Bytes → Option Bytes}
    (zlib : Inflates container.inflate decode) {entry : ZipEntry}
    (method : entry.compressionMethod = deflate) (small : entry.length ≤ wholeStream)
    {count offset : U64} (inside : offset ≤ entry.length)
    (noOverflow : offset.toNat + count.toNat < 2 ^ 64) :
    (∀ decompbuffer, DeliversContent container.inflate entry.length
        ((payload container.file entry).bind decode) count offset
        (readSegment container.inflate container.file entry decompbuffer count offset)) ↔
      ∀ content, (payload container.file entry).bind decode = some content →
        entry.length.toNat < content.length ∨
          min count.toNat (entry.length.toNat - offset.toNat) = 0 ∨
          offset.toNat + min count.toNat (entry.length.toNat - offset.toNat) ≤
            content.length := by
  simp only [readSegment_deflated container.inflate container.file method _ inside]
  cases raw : payload container.file entry with
  | none =>
      have failed : ∀ decompbuffer count offset, readCompressed container.inflate container.file
          entry decompbuffer count offset = .failed :=
        readCompressed_failed fun _ found => nomatch raw.symm.trans found
      exact ⟨fun _ _ decoded => absurd decoded (by simp),
        fun _ decompbuffer => .inl (failed decompbuffer _ offset)⟩
  | some read =>
      rw [Option.bind_some]
      cases inflated : container.inflate read entry.length.toNat with
      | none =>
          have failed : ∀ decompbuffer count offset, readCompressed container.inflate
              container.file entry decompbuffer count offset = .failed := by
            refine readCompressed_failed fun other found => ?_
            cases raw.symm.trans found
            exact inflated
          refine ⟨?_, fun _ decompbuffer => .inl (failed decompbuffer _ offset)⟩
          intro _ content decoded
          by_contra fits
          have ended := (zlib.streamEnd _ _ _).mpr ⟨decoded, show content.length ≤
            entry.length.toNat by omega⟩
          rw [inflated] at ended
          cases ended
      | some content =>
          obtain ⟨decoded, room⟩ := (zlib.streamEnd _ _ _).mp inflated
          rw [decoded, readCompressed_delivers_iff small raw inflated room inside noOverflow]
          constructor
          · intro fits other same
            cases same
            exact .inr fits
          · intro reaches
            exact (reaches content rfl).resolve_left (by omega)

/-- The content of a DEFLATE stream of one uncompressed block. -/
def decodeBlock : Bytes → Option Bytes
  | 1 :: low :: high :: _ :: _ :: rest =>
      let length := low.toNat + 256 * high.toNat
      if length ≤ rest.length then some (rest.take length) else none
  | _ => none

def inflateBlock (input : Bytes) (room : Nat) : Option Bytes :=
  (decodeBlock input).filter fun content => content.length ≤ room

private theorem inflateBlock_inflates : Inflates inflateBlock decodeBlock where
  streamEnd payload room content := by
    unfold inflateBlock
    rw [Option.filter_eq_some_iff, decide_eq_true_iff]

/-- A segment of two bytes, in one block, with a declared length of its own. -/
def blockContainer : ZipContainer where
  file := ⟨[1, 2, 0, 0xfd, 0xff, 0x41, 0x42], by decide⟩
  entries := []
  resourceID := text "aff4://c"
  inflate := inflateBlock

def blockEntry (length : U64) : ZipEntry := ⟨text "s", 0, 0, length, 7, deflate⟩

theorem readSegment_deflated_iff_block :
    (∀ decompbuffer, DeliversContent blockContainer.inflate (blockEntry 2).length
        ((payload blockContainer.file (blockEntry 2)).bind decodeBlock) 1 1
        (readSegment blockContainer.inflate blockContainer.file (blockEntry 2) decompbuffer 1 1)) ↔
      ∀ content, (payload blockContainer.file (blockEntry 2)).bind decodeBlock = some content →
        (blockEntry 2).length.toNat < content.length ∨
          min (1 : U64).toNat ((blockEntry 2).length.toNat - (1 : U64).toNat) = 0 ∨
          (1 : U64).toNat + min (1 : U64).toNat ((blockEntry 2).length.toNat - (1 : U64).toNat) ≤
            content.length :=
  readSegment_deflated_iff inflateBlock_inflates rfl (by decide) (by decide) (by decide)

/-- Four bytes are declared, two are inflated, four are delivered. -/
theorem uninflated_bytes_delivered :
    (payload blockContainer.file (blockEntry 4)).bind decodeBlock = some [0x41, 0x42] ∧
      readSegment blockContainer.inflate blockContainer.file (blockEntry 4) (fun _ => 0xaa) 4 0 =
        .delivered [0x41, 0x42, 0xaa, 0xaa] ∧
      ¬ ∀ decompbuffer, DeliversContent blockContainer.inflate (blockEntry 4).length
        ((payload blockContainer.file (blockEntry 4)).bind decodeBlock) 4 0
        (readSegment blockContainer.inflate blockContainer.file (blockEntry 4) decompbuffer
          4 0) := by
  have decoded : (payload blockContainer.file (blockEntry 4)).bind decodeBlock =
      some [0x41, 0x42] := by decide
  have result : readSegment blockContainer.inflate blockContainer.file (blockEntry 4)
      (fun _ => 0xaa) 4 0 = .delivered [0x41, 0x42, 0xaa, 0xaa] := by decide
  refine ⟨decoded, result, ?_⟩
  intro delivers
  rcases delivers fun _ => 0xaa with failed | ⟨bytes, same, delivered, _⟩
  · rw [result] at failed
    cases failed
  · rw [decoded] at same
    cases same
    rw [result] at delivered
    exact absurd delivered (by decide)

end Aff4Lite.Stream
