import Aff4Lite.Zip.Archive

/-!
# The search for the end record

`parseCD` looks for the last end record in the final 4096 bytes, and reads the archive
comment behind it. The loop stops before position 0 of the window, and `strlen` runs over
the comment without regard to how much of it was read.
-/

set_option autoImplicit false

namespace Aff4Lite.Zip

open Lib

/-- How the search over the buffer ends. -/
inductive EndSearch where
  | failed
  | nullDereference
  | found (i : Nat)
  deriving DecidableEq, Repr

def searchBuffer (buffer : Bytes) : EndSearch :=
  if buffer.length < EndCentralDirectory.sizeof then .failed
  else if buffer.length = EndCentralDirectory.sizeof then .nullDereference
  else
    match scanBack buffer (buffer.length - EndCentralDirectory.sizeof) with
    | none => .failed
    | some i => .found i

/-- The first position of the window: the last `min(4096, length)` bytes of the file. -/
def File.tailStart (file : File) : Nat := file.content.length - 4096

def File.endSearch (file : File) : EndSearch :=
  searchBuffer (fileRead file file.tailCount (file.length - file.tailCount)).bytes

/-- The end record at a position, in whatever bytes stand there. -/
def File.endCD (file : File) (position : Nat) : EndCentralDirectory :=
  .ofBytes (file.content.drop position)

/-- What `parseCD` reads of the comment behind the end record at `position`. -/
def File.commentBytes (file : File) (position : Nat) : Bytes :=
  if (file.endCD position).comment_len.toNat > 0 then
    (fileRead file ((file.endCD position).comment_len.setWidth 64)
      (BitVec.ofNat 64 position + BitVec.ofNat 64 EndCentralDirectory.sizeof)).bytes
  else []

theorem readComment_eq (file : File) (position : Nat) :
    readComment file (file.endCD position) (BitVec.ofNat 64 position) =
      (file.commentBytes position).takeWhile fun byte => byte ≠ 0 := by
  unfold readComment File.commentBytes
  split <;> rfl

private theorem File.read_tailStart (file : File) :
    (fileRead file file.tailCount (file.length - file.tailCount)).bytes =
      file.content.drop file.tailStart := file.read_tail

/-- What `parseCD` does after the search. -/
def File.afterSearch (file : File) (heap : Nat → Nat → UInt8) : EndSearch → ParseEnd ⊕ ParseContext
  | .failed => .inl (.returned ⟨[], [], .eio⟩)
  | .nullDereference => .inl .nullDereference
  | .found i =>
      enterDirectory file heap (file.endCD (file.tailStart + i))
        (BitVec.ofNat 64 (file.tailStart + i))

private theorem scanBuffer_search (file : File) (heap : Nat → Nat → UInt8) (buffer : Bytes)
    (bufferStart : U64) :
    scanBuffer file heap buffer bufferStart =
      match searchBuffer buffer with
      | .failed => .inl (.returned ⟨[], [], .eio⟩)
      | .nullDereference => .inl .nullDereference
      | .found i =>
          enterDirectory file heap (EndCentralDirectory.ofBytes (buffer.drop i))
            (bufferStart + BitVec.ofNat 64 i) := by
  unfold scanBuffer searchBuffer
  split
  · rfl
  · split
    · rfl
    · cases scanBack buffer (buffer.length - EndCentralDirectory.sizeof) with
      | none => rfl
      | some i => rfl

private theorem openDirectory_search (file : File) (heap : Nat → Nat → UInt8) :
    openDirectory file heap = file.afterSearch heap file.endSearch := by
  have start : file.content.length - 4096 = file.tailStart := rfl
  rw [openDirectory_eq, scanBuffer_search, File.endSearch, file.read_tailStart, start]
  cases searchBuffer (file.content.drop file.tailStart) with
  | failed => rfl
  | nullDereference => rfl
  | found i =>
      dsimp only [File.afterSearch, File.endCD]
      rw [List.drop_drop, BitVec.ofNat_add]

/-! ## What the search finds -/

theorem scanBack_eq_none {buffer : Bytes} {count : Nat} :
    scanBack buffer count = none ↔
      ∀ position, 0 < position → position ≤ count → ¬EndMagicAt buffer position := by
  cases scanned : scanBack buffer count with
  | some found =>
      obtain ⟨positive, bounded, magic, _⟩ := scanBack_eq_some.mp scanned
      simp only [reduceCtorEq, false_iff]
      exact fun nowhere => nowhere found positive bounded magic
  | none =>
      simp only [true_iff]
      induction count with
      | zero => exact fun position positive bounded => absurd bounded (by omega)
      | succ count ih =>
          rw [scanBack] at scanned
          split at scanned
          · cases scanned
          · rename_i absent
            intro position positive bounded
            by_cases same : position = count + 1
            · rw [same, ← endMagic_drop]
              exact absent
            · exact ih scanned position positive (by omega)

private theorem searchBuffer_found {buffer : Bytes} {i : Nat} :
    searchBuffer buffer = .found i ↔
      buffer.length ≠ EndCentralDirectory.sizeof ∧ 0 < i ∧
        i + EndCentralDirectory.sizeof ≤ buffer.length ∧ EndMagicAt buffer i ∧
        ∀ later, i < later → later + EndCentralDirectory.sizeof ≤ buffer.length →
          ¬EndMagicAt buffer later := by
  unfold searchBuffer EndCentralDirectory.sizeof
  constructor
  · intro searched
    split at searched
    · cases searched
    · split at searched
      · cases searched
      · cases scanned : scanBack buffer (buffer.length - 22) with
        | none => simp [scanned] at searched
        | some found =>
            simp only [scanned, EndSearch.found.injEq] at searched
            subst searched
            obtain ⟨positive, bounded, magic, last⟩ := scanBack_eq_some.mp scanned
            exact ⟨by omega, positive, by omega, magic,
              fun later after within => last later after (by omega)⟩
  · rintro ⟨long, positive, bounded, magic, last⟩
    have scanned : scanBack buffer (buffer.length - 22) = some i :=
      scanBack_eq_some.mpr ⟨positive, by omega, magic,
        fun later after within => last later after (by omega)⟩
    rw [if_neg (by omega), if_neg long, scanned]

private theorem searchBuffer_failed {buffer : Bytes}
    (long : buffer.length ≠ EndCentralDirectory.sizeof) :
    searchBuffer buffer = .failed ↔
      ∀ position, 0 < position → position + EndCentralDirectory.sizeof ≤ buffer.length →
        ¬EndMagicAt buffer position := by
  unfold searchBuffer EndCentralDirectory.sizeof at *
  by_cases short : buffer.length < 22
  · rw [if_pos short]
    simp only [true_iff]
    exact fun position positive whole => absurd whole (by omega)
  · rw [if_neg short, if_neg long]
    cases scanned : scanBack buffer (buffer.length - 22) with
    | none =>
        simp only [true_iff]
        exact fun position positive whole =>
          scanBack_eq_none.mp scanned position positive (by omega)
    | some found =>
        obtain ⟨positive, bounded, magic, _⟩ := scanBack_eq_some.mp scanned
        simp only [reduceCtorEq, false_iff]
        exact fun nowhere => nowhere found positive (by omega) magic

private theorem searchBuffer_null {buffer : Bytes} :
    searchBuffer buffer = .nullDereference ↔ buffer.length = EndCentralDirectory.sizeof := by
  unfold searchBuffer
  split
  · simp only [reduceCtorEq, false_iff]
    omega
  · split
    · simpa
    · cases scanBack buffer (buffer.length - EndCentralDirectory.sizeof) with
      | none => simpa
      | some i => simpa

/-- A whole end record with its signature, inside the window. -/
structure EndRecordAt (file : File) (position : Nat) : Prop where
  window : file.tailStart ≤ position
  whole : position + EndCentralDirectory.sizeof ≤ file.content.length
  magic : EndMagicAt file.content position

private theorem endRecordAt_tail {file : File} {i : Nat} :
    EndRecordAt file (file.tailStart + i) ↔
      i + EndCentralDirectory.sizeof ≤ (file.content.drop file.tailStart).length ∧
        EndMagicAt (file.content.drop file.tailStart) i := by
  have inside : file.tailStart ≤ file.content.length := Nat.sub_le _ _
  have moved : EndMagicAt (file.content.drop file.tailStart) i ↔
      EndMagicAt file.content (file.tailStart + i) := by
    unfold EndMagicAt wordAt
    rw [List.drop_drop]
  rw [List.length_drop, moved]
  constructor
  · rintro ⟨_, whole, magic⟩
    exact ⟨by omega, magic⟩
  · rintro ⟨whole, magic⟩
    exact ⟨by omega, by unfold EndCentralDirectory.sizeof at *; omega, magic⟩

private theorem length_tail_iff (file : File) :
    (file.content.drop file.tailStart).length = EndCentralDirectory.sizeof ↔
      file.content.length = EndCentralDirectory.sizeof := by
  unfold File.tailStart EndCentralDirectory.sizeof
  rw [List.length_drop]
  omega

private theorem endSearch_null_iff (file : File) :
    file.endSearch = .nullDereference ↔ file.content.length = EndCentralDirectory.sizeof := by
  rw [File.endSearch, file.read_tailStart, searchBuffer_null, length_tail_iff]

/-- The last end record of the window, unless it stands at the first position. -/
theorem endSearch_found {file : File} {i : Nat} (searched : file.endSearch = .found i) :
    0 < i ∧ IsGreatest {position | EndRecordAt file position} (file.tailStart + i) := by
  rw [File.endSearch, file.read_tailStart] at searched
  obtain ⟨_, positive, bounded, magic, last⟩ := searchBuffer_found.mp searched
  refine ⟨positive, endRecordAt_tail.mpr ⟨bounded, magic⟩, ?_⟩
  intro position record
  obtain ⟨later, rfl⟩ := Nat.exists_eq_add_of_le record.window
  obtain ⟨whole, laterMagic⟩ := endRecordAt_tail.mp record
  by_contra after
  exact last later (by omega) whole laterMagic

private theorem endSearch_failed {file : File}
    (long : file.content.length ≠ EndCentralDirectory.sizeof) :
    file.endSearch = .failed ↔
      ∀ position, EndRecordAt file position → position = file.tailStart := by
  rw [File.endSearch, file.read_tailStart,
    searchBuffer_failed (fun short => long ((length_tail_iff file).mp short))]
  constructor
  · intro nowhere position record
    obtain ⟨later, rfl⟩ := Nat.exists_eq_add_of_le record.window
    obtain ⟨whole, magic⟩ := endRecordAt_tail.mp record
    by_contra behind
    exact nowhere later (by omega) whole magic
  · intro onlyFirst later positive whole magic
    have first := onlyFirst _ (endRecordAt_tail.mpr ⟨whole, magic⟩)
    omega

/-! ## The comment -/

/-- `strlen` looks at a byte when no byte before it is NUL. -/
def StrlenLooksAt (memory : Nat → UInt8) (index : Nat) : Prop :=
  ∀ earlier, earlier < index → memory earlier ≠ 0

/-- `strlen` of a buffer stays inside the bytes that were read into it exactly when one of
them is NUL, whatever the rest of the memory holds. -/
theorem strlen_inside_iff (heap : Nat → UInt8) (bytes : Bytes) :
    (∀ index, StrlenLooksAt (store heap 0 bytes) index → index < bytes.length) ↔ 0 ∈ bytes := by
  constructor
  · intro inside
    by_contra absent
    have looks : StrlenLooksAt (store heap 0 bytes) bytes.length := by
      intro earlier before
      have found := List.getElem?_eq_getElem before
      have stored := store_inside heap 0 found
      rw [Nat.zero_add] at stored
      rw [stored]
      exact fun nul => absent (nul ▸ List.getElem_mem before)
    exact absurd (inside _ looks) (lt_irrefl _)
  · intro member index looks
    obtain ⟨nul, found⟩ := List.mem_iff_getElem?.mp member
    obtain ⟨below, _⟩ := List.getElem?_eq_some_iff.mp found
    have stored := store_inside heap 0 found
    rw [Nat.zero_add] at stored
    by_contra outside
    exact looks nul (by omega) stored

private theorem takeWhile_eq_take {bytes : Bytes} {l : Nat}
    (before : ∀ earlier, earlier < l → bytes[earlier]? ≠ some 0)
    (stops : l < bytes.length → bytes[l]? = some 0) :
    (bytes.takeWhile fun byte => byte ≠ 0) = bytes.take l := by
  induction bytes generalizing l with
  | nil => simp
  | cons byte rest ih =>
      cases l with
      | zero =>
          obtain rfl : byte = 0 := by simpa using stops
          rfl
      | succ l =>
          have different : byte ≠ 0 := by simpa using before 0 (Nat.succ_pos l)
          rw [List.takeWhile_cons_of_pos (by simpa using different), List.take_succ_cons]
          congr 1
          exact ih (fun earlier early => by simpa using before (earlier + 1) (by omega))
            fun inside => by simpa using stops (by simpa using inside)

/-- The comment is `std::string(commentBuffer, min(strlen(commentBuffer), res))`. -/
theorem comment_eq_take {heap : Nat → UInt8} {bytes : Bytes} {l : Nat}
    (looks : StrlenLooksAt (store heap 0 bytes) l) (stops : store heap 0 bytes l = 0) :
    (bytes.takeWhile fun byte => byte ≠ 0) = bytes.take (min l bytes.length) := by
  have stored : ∀ index byte, bytes[index]? = some byte → store heap 0 bytes index = byte := by
    intro index byte found
    have inside := store_inside heap 0 found
    rwa [Nat.zero_add] at inside
  rw [← List.take_eq_take_min]
  refine takeWhile_eq_take ?_ ?_
  · exact fun earlier early nul => looks earlier early (stored earlier 0 nul)
  · intro inside
    have found := List.getElem?_eq_getElem inside
    rw [found, ← stored l _ found, stops]

/-! ## The last signature in the window -/

/-- The search works over the whole window and touches only bytes that were read. -/
structure SearchesWindow (file : File) (heap : Nat → UInt8) : Prop where
  dereferences : file.endSearch ≠ .nullDereference
  selects : ∀ i, file.endSearch = .found i →
    IsGreatest {position | EndRecordAt file position} (file.tailStart + i)
  fails : file.endSearch = .failed ↔ ∀ position, ¬EndRecordAt file position
  commentInside : ∀ i, file.endSearch = .found i →
    0 < (file.commentBytes (file.tailStart + i)).length → ∀ index,
      StrlenLooksAt (store heap 0 (file.commentBytes (file.tailStart + i))) index →
      index < (file.commentBytes (file.tailStart + i)).length

/-- `parseCD` goes by a search that works when the file is not 22 bytes long, its last end
record is not the one at the first position of the window, and the comment bytes that were
read, if any, contain a NUL. -/
theorem searchesWindow_iff (file : File) (fresh : Nat → Nat → UInt8) (heap : Nat → UInt8) :
    openDirectory file fresh = file.afterSearch fresh file.endSearch ∧
    (SearchesWindow file heap ↔
      file.content.length ≠ EndCentralDirectory.sizeof ∧
      ∀ position, IsGreatest {position | EndRecordAt file position} position →
        position ≠ file.tailStart ∧
          (file.commentBytes position = [] ∨ 0 ∈ file.commentBytes position)) := by
  refine ⟨openDirectory_search file fresh, ?_⟩
  constructor
  · intro searches
    have long := fun short => searches.dereferences ((endSearch_null_iff file).mpr short)
    refine ⟨long, ?_⟩
    intro position greatest
    cases searched : file.endSearch with
    | nullDereference => exact absurd searched searches.dereferences
    | failed => exact absurd greatest.1 (searches.fails.mp searched position)
    | found i =>
        obtain ⟨positive, last⟩ := endSearch_found searched
        rw [greatest.unique last]
        refine ⟨Nat.ne_of_gt (Nat.lt_add_of_pos_right positive), ?_⟩
        by_cases nothing : file.commentBytes (file.tailStart + i) = []
        · exact .inl nothing
        · exact .inr ((strlen_inside_iff heap _).mp
            (searches.commentInside i searched (List.length_pos_iff.mpr nothing)))
  · rintro ⟨long, regular⟩
    refine ⟨fun null => long ((endSearch_null_iff file).mp null),
      fun i searched => (endSearch_found searched).2, ?_, ?_⟩
    · rw [endSearch_failed long]
      constructor
      · intro onlyFirst position record
        rw [onlyFirst position record] at record
        exact (regular file.tailStart
          ⟨record, fun other otherRecord => (onlyFirst other otherRecord).le⟩).1 rfl
      · exact fun nowhere position record => absurd record (nowhere position)
    · intro i searched nonempty
      obtain ⟨_, last⟩ := endSearch_found searched
      rcases (regular _ last).2 with nothing | nul
      · exact absurd nonempty (by simp [nothing])
      · exact (strlen_inside_iff heap _).mpr nul

def bareEnd : EndCentralDirectory := { endA with
  size_of_cd := 0, offset_of_cd := 0, total_entries_in_cd_on_disk := 0, total_entries_in_cd := 0,
  comment_len := 0 }

/-- An empty archive. -/
def endOnly : File where
  content := bareEnd.toBytes
  small := by decide +kernel

/-- An empty archive with a comment. -/
def commented : File where
  content := EndCentralDirectory.toBytes { bareEnd with comment_len := 1 } ++ [0]
  small := by decide +kernel

/-- A file of one end record, an end record at the first position, a comment without NUL. -/
theorem search_misses_window :
    ¬SearchesWindow endOnly (fun _ => 0) ∧ EndRecordAt endOnly 0 ∧
      ¬SearchesWindow commented (fun _ => 0) ∧ EndRecordAt commented 0 ∧
      ¬SearchesWindow archiveA (fun _ => 0) := by
  have atStart : EndRecordAt commented 0 :=
    ⟨by decide +kernel, by decide +kernel, by decide +kernel⟩
  refine ⟨fun searches => ?_, ⟨by decide +kernel, by decide +kernel, by decide +kernel⟩,
    fun searches => ?_, atStart, fun searches => ?_⟩
  · exact searches.dereferences (by decide +kernel)
  · exact searches.fails.mp (by decide +kernel) 0 atStart
  · have found : archiveA.endSearch = .found 81 := by decide +kernel
    have comment : archiveA.commentBytes (archiveA.tailStart + 81) = [0x63] := by decide +kernel
    have inside := searches.commentInside 81 found (by rw [comment]; decide)
    rw [comment] at inside
    refine absurd (inside 1 ?_) (by decide)
    intro earlier before
    obtain rfl : earlier = 0 := by omega
    decide

end Aff4Lite.Zip
