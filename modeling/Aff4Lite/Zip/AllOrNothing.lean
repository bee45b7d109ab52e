import Aff4Lite.Zip.Archive

/-!
# Directories that are read in part

`parseCD` leaves its entries in place when it gives up on a later one, and does not look at
how much of a name was read. `ReadsEntries` follows the directory from the file alone, so
that the outcome can be compared with what the directory announces.
-/

set_option autoImplicit false

namespace Aff4Lite.Zip

open Lib

namespace ParseContext

/-- The walk over the extra field of an entry from `hOffset` to its end. -/
inductive Walks (context : ParseContext) : Pending → U16 → Pending → Prop where
  | ended {pending : Pending} {hOffset : U16} :
      pending.entry.extra_field_len ≤ hOffset → Walks context pending hOffset pending
  | record {pending final : Pending} {hOffset : U16} {extraHeader : ZipExtraFieldHeader} :
      hOffset < pending.entry.extra_field_len →
      context.extraHeader pending hOffset = some extraHeader →
      Walks context { pending with zipEntry := context.extraValues pending hOffset extraHeader }
        (nextOffset hOffset extraHeader) final →
      Walks context pending hOffset final

/-- What is known of an entry when its local header is looked for. -/
def Resolves (context : ParseContext) (pending final : Pending) : Prop :=
  if saturated pending.zipEntry.headerOffset then context.Walks pending 0 final
  else final = pending

/-- The entry at which the directory loop stands can be read, and `next` follows it. -/
structure ReadsEntry (context : ParseContext) (state next : DirectoryState) (entry : CDFileHeader)
    (final : Pending) (fileHeader : ZipFileHeader) : Prop where
  header : readCDFileHeader context.file (context.position state) = some entry
  resolves : context.Resolves (context.pending state entry) final
  localHeader : readZipFileHeader context.file final.zipEntry.headerOffset = some fileHeader
  next : next = nextState final fileHeader

/-- The directory loop stands at `state` when `count` entries were read. -/
inductive ReadsEntries (context : ParseContext) : Nat → DirectoryState → Prop where
  | start : ReadsEntries context 0 ⟨0, context.directory.offset, []⟩
  | entry {count : Nat} {state next : DirectoryState} {entry : CDFileHeader} {final : Pending}
      {fileHeader : ZipFileHeader} : ReadsEntries context count state →
      context.ReadsEntry state next entry final fileHeader → ReadsEntries context (count + 1) next

/-- All bytes of the name of the entry at `state` are in the file. -/
def NameInside (context : ParseContext) (state : DirectoryState) : Prop :=
  ∀ entry, readCDFileHeader context.file (context.position state) = some entry →
    (context.position state).toNat + CDFileHeader.sizeof + entry.file_name_length.toNat ≤
      context.file.content.length

/-- The directory announces nothing, its first entry cannot be read, or all of them can, with
their names. -/
def Intact (context : ParseContext) : Prop :=
  context.directory.numberOfEntries = 0 ∨
  (∀ next, ¬context.ReadsEntries 1 next) ∨
  ((∃ last, context.ReadsEntries context.directory.numberOfEntries.toNat last) ∧
    ∀ count state, count < context.directory.numberOfEntries.toNat →
      context.ReadsEntries count state → context.NameInside state)

variable {context : ParseContext}

/-! ## The reading is determined by the file -/

theorem Walks.unique {pending left right : Pending} {hOffset : U16}
    (first : context.Walks pending hOffset left) (second : context.Walks pending hOffset right) :
    left = right := by
  induction first with
  | ended finished =>
      cases second with
      | ended _ => rfl
      | record more _ _ => exact absurd finished (BitVec.not_le.mpr more)
  | record more found _ ih =>
      cases second with
      | ended finished => exact absurd finished (BitVec.not_le.mpr more)
      | record _ again rest =>
          cases found.symm.trans again
          exact ih rest

/-- The walk changes the values of the entry only. -/
theorem Walks.keeps {pending final : Pending} {hOffset : U16}
    (walks : context.Walks pending hOffset final) :
    final.outer = pending.outer ∧ final.segmentName = pending.segmentName := by
  induction walks with
  | ended _ => exact ⟨rfl, rfl⟩
  | record _ _ _ ih => exact ih

theorem Resolves.unique {pending left right : Pending} (first : context.Resolves pending left)
    (second : context.Resolves pending right) : left = right := by
  unfold Resolves at first second
  split at first
  · rename_i full
    rw [if_pos full] at second
    exact first.unique second
  · rename_i unsaturated
    rw [if_neg unsaturated] at second
    exact first.trans second.symm

theorem Resolves.keeps {pending final : Pending} (resolves : context.Resolves pending final) :
    final.outer = pending.outer ∧ final.segmentName = pending.segmentName := by
  unfold Resolves at resolves
  split at resolves
  · exact resolves.keeps
  · rw [resolves]
    exact ⟨rfl, rfl⟩

section Entry

variable {state next other : DirectoryState} {entry otherEntry : CDFileHeader}
  {final otherFinal : Pending} {fileHeader otherHeader : ZipFileHeader}

theorem ReadsEntry.unique (first : context.ReadsEntry state next entry final fileHeader)
    (second : context.ReadsEntry state other otherEntry otherFinal otherHeader) :
    next = other := by
  cases first.header.symm.trans second.header
  cases first.resolves.unique second.resolves
  cases first.localHeader.symm.trans second.localHeader
  exact first.next.trans second.next.symm

theorem ReadsEntry.entries (reads : context.ReadsEntry state next entry final fileHeader) :
    next.i = state.i + 1 ∧ ∃ listed, next.entries = state.entries ++ [listed] ∧
      listed.segmentName = context.readName state entry := by
  obtain ⟨outer, name⟩ := reads.resolves.keeps
  rw [reads.next, nextState, outer]
  exact ⟨rfl, _, rfl, name⟩

end Entry

theorem ReadsEntries.unique {count : Nat} {left right : DirectoryState}
    (first : context.ReadsEntries count left) (second : context.ReadsEntries count right) :
    left = right := by
  induction first generalizing right with
  | start =>
      cases second
      rfl
  | entry _ reads ih =>
      cases second with
      | entry before again =>
          cases ih before
          exact reads.unique again

theorem ReadsEntries.before {count earlier : Nat} {state : DirectoryState}
    (reads : context.ReadsEntries count state) (early : earlier ≤ count) :
    ∃ before, context.ReadsEntries earlier before := by
  induction reads with
  | start =>
      obtain rfl : earlier = 0 := by omega
      exact ⟨_, .start⟩
  | @entry count _ next _ _ _ first last ih =>
      by_cases same : earlier = count + 1
      · exact ⟨next, same ▸ .entry first last⟩
      · exact ih (by omega)

theorem ReadsEntries.counts {count : Nat} {state : DirectoryState}
    (reads : context.ReadsEntries count state) :
    state.entries.length = count ∧ state.i = BitVec.ofNat 64 count := by
  induction reads with
  | start => exact ⟨rfl, rfl⟩
  | entry _ last ih =>
      obtain ⟨step, listed, appended, _⟩ := last.entries
      rw [appended, step, List.length_append, ih.1, ih.2, BitVec.ofNat_add]
      exact ⟨rfl, rfl⟩

theorem ReadsEntries.named {count : Nat} {state : DirectoryState}
    (reads : context.ReadsEntries count state) {index : Nat} {listed : ZipEntry}
    (found : state.entries[index]? = some listed) :
    ∃ before entry, context.ReadsEntries index before ∧
      readCDFileHeader context.file (context.position before) = some entry ∧
      listed.segmentName = context.readName before entry := by
  induction reads with
  | start => simp at found
  | @entry count before _ entry _ _ first last ih =>
      obtain ⟨_, added, appended, name⟩ := last.entries
      rw [appended] at found
      by_cases early : index < before.entries.length
      · rw [List.getElem?_append_left early] at found
        exact ih found
      · have bound := (List.getElem?_eq_some_iff.mp found).1
        rw [List.length_append, List.length_singleton] at bound
        obtain rfl : index = before.entries.length := by omega
        rw [List.getElem?_concat_length] at found
        cases found
        exact ⟨before, entry, first.counts.1 ▸ first, last.header, name⟩

/-! ## The loops -/

/-- The loops read what `ReadsEntries` reads: at the extra field of an entry, what is left of
the walk decides what the walk over the whole field gives. -/
def Follows (context : ParseContext) : ParseState → Prop
  | .directory state => ∃ count, count ≤ context.directory.numberOfEntries.toNat ∧
      context.ReadsEntries count state
  | .extra pending hOffset => ∃ count entry, count < context.directory.numberOfEntries.toNat ∧
      context.ReadsEntries count pending.outer ∧
      readCDFileHeader context.file (context.position pending.outer) = some entry ∧
      ∀ final, context.Resolves (context.pending pending.outer entry) final ↔
        context.Walks pending hOffset final

private theorem walks_ended_iff {pending final : Pending} {hOffset : U16}
    (finished : pending.entry.extra_field_len ≤ hOffset) :
    context.Walks pending hOffset final ↔ final = pending :=
  ⟨fun walks => walks.unique (.ended finished), fun same => by rw [same]; exact .ended finished⟩

private theorem walks_record_iff {pending final : Pending} {hOffset : U16}
    {extraHeader : ZipExtraFieldHeader} (more : hOffset < pending.entry.extra_field_len)
    (found : context.extraHeader pending hOffset = some extraHeader) :
    context.Walks pending hOffset final ↔
      context.Walks { pending with zipEntry := context.extraValues pending hOffset extraHeader }
        (nextOffset hOffset extraHeader) final := by
  refine ⟨fun walks => ?_, .record more found⟩
  cases walks with
  | ended finished => exact absurd finished (BitVec.not_le.mpr more)
  | record _ again rest =>
      cases found.symm.trans again
      exact rest

private theorem not_walks {pending final : Pending} {hOffset : U16}
    (more : hOffset < pending.entry.extra_field_len)
    (missing : context.extraHeader pending hOffset = none) :
    ¬context.Walks pending hOffset final := by
  intro walks
  cases walks with
  | ended finished => exact absurd finished (BitVec.not_le.mpr more)
  | record _ found _ => cases missing.symm.trans found

/-- The count of entries when the directory loop stands at `state` with more to read. -/
theorem ReadsEntries.toNat_index {count : Nat} {state : DirectoryState}
    (reads : context.ReadsEntries count state)
    (bounded : count ≤ context.directory.numberOfEntries.toNat) :
    state.i.toNat = count := by
  have limit := context.directory.numberOfEntries.isLt
  rw [reads.counts.2, BitVec.toNat_ofNat, Nat.mod_eq_of_lt (by omega)]

private theorem finishEntry_reads {count : Nat} {state : DirectoryState} {entry : CDFileHeader}
    {pending : Pending} {after : ParseState}
    (bounded : count < context.directory.numberOfEntries.toNat)
    (reads : context.ReadsEntries count state)
    (header : readCDFileHeader context.file (context.position state) = some entry)
    (resolves : context.Resolves (context.pending state entry) pending)
    (moved : context.finishEntry pending = .next after) : context.Follows after := by
  obtain ⟨fileHeader, localHeader, rfl⟩ := finishEntry_next moved
  exact ⟨count + 1, bounded, .entry reads ⟨header, resolves, localHeader, rfl⟩⟩

private theorem follows_turn {before after : ParseState} (follows : context.Follows before)
    (moved : context.turn before = .next after) : context.Follows after := by
  cases before with
  | directory state =>
      obtain ⟨count, bounded, reads⟩ := follows
      have index := reads.toNat_index bounded
      rcases context.directoryTurn_cases state with
        ⟨_, turned⟩ | ⟨_, _, turned⟩ | ⟨entry, more, header, turned⟩
      · cases turned.symm.trans moved
      · cases turned.symm.trans moved
      · have below : count < context.directory.numberOfEntries.toNat := by bv_omega
        by_cases full : saturated (context.pending state entry).zipEntry.headerOffset
        · rw [if_pos full] at turned
          cases turned.symm.trans moved
          refine ⟨count, entry, below, reads, header, fun final => ?_⟩
          exact iff_of_eq (if_pos full)
        · rw [if_neg full] at turned
          have resolves : context.Resolves (context.pending state entry)
              (context.pending state entry) := by
            rw [Resolves, if_neg full]
          exact finishEntry_reads below reads header resolves (turned.symm.trans moved)
  | extra pending hOffset =>
      obtain ⟨count, entry, below, reads, header, rest⟩ := follows
      rcases context.extraTurn_cases pending hOffset with
        ⟨finished, turned⟩ | ⟨_, _, turned⟩ | ⟨extraHeader, more, found, turned⟩
      · exact finishEntry_reads below reads header ((rest pending).mpr (.ended finished))
          (turned.symm.trans moved)
      · cases turned.symm.trans moved
      · cases turned.symm.trans moved
        exact ⟨count, entry, below, reads, header,
          fun final => (rest final).trans (walks_record_iff more found)⟩

/-- The loop over the entries leaves at an entry whose local header cannot be read. -/
theorem finishEntry_stops {state : DirectoryState} {entry : CDFileHeader} {pending : Pending}
    {parsed : Parsed} (header : readCDFileHeader context.file (context.position state) = some entry)
    (resolves : ∀ final, context.Resolves (context.pending state entry) final ↔ final = pending)
    (left : context.finishEntry pending = .done parsed) :
    parsed.entries = pending.outer.entries ∧
      ∀ next other final fileHeader, ¬context.ReadsEntry state next other final fileHeader := by
  refine ⟨finishEntry_done left, ?_⟩
  intro next other final fileHeader reads
  cases header.symm.trans reads.header
  cases (resolves final).mp reads.resolves
  rcases context.finishEntry_cases pending with ⟨missing, _⟩ | ⟨_, _, finished⟩
  · cases missing.symm.trans reads.localHeader
  · cases finished.symm.trans left

/-- How the loops end: with all entries, or at one that cannot be read. -/
theorem follows_done {state : ParseState} {parsed : Parsed} (follows : context.Follows state)
    (left : context.turn state = .done parsed) :
    ∃ count last, context.ReadsEntries count last ∧ parsed.entries = last.entries ∧
      (count = context.directory.numberOfEntries.toNat ∨
        count < context.directory.numberOfEntries.toNat ∧
          ∀ next entry final fileHeader, ¬context.ReadsEntry last next entry final fileHeader) := by
  cases state with
  | directory head =>
      obtain ⟨count, bounded, reads⟩ := follows
      have index := reads.toNat_index bounded
      rcases context.directoryTurn_cases head with
        ⟨all, turned⟩ | ⟨more, missing, turned⟩ | ⟨entry, more, header, turned⟩
      · cases turned.symm.trans left
        exact ⟨count, head, reads, rfl, .inl (by bv_omega)⟩
      · cases turned.symm.trans left
        refine ⟨count, head, reads, rfl, .inr ⟨by bv_omega, ?_⟩⟩
        exact fun _ _ _ _ again => by cases missing.symm.trans again.header
      · have ended := turned.symm.trans left
        split at ended
        · cases ended
        · rename_i unsaturated
          obtain ⟨entries, stops⟩ := finishEntry_stops header
            (fun final => by rw [Resolves, if_neg unsaturated]) ended
          exact ⟨count, head, reads, entries, .inr ⟨by bv_omega, stops⟩⟩
  | extra pending hOffset =>
      obtain ⟨count, entry, below, reads, header, rest⟩ := follows
      rcases context.extraTurn_cases pending hOffset with
        ⟨finished, turned⟩ | ⟨more, missing, turned⟩ | ⟨_, _, _, turned⟩
      · obtain ⟨entries, stops⟩ := finishEntry_stops header
          (fun final => (rest final).trans (walks_ended_iff finished)) (turned.symm.trans left)
        exact ⟨count, pending.outer, reads, entries, .inr ⟨below, stops⟩⟩
      · cases turned.symm.trans left
        refine ⟨count, pending.outer, reads, rfl, .inr ⟨below, ?_⟩⟩
        intro next other final fileHeader again
        cases header.symm.trans again.header
        exact not_walks more missing ((rest final).mp again.resolves)
      · cases turned.symm.trans left

private theorem follows_run {parsed : Parsed}
    (ran : ∃ fuel, Loop.run context.turn fuel context.start = some parsed) :
    ∃ count last, context.ReadsEntries count last ∧ parsed.entries = last.entries ∧
      (count = context.directory.numberOfEntries.toNat ∨
        count < context.directory.numberOfEntries.toNat ∧
          ∀ next entry final fileHeader, ¬context.ReadsEntry last next entry final fileHeader) := by
  obtain ⟨fuel, finished⟩ := ran
  obtain ⟨last, reached, left⟩ := Loop.run_reaches finished
  have follows := reached.invariant context.Follows ⟨0, Nat.zero_le _, .start⟩
    fun _ _ => follows_turn
  exact follows_done follows left

/-! ## All or nothing -/

/-- An entry whose name was read in full, where the directory has it. -/
def FullyNamed (context : ParseContext) (index : Nat) (listed : ZipEntry) : Prop :=
  ∃ state entry, context.ReadsEntries index state ∧
    readCDFileHeader context.file (context.position state) = some entry ∧
    listed.segmentName = (fileRead context.file (entry.file_name_length.setWidth 64)
      (context.position state + BitVec.ofNat 64 CDFileHeader.sizeof)).bytes ∧
    listed.segmentName.length = entry.file_name_length.toNat

/-- As many entries as the directory announces, with their names. -/
structure Complete (context : ParseContext) (entries : List ZipEntry) : Prop where
  count : entries.length = context.directory.numberOfEntries.toNat
  named : ∀ index listed, entries[index]? = some listed → context.FullyNamed index listed

private theorem readName_full_iff {state : DirectoryState} {entry : CDFileHeader}
    (header : readCDFileHeader context.file (context.position state) = some entry) :
    context.readName state entry = (fileRead context.file (entry.file_name_length.setWidth 64)
        (context.position state + BitVec.ofNat 64 CDFileHeader.sizeof)).bytes ↔
      (context.position state).toNat + CDFileHeader.sizeof + entry.file_name_length.toNat ≤
        context.file.content.length := by
  have inside := inside_of_readCDFileHeader header
  have small := context.file.small
  have behind : (context.position state + BitVec.ofNat 64 CDFileHeader.sizeof).toNat =
      (context.position state).toNat + CDFileHeader.sizeof := by
    unfold CDFileHeader.sizeof at *
    bv_omega
  unfold readName
  rw [fileRead_length16, behind, Stream.ReadResult.bytes_delivered]
  constructor
  · intro same
    have length := congrArg List.length same
    rw [length_firstCells, length_slice] at length
    omega
  · intro whole
    have stored := firstCells_store (context.heap state.i.toNat)
      (slice context.file.content ((context.position state).toNat + CDFileHeader.sizeof)
        entry.file_name_length.toNat)
    rwa [length_slice_of_le whole] at stored

private theorem length_readName (state : DirectoryState) (entry : CDFileHeader) :
    (context.readName state entry).length = entry.file_name_length.toNat :=
  length_firstCells _ _

private theorem complete_iff_named {last : DirectoryState}
    (reads : context.ReadsEntries context.directory.numberOfEntries.toNat last) :
    context.Complete last.entries ↔
      ∀ count state, count < context.directory.numberOfEntries.toNat →
        context.ReadsEntries count state → context.NameInside state := by
  constructor
  · intro complete count state below stands entry header
    have found := List.getElem?_eq_getElem (show count < last.entries.length by
      rw [complete.count]
      exact below)
    obtain ⟨before, read, again, readHeader, name, _⟩ := complete.named count _ found
    obtain ⟨other, otherEntry, third, otherHeader, otherName⟩ := reads.named found
    cases stands.unique again
    cases stands.unique third
    cases header.symm.trans readHeader
    cases header.symm.trans otherHeader
    exact (readName_full_iff header).mp (otherName.symm.trans name)
  · intro inside
    refine ⟨reads.counts.1, ?_⟩
    intro index listed found
    obtain ⟨state, entry, stands, header, name⟩ := reads.named found
    have below := (List.getElem?_eq_some_iff.mp found).1
    rw [reads.counts.1] at below
    refine ⟨state, entry, stands, header, ?_, ?_⟩
    · rw [name]
      exact (readName_full_iff header).mpr (inside index state below stands entry header)
    · rw [name]
      exact length_readName state entry

private theorem intact_iff {entries : List ZipEntry} {count : Nat} {last : DirectoryState}
    (reads : context.ReadsEntries count last) (listed : entries = last.entries)
    (outcome : count = context.directory.numberOfEntries.toNat ∨
      count < context.directory.numberOfEntries.toNat ∧
        ∀ next entry final fileHeader, ¬context.ReadsEntry last next entry final fileHeader) :
    entries = [] ∨ context.Complete entries ↔ context.Intact := by
  subst listed
  have length := reads.counts.1
  have nothing : last.entries = [] ↔ count = 0 := by
    rw [← length, List.length_eq_zero_iff]
  rw [nothing]
  rcases outcome with all | ⟨below, stops⟩
  · subst all
    constructor
    · rintro (empty | complete)
      · exact .inl (by bv_omega)
      · exact .inr (.inr ⟨⟨last, reads⟩, (complete_iff_named reads).mp complete⟩)
    · rintro (empty | noFirst | ⟨_, inside⟩)
      · exact .inl (by rw [empty]; rfl)
      · by_contra neither
        obtain ⟨first, firstReads⟩ := reads.before (show 1 ≤ _ by omega)
        exact noFirst first firstReads
      · exact .inr ((complete_iff_named reads).mpr inside)
  · constructor
    · rintro (empty | complete)
      · subst empty
        refine .inr (.inl fun next first => ?_)
        cases first with
        | entry before entry =>
            cases reads.unique before
            exact stops _ _ _ _ entry
      · exact absurd complete.count (by omega)
    · rintro (empty | noFirst | ⟨⟨_, whole⟩, _⟩)
      · rw [empty] at below
        exact absurd below (Nat.not_lt_zero _)
      · by_contra neither
        obtain ⟨first, firstReads⟩ := reads.before (show 1 ≤ _ by omega)
        exact noFirst first firstReads
      · obtain ⟨next, nextReads⟩ := whole.before (show count + 1 ≤ _ from below)
        cases nextReads with
        | entry before entry =>
            cases reads.unique before
            exact absurd entry (stops _ _ _ _)

end ParseContext

/-- No entries, or all that the directory announces, each with its name. -/
def AllOrNothing (file : File) (heap : Nat → Nat → UInt8) (parsed : Parsed) : Prop :=
  parsed.entries = [] ∨
    ∃ context, openDirectory file heap = .inr context ∧ context.Complete parsed.entries

/-- What `parseCD` leaves behind when it returns is all or nothing exactly for a directory
that announces nothing, that fails at its first entry, or that is intact. -/
theorem allOrNothing_iff {file : File} {heap : Nat → Nat → UInt8} {parsed : Parsed}
    (returned : ParsesTo file heap (.returned parsed)) :
    AllOrNothing file heap parsed ↔
      ∀ context, openDirectory file heap = .inr context → context.Intact := by
  obtain ⟨fuel, ran⟩ := returned
  unfold parseCD at ran
  unfold AllOrNothing
  cases entered : openDirectory file heap with
  | inl outcome =>
      rw [entered] at ran
      cases ran
      simp [(openDirectory_returned entered).1]
  | inr context =>
      rw [entered] at ran
      obtain ⟨result, finished, same⟩ := Option.map_eq_some_iff.mp ran
      cases same
      obtain ⟨count, last, reads, listed, outcome⟩ := context.follows_run ⟨fuel, finished⟩
      simpa using ParseContext.intact_iff reads listed outcome

/-- An archive that announces a second entry, which is not there. -/
def cutShort : File where
  content := localA ++ segmentA.bytes ++
    (EndCentralDirectory.toBytes { endA with total_entries_in_cd := 2 } ++ [0x63])
  small := by decide +kernel

def cutShortParsed : Parsed := ⟨[⟨[0x61], 0, 33, 1, 1, 0⟩], [0x63], .eio⟩

private theorem parseCD_cutShort : ParsesTo cutShort (fun _ _ => 0) (.returned cutShortParsed) :=
  ⟨3, by decide +kernel⟩

/-- The first entry stays behind, as the directory of a valid archive would. -/
theorem part_of_directory_left :
    ParsesTo cutShort (fun _ _ => 0) (.returned cutShortParsed) ∧
      ¬AllOrNothing cutShort (fun _ _ => 0) cutShortParsed := by
  refine ⟨parseCD_cutShort, ?_⟩
  have announced : (openDirectory cutShort fun _ _ => 0).elim (fun _ => 0)
      (fun context => context.directory.numberOfEntries) = 2 := by
    decide +kernel
  rintro (empty | ⟨context, entered, complete⟩)
  · cases empty
  · rw [entered] at announced
    have count := complete.count
    rw [show context.directory.numberOfEntries = 2 from announced] at count
    exact absurd count (by decide)

theorem allOrNothing_iff_cutShort :
    AllOrNothing cutShort (fun _ _ => 0) cutShortParsed ↔
      ∀ context, openDirectory cutShort (fun _ _ => 0) = .inr context → context.Intact :=
  allOrNothing_iff parseCD_cutShort

end Aff4Lite.Zip
