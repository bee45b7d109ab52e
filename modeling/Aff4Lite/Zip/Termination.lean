import Aff4Lite.Zip.Archive

/-!
When `parseCD` returns. The walk over the directory always moves forward inside the file.
The cursor of the walk over an extra field has 16 bits, and it moves forward exactly when
the length of the record does not take it round.
-/

set_option autoImplicit false

namespace Aff4Lite.Zip

open Lib

/-! ## The two walks -/

namespace ParseContext

/-- From every state that the loops reach, the cursor in the extra field moves towards the
end of the field, and the walk over the directory moves on from a header inside the file. -/
structure Advances (context : ParseContext) : Prop where
  extra : ∀ pending hOffset next after,
    Loop.Reaches context.turn context.start (.extra pending hOffset) →
    context.turn (.extra pending hOffset) = .next (.extra next after) → hOffset < after
  directory : ∀ state after, Loop.Reaches context.turn context.start state →
    context.turn state = .next (.directory after) →
    (context.position state.outer).toNat + CDFileHeader.sizeof ≤ context.file.content.length ∧
      context.position state.outer < context.position after

/-- In the extra field, the directory header of the entry was read. -/
def HeaderRead (context : ParseContext) : ParseState → Prop
  | .directory _ => True
  | .extra pending _ =>
      readCDFileHeader context.file (context.position pending.outer) = some pending.entry

variable {context : ParseContext}

private theorem headerRead_reached {state : ParseState}
    (reached : Loop.Reaches context.turn context.start state) : context.HeaderRead state := by
  refine reached.invariant context.HeaderRead trivial ?_
  rintro (before | ⟨pending, hOffset⟩) after read moved
  · obtain ⟨entry, found, rfl | ⟨fileHeader, _, rfl⟩⟩ := directoryTurn_next moved
    · exact found
    · trivial
  · obtain ⟨fileHeader, _, rfl⟩ | ⟨extraHeader, _, _, rfl⟩ := extraTurn_next moved
    · trivial
    · exact read

private theorem position_nextState (pending : Pending)
    (read : readCDFileHeader context.file (context.position pending.outer) = some pending.entry)
    (fileHeader : ZipFileHeader) :
    (context.position pending.outer).toNat + CDFileHeader.sizeof ≤ context.file.content.length ∧
      context.position pending.outer < context.position (nextState pending fileHeader) := by
  have inside := inside_of_readCDFileHeader read
  have small := context.file.small
  have nameWide := wide16 pending.entry.file_name_length
  have extraWide := wide16 pending.entry.extra_field_len
  have commentWide := wide16 pending.entry.file_comment_length
  refine ⟨inside, ?_⟩
  unfold position nextState CDFileHeader.sizeof at *
  dsimp only
  bv_omega

private theorem directory_advances {state : ParseState} {after : DirectoryState}
    (reached : Loop.Reaches context.turn context.start state)
    (moved : context.turn state = .next (.directory after)) :
    (context.position state.outer).toNat + CDFileHeader.sizeof ≤ context.file.content.length ∧
      context.position state.outer < context.position after := by
  have read := headerRead_reached reached
  cases state with
  | directory before =>
      obtain ⟨entry, found, other | ⟨fileHeader, _, same⟩⟩ := directoryTurn_next moved
      · cases other
      · cases same
        exact position_nextState (context.pending before entry) found fileHeader
  | extra pending hOffset =>
      obtain ⟨fileHeader, _, same⟩ | ⟨_, _, _, other⟩ := extraTurn_next moved
      · cases same
        exact position_nextState pending read fileHeader
      · cases other

/-- Every record that the walk over an extra field meets, before it is stepped over: its
length, on 16 bits, is not 0 and does not take the cursor past the last 16-bit value. -/
def RecordsFit (context : ParseContext) : Prop :=
  ∀ pending hOffset extraHeader,
    Loop.Reaches context.turn context.start (.extra pending hOffset) →
    hOffset < pending.entry.extra_field_len →
    context.extraHeader pending hOffset = some extraHeader →
    0 < (extraHeader.data_size.toNat + 4) % 2 ^ 16 ∧
      hOffset.toNat + (extraHeader.data_size.toNat + 4) % 2 ^ 16 < 2 ^ 16

private theorem lt_nextOffset_iff (hOffset : U16) (extraHeader : ZipExtraFieldHeader) :
    hOffset < nextOffset hOffset extraHeader ↔
      0 < (extraHeader.data_size.toNat + 4) % 2 ^ 16 ∧
        hOffset.toNat + (extraHeader.data_size.toNat + 4) % 2 ^ 16 < 2 ^ 16 := by
  unfold nextOffset ZipExtraFieldHeader.sizeof
  constructor
  · intro advances
    constructor <;> bv_omega
  · rintro ⟨positive, fits⟩
    bv_omega

private theorem advances_iff : context.Advances ↔ context.RecordsFit := by
  constructor
  · intro advances pending hOffset extraHeader reached more found
    rcases context.extraTurn_cases pending hOffset with
      ⟨exceeded, _⟩ | ⟨_, missing, _⟩ | ⟨other, _, same, turned⟩
    · exact absurd more (BitVec.not_lt.mpr exceeded)
    · rw [missing] at found
      cases found
    · rw [same] at found
      cases found
      exact (lt_nextOffset_iff hOffset extraHeader).mp (advances.extra _ _ _ _ reached turned)
  · intro fits
    refine ⟨?_, fun state after reached moved => directory_advances reached moved⟩
    intro pending hOffset next after reached moved
    obtain ⟨_, _, other⟩ | ⟨extraHeader, more, found, same⟩ := extraTurn_next moved
    · cases other
    · cases same
      exact (lt_nextOffset_iff hOffset extraHeader).mpr
        (fits pending hOffset extraHeader reached more found)

/-- The bytes of directory behind an entry, and in an extra field the rest of the field. -/
def remaining (context : ParseContext) : ParseState → Nat
  | .directory state => (2 ^ 64 - (context.position state).toNat) * 2 ^ 17
  | .extra pending hOffset =>
      (2 ^ 64 - (context.position pending.outer).toNat) * 2 ^ 17 - 1 - hOffset.toNat

private theorem remaining_lt (advances : context.Advances) {state after : ParseState}
    (reached : Loop.Reaches context.turn context.start state)
    (moved : context.turn state = .next after) :
    context.remaining after < context.remaining state := by
  have below := (context.position state.outer).isLt
  cases after with
  | directory next =>
      obtain ⟨_, further⟩ := advances.directory state next reached moved
      cases state with
      | directory before =>
          unfold remaining ParseState.outer at *
          dsimp only at *
          bv_omega
      | extra pending hOffset =>
          have small := hOffset.isLt
          unfold remaining ParseState.outer at *
          dsimp only at *
          bv_omega
  | extra next hOffset =>
      cases state with
      | directory before =>
          obtain ⟨entry, _, same | ⟨_, _, other⟩⟩ := directoryTurn_next moved
          · cases same
            unfold remaining ParseState.outer ParseContext.pending at *
            dsimp only at *
            omega
          · cases other
      | extra pending before =>
          have further := advances.extra pending before next hOffset reached moved
          obtain ⟨_, _, other⟩ | ⟨extraHeader, _, _, same⟩ := extraTurn_next moved
          · cases other
          · cases same
            have small := (nextOffset before extraHeader).isLt
            unfold remaining ParseState.outer at *
            dsimp only at *
            bv_omega

private theorem run_of_advances (advances : context.Advances) :
    ∃ fuel parsed, Loop.run context.turn fuel context.start = some parsed := by
  have progress : ∀ state, Loop.Reaches context.turn context.start state →
      Loop.Progress context.turn (Loop.Reaches context.turn context.start) context.remaining
        (fun _ => True) state := by
    intro state reached
    cases turned : context.turn state with
    | done parsed => exact .inl ⟨parsed, turned, trivial⟩
    | next after =>
        exact .inr ⟨after, turned, reached.step turned, remaining_lt advances reached turned⟩
  obtain ⟨parsed, ran, _⟩ := Loop.run_total _ context.remaining _ progress .refl
    (Nat.lt_succ_self (context.remaining context.start))
  exact ⟨_, parsed, ran⟩

/-- A record of another kind whose length goes round to 0 is met for ever. -/
theorem run_stuck {pending : Pending} {hOffset : U16} {extraHeader : ZipExtraFieldHeader}
    (more : hOffset < pending.entry.extra_field_len)
    (found : context.extraHeader pending hOffset = some extraHeader)
    (otherKind : extraHeader.header_id ≠ 1) (still : nextOffset hOffset extraHeader = hOffset)
    (fuel : Nat) : Loop.run context.turn fuel (.extra pending hOffset) = none := by
  refine Loop.run_diverges (fun state => state = .extra pending hOffset) ?_ rfl fuel
  rintro before rfl
  rcases context.extraTurn_cases pending hOffset with
    ⟨finished, _⟩ | ⟨_, missing, _⟩ | ⟨other, _, same, turned⟩
  · exact absurd more (BitVec.not_lt.mpr finished)
  · rw [missing] at found
    cases found
  · rw [same] at found
    cases found
    rw [still, extraValues_other otherKind] at turned
    exact ⟨_, turned, rfl⟩

end ParseContext

/-! ## `parseCD` -/

/-- A file of 22 bytes leaves the scan without a position to look at. -/
theorem openDirectory_null_iff (file : File) (heap : Nat → Nat → UInt8) :
    openDirectory file heap = .inl .nullDereference ↔ file.content.length = 22 := by
  have tail : (file.content.drop (file.content.length - 4096)).length =
      min file.content.length 4096 := by
    rw [List.length_drop]
    omega
  rw [openDirectory_eq, scanBuffer, tail]
  unfold EndCentralDirectory.sizeof
  constructor
  · intro null
    split at null
    · cases null
    · split at null
      · omega
      · split at null
        · cases null
        · unfold enterDirectory at null
          dsimp only at null
          split at null <;> cases null
  · intro short
    rw [if_neg (by omega), if_pos (by omega)]

/-- `parseCD` returns, and its two walks advance on every turn. -/
structure ReturnsAdvancing (file : File) (heap : Nat → Nat → UInt8) : Prop where
  returns : ∃ parsed, ParsesTo file heap (.returned parsed)
  advances : ∀ context, openDirectory file heap = .inr context → context.Advances

/-- The exact condition: the file does not consist of 22 bytes, and the records of the
extra fields that are walked fit the 16-bit cursor. -/
theorem returnsAdvancing_iff (file : File) (heap : Nat → Nat → UInt8) :
    ReturnsAdvancing file heap ↔ file.content.length ≠ 22 ∧
      ∀ context, openDirectory file heap = .inr context → context.RecordsFit := by
  constructor
  · rintro ⟨⟨parsed, fuel, ran⟩, advances⟩
    refine ⟨?_, fun context entered => ParseContext.advances_iff.mp (advances context entered)⟩
    intro short
    rw [parseCD, (openDirectory_null_iff file heap).mpr short] at ran
    cases ran
  · rintro ⟨long, fit⟩
    have advances : ∀ context, openDirectory file heap = .inr context → context.Advances :=
      fun context entered => ParseContext.advances_iff.mpr (fit context entered)
    refine ⟨?_, advances⟩
    cases entered : openDirectory file heap with
    | inl outcome =>
        cases outcome with
        | nullDereference => exact absurd ((openDirectory_null_iff file heap).mp entered) long
        | returned parsed => exact ⟨parsed, 0, by rw [parseCD, entered]⟩
    | inr context =>
        obtain ⟨fuel, parsed, ran⟩ := ParseContext.run_of_advances (advances context entered)
        exact ⟨parsed, parsesTo_of_run entered ⟨fuel, ran⟩⟩

/-! ## An endless walk -/

def endlessEntry : DirectoryEntry where
  header := { segmentA.header with
    file_name_length := 0, extra_field_len := 4, relative_offset_local_header := 0xffffffff }
  name := []
  extra := [0x99, 0x99, 0xfc, 0xff]
  comment := []
  fileHeader := segmentA.fileHeader
  magic := rfl
  nameLength := rfl
  extraLength := rfl
  commentLength := rfl
  fileMagic := rfl

def endlessEnd : EndCentralDirectory := { endA with
  size_of_cd := 50, offset_of_cd := 0, comment_len := 0 }

/-- 72 bytes: the directory header, its extra field and the end record. -/
def endless : File where
  content := endlessEntry.bytes ++ (endlessEnd.toBytes ++ [])
  small := by decide +kernel

private theorem endless_ends : endless.EndsWith endlessEntry.bytes endlessEnd [] where
  content := rfl
  magic := rfl
  commentLength := rfl
  window := by decide +kernel
  notFirst := by decide +kernel
  last := by
    intro later after within
    have whole : endless.content.length = 72 := by decide +kernel
    have front : endlessEntry.bytes.length = 50 := by decide +kernel
    unfold EndCentralDirectory.sizeof at within
    omega

def endlessContext : ParseContext := ⟨endless, fun _ _ => 0, [], ⟨0, 1, 0⟩⟩

private theorem openDirectory_endless :
    openDirectory endless (fun _ _ => 0) = .inr endlessContext := by
  have found : findDirectory endless endlessEnd (BitVec.ofNat 64 endlessEntry.bytes.length) =
      some ⟨0, 1, 0⟩ := by
    decide +kernel
  rw [openDirectory_of_end endless_ends, enterDirectory, found, endless_ends.readComment]
  rfl

private theorem run_endless (fuel : Nat) :
    Loop.run endlessContext.turn fuel endlessContext.start = none := by
  have stands : endlessContext.StandsAt ⟨0, 0, []⟩ endlessEntry [] (endlessEnd.toBytes ++ []) :=
    ⟨rfl, rfl, by decide⟩
  have turned := directoryTurn_stands stands
  rw [if_pos (by decide)] at turned
  have entered : endlessContext.turn endlessContext.start = .next (.extra
      ⟨⟨0, 0, []⟩, endlessEntry.header, endlessEntry.name, endlessEntry.values⟩ 0) := turned
  have record : endlessContext.extraHeader
      ⟨⟨0, 0, []⟩, endlessEntry.header, endlessEntry.name, endlessEntry.values⟩ 0 =
        some ⟨0x9999, 0xfffc⟩ := by
    decide +kernel
  cases fuel with
  | zero => rfl
  | succ fuel =>
      rw [Loop.run_next entered]
      exact ParseContext.run_stuck (by decide) record (by decide) (by decide) fuel

/-- No number of turns is enough for it. -/
theorem parseCD_endless : (∀ fuel, parseCD endless (fun _ _ => 0) fuel = none) ∧
    ¬ReturnsAdvancing endless fun _ _ => 0 := by
  have diverges : ∀ fuel, parseCD endless (fun _ _ => 0) fuel = none := by
    intro fuel
    rw [parseCD, openDirectory_endless]
    dsimp only
    rw [run_endless]
    rfl
  refine ⟨diverges, ?_⟩
  rintro ⟨⟨parsed, fuel, ran⟩, _⟩
  rw [diverges] at ran
  cases ran

end Aff4Lite.Zip
