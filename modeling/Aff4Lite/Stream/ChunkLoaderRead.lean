import Aff4Lite.Stream.ChunkLoaderProperties

/-!
The bytes that a read returns are genuine exactly when the loads that it rests on
provide them.
-/

set_option autoImplicit false

namespace Aff4Lite.Stream.DeviceStream

open Lib Utils

variable {World : Type} {self : DeviceStream World}

/-- How the rest of a read ends, by the loads that it needs. -/
inductive Ends (self : DeviceStream World) (start : ReadState World)
    (needs : List (Option (LoadEvent World × Nat))) :
    Except (ReadFault World) (ReadEnd World) → Prop where
  | faulted {event : LoadEvent World} {count : Nat} : some (event, count) ∈ needs →
      ¬self.Answered event → Ends self start needs (.error (.notLoaded event))
  | divided : none ∈ needs → (∀ need, some need ∈ needs → self.Answered need.1) →
      Ends self start needs (.error .divideByZero)
  | evicted : none ∈ needs → (∀ need, some need ∈ needs → self.Answered need.1) →
      Ends self start needs (.error .cacheEnd)
  | failed {finish : ReadEnd World} : none ∈ needs →
      (∀ need, some need ∈ needs → self.Answered need.1) → finish.res = -1 →
      Ends self start needs (.ok finish)
  | finished {finish : ReadEnd World} {chunks : List (U64 × ChunkBuffer World)} :
      none ∉ needs → (∀ need, some need ∈ needs → self.Answered need.1) →
      finish.res = (start.actualRead + start.leftToRead).toInt →
      (∀ index < start.buffer, finish.memory index = start.memory index) →
      finish.touched = start.touched ++ chunks →
      ((∀ index, start.buffer ≤ index → index < start.buffer + start.leftToRead.toNat →
          (finish.memory index).Genuine) ∧
          (∀ chunk ∈ chunks, ChunkBuffer.Delivers chunk.2 (self.part chunk.1)) ↔
        ∀ need, some need ∈ needs → self.Provides need.1 need.2) →
      Ends self start needs (.ok finish)

/-- The bytes that a turn copies and the part of the chunk below the length are a prefix of
the buffer as far as its genuine bytes are concerned. -/
theorem Loaded.genuine_iff {event : LoadEvent World} {buffer : ChunkBuffer World}
    (loaded : self.Loaded event buffer) {part delta toCopy : Nat} (positive : 0 < toCopy) :
    (∀ step < toCopy, (buffer.cells (delta + step)).Genuine) ∧ ChunkBuffer.Delivers buffer part ↔
      self.Provides event (max part (delta + toCopy)) := by
  obtain ⟨count, genuine, provides⟩ := loaded.genuine
  rw [provides]
  constructor
  · rintro ⟨copied, delivers⟩
    have last : delta + (toCopy - 1) < count := (genuine _).mp (copied _ (by omega))
    have first : part ≤ count := by
      by_contra beyond
      exact absurd ((genuine count).mp (delivers count (by omega))) (Nat.lt_irrefl _)
    omega
  · intro covers
    refine ⟨?_, ?_⟩
    · intro step below
      exact (genuine _).mpr (by omega)
    · intro index below
      exact (genuine _).mpr (by omega)

private theorem answered_cons {event : LoadEvent World} {count : Nat}
    (answered : self.Answered event)
    {rest : List (Option (LoadEvent World × Nat))}
    (others : ∀ need, some need ∈ rest → self.Answered need.1) :
    ∀ need, some need ∈ some (event, count) :: rest → self.Answered need.1 := by
  intro need member
  rcases List.mem_cons.mp member with first | later
  · cases first
    exact answered
  · exact others need later

/-- The bytes up to the end of a read are those that one turn copies and those after it. -/
theorem copyChunk_genuine {state : ReadState World} {chunkOffset : U64}
    {entry : ChunkBuffer World} {after : DeviceState World} {memory : Nat → Cell}
    {toCopy left : Nat}
    (asked : (stdMin (entry.size.setWidth 64 - (state.offset - chunkOffset))
      state.leftToRead).toNat = toCopy)
    (kept : ∀ index < state.buffer + toCopy,
      memory index = (copyChunk state chunkOffset entry after).memory index) :
    (∀ index, state.buffer ≤ index → index < state.buffer + (toCopy + left) →
        (memory index).Genuine) ↔
      (∀ step < toCopy,
          (entry.cells ((state.offset - chunkOffset).toNat + step)).Genuine) ∧
        ∀ index, state.buffer + toCopy ≤ index → index < state.buffer + toCopy + left →
          (memory index).Genuine := by
  have copied : ∀ step < toCopy, memory (state.buffer + step) =
      entry.cells ((state.offset - chunkOffset).toNat + step) := by
    intro step below
    rw [kept _ (by omega)]
    unfold copyChunk
    dsimp only
    rw [asked]
    apply store_inside
    rw [firstCells, List.getElem?_map, List.getElem?_range below]
    rfl
  constructor
  · intro genuine
    refine ⟨?_, ?_⟩
    · intro step below
      exact copied step below ▸ genuine _ (by omega) (by omega)
    · intro index first last
      exact genuine index (by omega) (by omega)
  · rintro ⟨first, later⟩ index start finish
    by_cases early : index < state.buffer + toCopy
    · obtain ⟨step, rfl⟩ := Nat.exists_eq_add_of_le start
      exact (copied step (by omega)).symm ▸ first step (by omega)
    · exact later index (by omega) (by omega)

/-- A turn's bytes and its chunk are genuine, and so is the rest, exactly when the load of the
turn and those of the rest provide what is used of them. -/
theorem genuine_cons {state : ReadState World} {chunkOffset : U64} {entry : ChunkBuffer World}
    {after : DeviceState World} {event : LoadEvent World} (loaded : self.Loaded event entry)
    {toCopy left : Nat}
    (asked : (stdMin (entry.size.setWidth 64 - (state.offset - chunkOffset))
      state.leftToRead).toNat = toCopy) (positive : 0 < toCopy) {memory : Nat → Cell}
    (kept : ∀ index < state.buffer + toCopy,
      memory index = (copyChunk state chunkOffset entry after).memory index)
    {chunks : List (U64 × ChunkBuffer World)} {rest : List (Option (LoadEvent World × Nat))}
    (genuine : (∀ index, state.buffer + toCopy ≤ index →
          index < state.buffer + toCopy + left → (memory index).Genuine) ∧
        (∀ chunk ∈ chunks, ChunkBuffer.Delivers chunk.2 (self.part chunk.1)) ↔
      ∀ need, some need ∈ rest → self.Provides need.1 need.2) :
    (∀ index, state.buffer ≤ index → index < state.buffer + (toCopy + left) →
          (memory index).Genuine) ∧
        (∀ chunk ∈ (chunkOffset, entry) :: chunks,
          ChunkBuffer.Delivers chunk.2 (self.part chunk.1)) ↔
      ∀ need, some need ∈ some (event, max (self.part chunkOffset)
        ((state.offset - chunkOffset).toNat + toCopy)) :: rest →
          self.Provides need.1 need.2 := by
  have first : (∀ step < toCopy,
        (entry.cells ((state.offset - chunkOffset).toNat + step)).Genuine) ∧
      ChunkBuffer.Delivers entry (self.part chunkOffset) ↔
        self.Provides event (max (self.part chunkOffset)
          ((state.offset - chunkOffset).toNat + toCopy)) := loaded.genuine_iff positive
  rw [copyChunk_genuine asked kept]
  constructor
  · rintro ⟨⟨copied, later⟩, delivers⟩ need member
    rcases List.mem_cons.mp member with same | other
    · cases same
      exact first.mp ⟨copied, delivers _ (List.mem_cons_self ..)⟩
    · exact genuine.mp ⟨later, fun chunk inside =>
        delivers chunk (List.mem_cons_of_mem _ inside)⟩ need other
  · intro provided
    obtain ⟨copied, delivers⟩ := first.mpr (provided _ (List.mem_cons_self ..))
    obtain ⟨later, others⟩ := genuine.mpr fun need member =>
      provided need (List.mem_cons_of_mem _ member)
    refine ⟨⟨copied, later⟩, ?_⟩
    intro chunk member
    rcases List.mem_cons.mp member with rfl | other
    · exact delivers
    · exact others chunk other

/-- The end of the rest of a read, seen from before a turn that copies from a loaded chunk. -/
theorem Ends.copied {state : ReadState World} {chunkOffset : U64} {entry : ChunkBuffer World}
    {after : DeviceState World} {event : LoadEvent World} (loaded : self.Loaded event entry)
    {toCopy : U64} (asked : stdMin (entry.size.setWidth 64 - (state.offset - chunkOffset))
      state.leftToRead = toCopy)
    (positive : 0 < toCopy.toNat) (small : toCopy.toNat ≤ state.leftToRead.toNat)
    {rest : List (Option (LoadEvent World × Nat))}
    {outcome : Except (ReadFault World) (ReadEnd World)}
    (ends : self.Ends (copyChunk state chunkOffset entry after) rest outcome) :
    self.Ends state (some (event, max (self.part chunkOffset)
      ((state.offset - chunkOffset).toNat + toCopy.toNat)) :: rest) outcome := by
  cases ends with
  | faulted member unanswered => exact .faulted (List.mem_cons_of_mem _ member) unanswered
  | divided missing answered =>
      exact .divided (List.mem_cons_of_mem _ missing) (answered_cons loaded.answered answered)
  | evicted missing answered =>
      exact .evicted (List.mem_cons_of_mem _ missing) (answered_cons loaded.answered answered)
  | failed missing answered res =>
      exact .failed (List.mem_cons_of_mem _ missing) (answered_cons loaded.answered answered) res
  | @finished finish chunks missing answered res before touched genuine =>
      have buffer : (copyChunk state chunkOffset entry after).buffer =
          state.buffer + toCopy.toNat :=
            congrArg (fun moved : U64 => state.buffer + moved.toNat) asked
      have left : (copyChunk state chunkOffset entry after).leftToRead =
          state.leftToRead - toCopy := congrArg (state.leftToRead - ·) asked
      have actual : (copyChunk state chunkOffset entry after).actualRead =
          state.actualRead + toCopy := congrArg (state.actualRead + ·) asked
      rw [buffer] at before genuine
      rw [left] at genuine res
      rw [actual] at res
      have total : state.leftToRead.toNat =
          toCopy.toNat + (state.leftToRead - toCopy).toNat := by
        bv_omega
      have together : finish.touched = state.touched ++ (chunkOffset, entry) :: chunks :=
        touched.trans (List.append_assoc _ _ _)
      refine .finished ?_ (answered_cons loaded.answered answered) ?_ ?_ together ?_
      · simpa using missing
      · rw [res]
        congr 1
        bv_omega
      · intro index below
        rw [before index (by omega)]
        exact store_before _ _ below
      · rw [total]
        exact genuine_cons loaded (congrArg BitVec.toNat asked) positive before genuine

/-- A turn that copies, with the load that it rests on. -/
structure Copies (stream : DeviceStream World) (state : ReadState World) (chunkOffset : U64)
    (entry : ChunkBuffer World) (after : DeviceState World) (event : LoadEvent World)
    (toCopy : U64) : Prop where
  turned : stream.readTurn state = .next (copyChunk state chunkOffset entry after)
  sound : stream.Sound after
  loaded : stream.Loaded event entry
  asked : stdMin (entry.size.setWidth 64 - (state.offset - chunkOffset)) state.leftToRead = toCopy
  positive : 0 < toCopy.toNat
  small : toCopy.toNat ≤ state.leftToRead.toNat
  needs : ∀ fuel, stream.needs (fuel + 1) state.offset state.leftToRead state.state =
    some (event, max (stream.part chunkOffset)
        ((state.offset - chunkOffset).toNat + toCopy.toNat)) ::
      stream.needs fuel (state.offset + toCopy) (state.leftToRead - toCopy) after

private theorem copies_of_loaded {state : ReadState World} (unfinished : state.leftToRead > 0)
    (divides : self.chunkSize ≠ 0) {entry : ChunkBuffer World} {after : DeviceState World}
    (got : self.getChunk (state.offset / self.chunkSize.setWidth 64 *
      self.chunkSize.setWidth 64) state.state = (.ok entry, after))
    (sound : self.Sound after) {event : LoadEvent World} (loaded : self.Loaded event entry) :
    ∃ chunkOffset toCopy, self.Copies state chunkOffset entry after event toCopy := by
  obtain ⟨_, delta⟩ := ImageStream.toNat_chunkOffset state.offset self.chunkSize
  have wide := toNat_widen self.chunkSize (by decide : 32 ≤ 64)
  have within := Nat.mod_lt state.offset.toNat (show 0 < self.chunkSize.toNat by bv_omega)
  have size := loaded.size
  have nonempty : entry.size ≠ 0 := size ▸ divides
  generalize chunk : state.offset / self.chunkSize.setWidth 64 *
    self.chunkSize.setWidth 64 = chunkOffset at got delta
  obtain ⟨toCopy, asked⟩ : ∃ toCopy, stdMin (self.chunkSize.setWidth 64 -
    (state.offset - chunkOffset)) state.leftToRead = toCopy := ⟨_, rfl⟩
  have amount := congrArg BitVec.toNat asked
  rw [toNat_stdMin, toNat_sub_of_le (by omega), wide, delta] at amount
  refine ⟨chunkOffset, toCopy, ?_, sound, loaded, size.symm ▸ asked, by bv_omega, by omega, ?_⟩
  · rw [readTurn, if_pos unfinished, if_neg divides]
    simp only [chunk, got, if_neg nonempty]
  · intro fuel
    rw [DeviceStream.needs, if_pos unfinished, if_neg divides]
    simp only [chunk, got, loaded.source, asked]

theorem readTurn_cases {state : ReadState World} (sound : self.Sound state.state)
    (unfinished : state.leftToRead > 0) :
    (∃ outcome, self.readTurn state = .done outcome ∧ ∀ fuel, self.Ends state
        (self.needs (fuel + 1) state.offset state.leftToRead state.state) outcome) ∨
      ∃ chunkOffset entry after event toCopy,
        self.Copies state chunkOffset entry after event toCopy := by
  by_cases divides : self.chunkSize = 0
  · refine .inl ⟨.error .divideByZero, ?_, ?_⟩
    · rw [readTurn, if_pos unfinished, if_pos divides]
    · intro fuel
      rw [needs, if_pos unfinished, if_pos divides]
      exact .divided (by simp) (by simp)
  obtain ⟨good, kept⟩ := getChunk_preserves self.loads_good sound trivial
    (state.offset / self.chunkSize.setWidth 64 * self.chunkSize.setWidth 64)
  cases got : self.getChunk (state.offset / self.chunkSize.setWidth 64 *
      self.chunkSize.setWidth 64) state.state with
  | mk found after =>
      rw [got] at good kept
      cases found with
      | error fault =>
          refine .inl ⟨.error fault, ?_, ?_⟩
          · rw [readTurn, if_pos unfinished, if_neg divides]
            simp only [got]
          · intro fuel
            rw [needs, if_pos unfinished, if_neg divides]
            simp only [got]
            cases fault with
            | notLoaded event => exact .faulted (List.mem_cons_self ..) good
            | divideByZero => exact .divided (by simp) (by simp)
            | cacheEnd => exact .evicted (by simp) (by simp)
      | ok entry =>
          rcases good with ⟨missing, empty⟩ | ⟨_, event, loaded⟩
          · refine .inl ⟨.ok ⟨-1, state.memory, after, state.touched⟩, ?_, ?_⟩
            · rw [readTurn, if_pos unfinished, if_neg divides]
              simp only [got, empty, if_true]
            · intro fuel
              rw [needs, if_pos unfinished, if_neg divides]
              simp only [got, missing]
              exact .failed (by simp) (by simp) rfl
          · obtain ⟨chunkOffset, toCopy, copies⟩ :=
              copies_of_loaded unfinished divides got kept loaded
            exact .inr ⟨chunkOffset, entry, after, event, toCopy, copies⟩

private theorem run_ends (fuel : Nat) (state : ReadState World) (sound : self.Sound state.state)
    (enough : state.leftToRead.toNat < fuel) :
    ∃ outcome, Loop.run self.readTurn fuel state = some outcome ∧
      self.Ends state (self.needs fuel state.offset state.leftToRead state.state) outcome := by
  induction fuel generalizing state with
  | zero => exact absurd enough (Nat.not_lt_zero _)
  | succ fuel ih =>
      by_cases unfinished : state.leftToRead > 0
      · rcases readTurn_cases sound unfinished with
          ⟨outcome, turned, ends⟩ | ⟨chunkOffset, entry, after, event, toCopy, copies⟩
        · exact ⟨outcome, Loop.run_done turned fuel, ends fuel⟩
        · have offset : (copyChunk state chunkOffset entry after).offset =
              state.offset + toCopy := congrArg (state.offset + ·) copies.asked
          have left : (copyChunk state chunkOffset entry after).leftToRead =
              state.leftToRead - toCopy := congrArg (state.leftToRead - ·) copies.asked
          have positive := copies.positive
          have small := copies.small
          have less : (copyChunk state chunkOffset entry after).leftToRead.toNat < fuel := by
            rw [left]
            bv_omega
          obtain ⟨outcome, ran, ends⟩ := ih _ copies.sound less
          rw [offset, left] at ends
          refine ⟨outcome, (Loop.run_next copies.turned fuel).trans ran, ?_⟩
          rw [copies.needs fuel]
          exact ends.copied copies.loaded copies.asked positive small
      · have turned : self.readTurn state =
            .done (.ok ⟨state.actualRead.toInt, state.memory, state.state, state.touched⟩) :=
          if_neg unfinished
        have nothing : state.leftToRead = 0 := by bv_omega
        rw [needs, if_neg unfinished]
        refine ⟨_, Loop.run_done turned fuel, .finished (by simp) (by simp) ?_ ?_
          (List.append_nil _).symm ?_⟩
        · exact congrArg BitVec.toInt
            (show state.actualRead = state.actualRead + state.leftToRead by bv_omega)
        · exact fun _ _ => rfl
        · constructor
          · intro _ need member
            cases member
          · intro _
            refine ⟨?_, ?_⟩
            · intro index first last
              rw [nothing] at last
              exact absurd last (by simpa using first)
            · intro chunk member
              cases member

/-! ## Runs of reads -/

/-- The states of a stream after any reads, while anything else happens in between. -/
inductive Reached (self : DeviceStream World) : DeviceState World → Prop where
  | fresh (world : World) : Reached self (self.fresh world)
  | elsewhere {state : DeviceState World} (world : World) : Reached self state →
      Reached self { state with world := world }
  | read {state : DeviceState World} {memory : Nat → Cell} {count offset : U64}
      {finish : ReadEnd World} : Reached self state →
      self.read memory count offset state = some (.ok finish) → Reached self finish.state

theorem Reached.sound {state : DeviceState World} (reached : self.Reached state) :
    self.Sound state := by
  induction reached with
  | fresh world => exact fresh_kept self trivial
  | elsewhere world _ ih => exact ⟨ih.cached, trivial⟩
  | read _ ran ih => exact (read_preserves self.loads_good trivial ih ran).1

/-- The loads that a read rests on. -/
def readNeeds (self : DeviceStream World) (count offset : U64) (state : DeviceState World) :
    List (Option (LoadEvent World × Nat)) :=
  if self.closed then []
  else if offset > self.length then []
  else
    let count := truncateCount self.length offset count
    self.needs (count.toNat + 1) offset count state

/-- What is asked of the outcome of a read: the returned bytes are genuine, and so are those
below the length of the stream in every chunk that was used. A call without a result because
of its configuration promises nothing; one that leaves the chunk buffer, or does not come to the
end of its load, does not return -1. -/
def Truthful (self : DeviceStream World) : Except (ReadFault World) (ReadEnd World) → Prop
  | .error (.notLoaded _) => False
  | .error _ => True
  | .ok finish => 0 ≤ finish.res →
      (∀ index < finish.res.toNat, (finish.memory index).Genuine) ∧
        ∀ chunk ∈ finish.touched, ChunkBuffer.Delivers chunk.2 (self.part chunk.1)

/-- No load gets a -1 from the container at the start of its buffer, or again and again, and either
one chunk of the range has no index or no point, or every load provides what is used of its
chunk. -/
def Dependable (self : DeviceStream World) (needs : List (Option (LoadEvent World × Nat))) :
    Prop :=
  (∀ need, some need ∈ needs → self.Answered need.1) ∧
    (none ∈ needs ∨ ∀ need, some need ∈ needs → self.Provides need.1 need.2)

private theorem Ends.truthful_iff {memory : Nat → Cell} {asked offset : U64}
    {state : DeviceState World}
    (small : asked.toNat < 2 ^ 63) {needs : List (Option (LoadEvent World × Nat))}
    {outcome : Except (ReadFault World) (ReadEnd World)}
    (ends : self.Ends ⟨asked, 0, offset, 0, memory, state, []⟩ needs outcome) :
    self.Truthful outcome ↔ self.Dependable needs := by
  cases ends with
  | faulted member unanswered =>
      constructor
      · exact False.elim
      · exact fun dependable => unanswered (dependable.1 _ member)
  | divided missing answered => exact ⟨fun _ => ⟨answered, .inl missing⟩, fun _ => trivial⟩
  | evicted missing answered => exact ⟨fun _ => ⟨answered, .inl missing⟩, fun _ => trivial⟩
  | failed missing answered res =>
      refine ⟨fun _ => ⟨answered, .inl missing⟩, fun _ positive => ?_⟩
      rw [res] at positive
      exact absurd positive (by decide)
  | @finished finish chunks missing answered res before touched genuine =>
      dsimp only at res touched genuine
      have whole : 0 + asked = asked := by bv_omega
      rw [whole, toInt_of_lt small] at res
      rw [List.nil_append] at touched
      simp only [Nat.zero_le, Nat.zero_add, true_implies] at genuine
      simp only [Truthful, Dependable, res, touched, Int.toNat_natCast]
      constructor
      · intro truthful
        exact ⟨answered, .inr (genuine.mp (truthful (Int.natCast_nonneg _)))⟩
      · rintro ⟨_, absent | provided⟩ _
        · exact absurd absent missing
        · exact genuine.mpr provided

theorem read_total {state : DeviceState World} (reached : self.Reached state)
    (memory : Nat → Cell) (count offset : U64) :
    ∃ outcome, self.read memory count offset state = some outcome := by
  unfold read
  split
  · exact ⟨_, rfl⟩
  · split
    · exact ⟨_, rfl⟩
    · obtain ⟨outcome, ran, _⟩ := run_ends ((truncateCount self.length offset count).toNat + 1)
        ⟨truncateCount self.length offset count, 0, offset, 0, memory, state, []⟩ reached.sound
        (Nat.lt_succ_self _)
      exact ⟨outcome, ran⟩

/-- After any reads, a read returns nothing but genuine bytes, of chunks that are genuine below
the length of the stream, exactly when the loads that it rests on are dependable. -/
theorem read_genuine_iff (self : DeviceStream World) {state : DeviceState World}
    (reached : self.Reached state) (memory : Nat → Cell) {count : U64}
    (room : count.toNat < 2 ^ 63) (offset : U64) :
    ∃ outcome, self.read memory count offset state = some outcome ∧
      (self.Truthful outcome ↔ self.Dependable (self.readNeeds count offset state)) := by
  have nothing : self.Dependable [] := ⟨by simp, .inr (by simp)⟩
  unfold read readNeeds
  split
  · refine ⟨_, rfl, fun _ => nothing, fun _ positive => ?_⟩
    exact absurd positive (show ¬(0 : Int) ≤ -1 by decide)
  · split
    · refine ⟨_, rfl, fun _ => nothing, fun _ _ => ⟨?_, ?_⟩⟩
      · intro index below
        exact absurd below (Nat.not_lt_zero _)
      · intro chunk member
        cases member
    · rename_i notBehind
      have inside : offset ≤ self.length := by bv_omega
      have fewer : (truncateCount self.length offset count).toNat ≤ count.toNat :=
        truncateCount_le inside
      dsimp only
      generalize truncateCount self.length offset count = asked at fewer
      obtain ⟨outcome, ran, ends⟩ := run_ends (asked.toNat + 1)
        ⟨asked, 0, offset, 0, memory, state, []⟩ reached.sound (Nat.lt_succ_self _)
      exact ⟨outcome, ran, ends.truthful_iff (by omega)⟩

/-- One chunk of four bytes, packed into three that its codec does not accept. -/
def damagedStream : DeviceStream Unit where
  device := {
    turns := 4
    fileRead := fun count offset _ =>
      (.delivered (slice [1, 2, 3] offset.toNat count.toNat), ())
    loadIndex := fun bevvyID _ =>
      (some ⟨bevvyID, 0, 1, some (store (fun _ => 0) 0 (ImageStreamPoint.toBytes ⟨0, 3⟩))⟩, ())
    decompress := fun _ _ _ => (⟨false, []⟩, ())
    allocate := fun _ => (fun _ => 0xcd, ())
    bounded := by
      intro count offset world
      simp [slice] }
  length := 4
  chunkSize := 4
  chunksInSegment := 1
  cacheSize := 1
  closed := false

/-- The chunk could not be decoded, and the read returns what `new` left in its buffer. -/
theorem damaged_chunk_returned :
    ∃ finish, damagedStream.read (fun _ => ⟨0, .container⟩) 4 0 (damagedStream.fresh ()) =
        some (.ok finish) ∧ finish.res = 4 ∧
      (List.range 4).map finish.memory = List.replicate 4 ⟨0xcd, .uninitialised⟩ ∧
      ¬damagedStream.Truthful (.ok finish) := by
  refine ⟨_, rfl, rfl, rfl, ?_⟩
  intro truthful
  rcases (truthful (by decide)).1 0 (by decide) with stored | decoded
  · cases stored
  · cases decoded

theorem read_genuine_iff_damagedStream :
    ∃ outcome, damagedStream.read (fun _ => ⟨0, .container⟩) 4 0 (damagedStream.fresh ()) =
        some outcome ∧ (damagedStream.Truthful outcome ↔
      damagedStream.Dependable (damagedStream.readNeeds 4 0 (damagedStream.fresh ()))) :=
  read_genuine_iff damagedStream (.fresh ()) _ (by decide) 0

end Aff4Lite.Stream.DeviceStream
