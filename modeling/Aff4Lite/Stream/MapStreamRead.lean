import Aff4Lite.Stream.MapStreamProperties

/-!
Reading a well-formed map. Inside the stream every turn of the loop finds an entry that
spans the current address and asks its stream for at least one byte. What a range asks of
the lower streams depends on the map alone: its pieces. If the bytes found that way are
those of one view, whatever address the lookup was made at, then a read whose requests are
served delivers that view.
-/

set_option autoImplicit false

namespace Aff4Lite.Stream

open Lib

/-- The entry and the lower stream that the lookup at `address` finds. -/
structure MapStream.Finds {Stream : Type} (stream : MapStream Stream) (address : U64)
    (entry : MapEntryPoint) (lower : Stream) : Prop where
  entryAt : stream.entryAt address = .ok entry
  lower : stream.streams[entry.streamID.toNat]? = some (some lower)
  below : entry.offset ≤ address

theorem MapStream.Finds.unique {Stream : Type} {stream : MapStream Stream} {address : U64}
    {left right : MapEntryPoint} {leftLower rightLower : Stream}
    (first : stream.Finds address left leftLower) (second : stream.Finds address right rightLower) :
    left = right ∧ leftLower = rightLower := by
  have same : left = right := Except.ok.inj (first.entryAt.symm.trans second.entryAt)
  subst same
  exact ⟨rfl, Option.some.inj (Option.some.inj (first.lower.symm.trans second.lower))⟩

theorem MapStream.Finds.member {Stream : Type} {stream : MapStream Stream}
    (wellFormed : stream.WellFormed) {address : U64} {entry : MapEntryPoint} {lower : Stream}
    (found : stream.Finds address entry lower) :
    (entry.offset.toNat, entry) ∈ stream.map.entries := by
  obtain ⟨other, member, atAddress, _⟩ := entryAt_total wellFormed address
  rw [found.entryAt] at atAddress
  exact Except.ok.inj atAddress ▸ member

theorem MapStream.WellFormed.finds {Stream : Type} {self : MapStream Stream}
    (wellFormed : self.WellFormed) (present : ∀ stream ∈ self.streams, stream.isSome)
    {address : U64} (inside : address < self.size) :
    ∃ entry lower, self.Finds address entry lower ∧ address - entry.offset < entry.length := by
  obtain ⟨entry, member, found, below, spans⟩ := entryAt_spans wellFormed inside
  have known := wellFormed.known _ member
  have listed := List.getElem?_eq_getElem known
  obtain ⟨lower, isLower⟩ := Option.isSome_iff_exists.mp (present _ (List.getElem_mem known))
  exact ⟨entry, lower, ⟨found, listed.trans (congrArg some isLower), below⟩, spans⟩

theorem readTurn_finished {Stream World : Type} (self : MapStream Stream)
    (reader : StreamReader Stream World) {state : ReadState Stream World}
    (finished : state.leftToRead = 0) :
    self.readTurn reader state =
      .done (.ok ⟨state.actualRead.toInt, state.memory, state.world, state.lowerReads⟩) := by
  rw [MapStream.readTurn, if_pos finished]

theorem readTurn_finds {Stream World : Type} {self : MapStream Stream}
    (reader : StreamReader Stream World) {state : ReadState Stream World} {entry : MapEntryPoint}
    {lower : Stream} (unfinished : state.leftToRead ≠ 0)
    (found : self.Finds state.offset entry lower) :
    self.readTurn reader state =
      state.serve lower (entry.readLength state.offset state.leftToRead)
        (reader.read lower (entry.readLength state.offset state.leftToRead)
          (entry.lowerOffset state.offset) state.world) := by
  rw [MapStream.readTurn, if_neg unfinished, found.entryAt]
  dsimp only
  rw [found.lower]

theorem ReadState.serve_positive {Stream World : Type} {state : ReadState Stream World}
    {stream : Stream} {count : U64} {outcome : ReadResult × World}
    (positive : ¬outcome.1.res ≤ 0) :
    state.serve stream count outcome = .next (state.advance stream count outcome) := by
  unfold ReadState.serve
  rw [if_neg positive]

theorem MapEntryPoint.readLength_pos {entry : MapEntryPoint} {offset leftToRead : U64}
    (unfinished : leftToRead ≠ 0) (spans : offset - entry.offset < entry.length) :
    0 < (entry.readLength offset leftToRead).toNat := by
  refine stdMin_pos ?_ ?_
  · bv_omega
  · bv_omega

theorem MapEntryPoint.readLength_le (entry : MapEntryPoint) (offset leftToRead : U64) :
    (entry.readLength offset leftToRead).toNat ≤ leftToRead.toNat := by
  rw [readLength, toNat_stdMin]
  exact min_le_left _ _

theorem MapEntryPoint.readLength_spans {entry : MapEntryPoint} {offset leftToRead : U64}
    (spans : offset - entry.offset < entry.length) {index : Nat}
    (within : index < (entry.readLength offset leftToRead).toNat) :
    offset + BitVec.ofNat 64 index - entry.offset < entry.length := by
  rw [readLength, toNat_stdMin] at within
  bv_omega

theorem MapEntryPoint.lowerOffset_add (entry : MapEntryPoint) (offset : U64) (index : Nat) :
    entry.lowerOffset (offset + BitVec.ofNat 64 index) =
      entry.lowerOffset offset + BitVec.ofNat 64 index := by
  unfold lowerOffset
  bv_omega

/-! ## Progress -/

def ReadState.Inside {Stream World : Type} (state : ReadState Stream World)
    (self : MapStream Stream) : Prop :=
  state.offset.toNat + state.leftToRead.toNat ≤ self.size.toNat

theorem readTurn_progress {Stream World : Type} {self : MapStream Stream}
    (wellFormed : self.WellFormed) (present : ∀ stream ∈ self.streams, stream.isSome)
    (reader : StreamReader Stream World) (state : ReadState Stream World)
    (inside : state.Inside self) :
    Loop.Progress (self.readTurn reader) (ReadState.Inside · self)
      (fun state => state.leftToRead.toNat) (fun outcome => ∃ result, outcome = .ok result)
      state := by
  by_cases finished : state.leftToRead = 0
  · exact .inl ⟨_, readTurn_finished self reader finished, _, rfl⟩
  · unfold ReadState.Inside at inside
    have below : state.offset < self.size := by bv_omega
    obtain ⟨entry, lower, found, spans⟩ := wellFormed.finds present below
    have positive := MapEntryPoint.readLength_pos finished spans
    have bounded := entry.readLength_le state.offset state.leftToRead
    unfold Loop.Progress
    rw [readTurn_finds reader finished found]
    unfold ReadState.serve
    dsimp only
    split
    · exact .inl ⟨_, rfl, _, rfl⟩
    · refine .inr ⟨_, rfl, ?_, ?_⟩
      · dsimp only [ReadState.Inside, ReadState.advance]
        bv_omega
      · dsimp only [ReadState.advance]
        bv_omega

/-- The loop of `read` ends for every range inside the stream, whatever the lower streams do. -/
theorem read_inside {Stream World : Type} {self : MapStream Stream}
    (wellFormed : self.WellFormed) (present : ∀ stream ∈ self.streams, stream.isSome)
    (isOpen : self.closed = false) (reader : StreamReader Stream World) (memory : Buffer)
    {count offset : U64} (inside : offset.toNat + count.toNat ≤ self.size.toNat) (world : World) :
    ∃ result, self.read reader memory count offset world = some (.ok result) := by
  have whole : truncateCount self.size offset count = count := by
    rw [truncateCount, if_neg (by bv_omega)]
  unfold MapStream.read
  rw [isOpen, if_neg Bool.false_ne_true, if_neg (by bv_omega), whole]
  obtain ⟨_, ran, result, rfl⟩ := Loop.run_total (ReadState.Inside · self)
    (fun state => state.leftToRead.toNat) _ (readTurn_progress wellFormed present reader)
    (show ReadState.Inside ⟨count, 0, offset, 0, memory, world, []⟩ self from inside)
    (Nat.lt_succ_self _)
  exact ⟨result, ran⟩

/-! ## Requests -/

structure Piece (Stream : Type) where
  address : U64
  stream : Option Stream
  count : U64
  lowerOffset : U64

def MapStream.piece {Stream : Type} (self : MapStream Stream) (offset leftToRead : U64) :
    Piece Stream :=
  match self.entryAt offset with
  | .error _ => ⟨offset, none, 0, 0⟩
  | .ok entry =>
      ⟨offset, self.streams[entry.streamID.toNat]?.join, entry.readLength offset leftToRead,
        entry.lowerOffset offset⟩

/-- The requests that `leftToRead` bytes from `offset` on split into. -/
def MapStream.pieces {Stream : Type} (self : MapStream Stream) :
    Nat → U64 → U64 → List (Piece Stream)
  | 0, _, _ => []
  | fuel + 1, offset, leftToRead =>
      if leftToRead = 0 then []
      else
        let first := self.piece offset leftToRead
        if first.count = 0 then [first]
        else first :: self.pieces fuel (offset + first.count) (leftToRead - first.count)

/-- The answers when the requests are made in turn; nothing answers for a missing stream. -/
def answers {Stream World : Type} (reader : StreamReader Stream World) :
    List (Piece Stream) → World → List (Piece Stream × ReadResult)
  | [], _ => []
  | piece :: rest, world =>
      match piece.stream with
      | none => [(piece, .failed)]
      | some stream =>
          let outcome := reader.read stream piece.count piece.lowerOffset world
          (piece, outcome.1) :: answers reader rest outcome.2

def MapStream.requests {Stream World : Type} (self : MapStream Stream)
    (reader : StreamReader Stream World) (count offset : U64) (world : World) :
    List (Piece Stream × ReadResult) :=
  if offset > self.size then []
  else
    let count := truncateCount self.size offset count
    answers reader (self.pieces (count.toNat + 1) offset count) world

private theorem pieces_unfinished {Stream : Type} (self : MapStream Stream)
    {offset leftToRead : U64}
    (unfinished : leftToRead ≠ 0) (fuel : Nat) :
    self.pieces (fuel + 1) offset leftToRead =
      if (self.piece offset leftToRead).count = 0 then [self.piece offset leftToRead]
      else self.piece offset leftToRead ::
        self.pieces fuel (offset + (self.piece offset leftToRead).count)
          (leftToRead - (self.piece offset leftToRead).count) := by
  rw [MapStream.pieces, if_neg unfinished]

theorem piece_count_le {Stream : Type} (self : MapStream Stream) (offset leftToRead : U64) :
    (self.piece offset leftToRead).count.toNat ≤ leftToRead.toNat := by
  unfold MapStream.piece
  cases self.entryAt offset with
  | error fault => exact Nat.zero_le _
  | ok entry =>
      dsimp only [MapEntryPoint.readLength]
      rw [toNat_stdMin]
      exact min_le_left _ _

theorem readTurn_piece {Stream World : Type} (self : MapStream Stream)
    (reader : StreamReader Stream World) {state : ReadState Stream World}
    (unfinished : state.leftToRead ≠ 0) :
    let piece := self.piece state.offset state.leftToRead
    (piece.stream = none ∧ ∃ fault, self.readTurn reader state = .done (.error fault)) ∨
      ∃ stream, piece.stream = some stream ∧
        self.readTurn reader state = state.serve stream piece.count
          (reader.read stream piece.count piece.lowerOffset state.world) := by
  unfold MapStream.readTurn MapStream.piece
  rw [if_neg unfinished]
  cases self.entryAt state.offset with
  | error fault => exact .inl ⟨rfl, fault, rfl⟩
  | ok entry =>
      dsimp only
      cases self.streams[entry.streamID.toNat]? with
      | none => exact .inl ⟨rfl, _, rfl⟩
      | some listed =>
          cases listed with
          | none => exact .inl ⟨rfl, _, rfl⟩
          | some stream => exact .inr ⟨stream, rfl, rfl⟩

theorem answers_unfinished {Stream World : Type} (self : MapStream Stream)
    (reader : StreamReader Stream World) {offset leftToRead : U64} (unfinished : leftToRead ≠ 0)
    {stream : Stream} (served : (self.piece offset leftToRead).stream = some stream)
    (fuel : Nat) (world : World) :
    let piece := self.piece offset leftToRead
    let outcome := reader.read stream piece.count piece.lowerOffset world
    answers reader (self.pieces (fuel + 1) offset leftToRead) world =
      (piece, outcome.1) :: if piece.count = 0 then []
        else answers reader (self.pieces fuel (offset + piece.count) (leftToRead - piece.count))
          outcome.2 := by
  rw [pieces_unfinished self unfinished]
  dsimp only
  split
  · simp only [answers, served]
  · simp only [answers, served]

theorem answers_unserved {Stream World : Type} (self : MapStream Stream)
    (reader : StreamReader Stream World) {offset leftToRead : U64} (unfinished : leftToRead ≠ 0)
    (unserved : (self.piece offset leftToRead).stream = none) (fuel : Nat) (world : World) :
    answers reader (self.pieces (fuel + 1) offset leftToRead) world =
      [(self.piece offset leftToRead, .failed)] := by
  rw [pieces_unfinished self unfinished]
  split
  · simp only [answers, unserved]
  · simp only [answers, unserved]

theorem StreamReader.count_pos {Stream World : Type} (reader : StreamReader Stream World)
    {stream : Stream} {count offset : U64} {world : World}
    (positive : ¬(reader.read stream count offset world).1.res ≤ 0) : count ≠ 0 := by
  intro nothing
  have bounded := (reader.bounded stream count offset world).1
  rw [ReadResult.res_eq_of_pos positive, ReadResult.res_delivered] at positive
  rw [nothing] at bounded positive
  exact positive (by exact_mod_cast bounded)

private theorem piece_of_finds {Stream : Type} {self : MapStream Stream} {offset : U64}
    {entry : MapEntryPoint} {lower : Stream} (found : self.Finds offset entry lower)
    (leftToRead : U64) :
    self.piece offset leftToRead =
      ⟨offset, some lower, entry.readLength offset leftToRead, entry.lowerOffset offset⟩ := by
  unfold MapStream.piece
  rw [found.entryAt]
  dsimp only
  rw [found.lower]
  rfl

private theorem pieces_count_le {Stream : Type} (self : MapStream Stream) {fuel : Nat}
    {offset leftToRead : U64} {piece : Piece Stream}
    (member : piece ∈ self.pieces fuel offset leftToRead) :
    piece.count.toNat ≤ leftToRead.toNat := by
  induction fuel generalizing offset leftToRead with
  | zero => cases member
  | succ fuel ih =>
      have bounded := piece_count_le self offset leftToRead
      by_cases finished : leftToRead = 0
      · rw [MapStream.pieces, if_pos finished] at member
        cases member
      · rw [pieces_unfinished self finished] at member
        split at member
        · rw [List.mem_singleton.mp member]
          exact bounded
        · rcases List.mem_cons.mp member with rfl | later
          · exact bounded
          · have rest := ih later
            bv_omega

/-- Each request is answered in full, with the bytes of the stream it asks. -/
def ServedBy {Stream : Type} (content : Stream → U64 → UInt8)
    (requests : List (Piece Stream × ReadResult)) : Prop :=
  ∀ request ∈ requests, ∀ stream, request.1.stream = some stream →
    request.2 = .delivered
      (window (content stream) request.1.lowerOffset request.1.count.toNat)

theorem ServedBy.cons {Stream : Type} {content : Stream → U64 → UInt8} {address : U64}
    {stream : Stream} {count lowerOffset : U64} {result : ReadResult}
    {requests : List (Piece Stream × ReadResult)}
    (served : ServedBy content ((⟨address, some stream, count, lowerOffset⟩, result) :: requests)) :
    result = .delivered (window (content stream) lowerOffset count.toNat) ∧
      ServedBy content requests :=
  ⟨served _ List.mem_cons_self stream rfl, fun request member => served request (.tail _ member)⟩

theorem StreamReader.Serves.answers {Stream World : Type} {reader : StreamReader Stream World}
    {content : Stream → U64 → UInt8} (serves : reader.Serves content)
    {pieces : List (Piece Stream)} (small : ∀ piece ∈ pieces, piece.count.toNat < 2 ^ 63)
    (world : World) : ServedBy content (answers reader pieces world) := by
  induction pieces generalizing world with
  | nil =>
      intro request member
      cases member
  | cons piece rest ih =>
      intro request member stream asked
      rw [Stream.answers] at member
      cases served : piece.stream with
      | none =>
          rw [served] at member
          rw [List.mem_singleton.mp member] at asked
          cases served.symm.trans asked
      | some lower =>
          rw [served] at member
          rcases List.mem_cons.mp member with rfl | later
          · cases served.symm.trans asked
            exact serves stream piece.count piece.lowerOffset world (small piece List.mem_cons_self)
          · exact ih (fun other member => small other (.tail _ member)) _ request later stream asked

/-! ## Lower reads -/

/-- A lower stream was asked for bytes of the entry that the lookup finds, inside the map. -/
structure MapStream.Asked {Stream : Type} (self : MapStream Stream)
    (lowerRead : LowerRead Stream) : Prop where
  found : ∃ entry, self.Finds lowerRead.address entry lowerRead.stream ∧
    ∀ index < lowerRead.count.toNat,
      lowerRead.address + BitVec.ofNat 64 index - entry.offset < entry.length
  inside : lowerRead.address.toNat + lowerRead.count.toNat ≤ self.size.toNat

section Asked

variable {Stream World : Type} {self : MapStream Stream} (wellFormed : self.WellFormed)
  {reader : StreamReader Stream World} {state : ReadState Stream World}

include wellFormed

private theorem advance_asked (inside : state.Inside self) (unfinished : state.leftToRead ≠ 0)
    {entry : MapEntryPoint} {stream : Stream} (atOffset : self.entryAt state.offset = .ok entry)
    (listed : self.streams[entry.streamID.toNat]? = some (some stream)) (result : ReadResult) :
    self.Asked ⟨state.offset, stream, entry.readLength state.offset state.leftToRead, result⟩ := by
  unfold ReadState.Inside at inside
  have below : state.offset < self.size := by bv_omega
  obtain ⟨other, _, found, reached, spans⟩ := entryAt_spans wellFormed below
  cases atOffset.symm.trans found
  have bounded := entry.readLength_le state.offset state.leftToRead
  refine ⟨⟨entry, ⟨atOffset, listed, reached⟩, fun index within => ?_⟩, ?_⟩
  · exact entry.readLength_spans spans within
  · dsimp only
    omega

/-- However a turn ends, it keeps to the entries of the map. -/
theorem readTurn_asked (inside : state.Inside self)
    (asked : ∀ lowerRead ∈ state.lowerReads, self.Asked lowerRead) :
    (∀ after, self.readTurn reader state = .next after →
      after.Inside self ∧ ∀ lowerRead ∈ after.lowerReads, self.Asked lowerRead) ∧
    ∀ result, self.readTurn reader state = .done (.ok result) →
      ∀ lowerRead ∈ result.lowerReads, self.Asked lowerRead := by
  by_cases finished : state.leftToRead = 0
  · rw [readTurn_finished self reader finished]
    refine ⟨nofun, fun result ended => ?_⟩
    cases ended
    exact asked
  unfold MapStream.readTurn
  rw [if_neg finished]
  split
  · exact ⟨nofun, nofun⟩
  rename_i entry atOffset
  split
  · exact ⟨nofun, nofun⟩
  · exact ⟨nofun, nofun⟩
  rename_i stream listed
  have last := advance_asked wellFormed inside finished atOffset listed
    (reader.read stream (entry.readLength state.offset state.leftToRead)
      (entry.lowerOffset state.offset) state.world).1
  have bounded := entry.readLength_le state.offset state.leftToRead
  have grown : ∀ lowerRead ∈ state.lowerReads ++ [_], self.Asked lowerRead :=
    List.forall_mem_append.mpr ⟨asked, List.forall_mem_singleton.mpr last⟩
  unfold ReadState.Inside at inside ⊢
  unfold ReadState.serve
  dsimp only
  split
  · refine ⟨nofun, fun result ended => ?_⟩
    cases ended
    exact grown
  · refine ⟨fun after moved => ?_, nofun⟩
    cases moved
    refine ⟨?_, grown⟩
    dsimp only [ReadState.advance]
    bv_omega

/-- What a read asks of the lower streams, it asks by the entries of the map. -/
theorem read_asked {memory : Buffer} {count offset : U64} {world : World}
    {result : ReadEnd Stream World} (noOverflow : offset.toNat + count.toNat < 2 ^ 64)
    (ran : self.read reader memory count offset world = some (.ok result)) :
    ∀ lowerRead ∈ result.lowerReads, self.Asked lowerRead := by
  unfold MapStream.read at ran
  split at ran
  · cases ran
    simp
  split at ran
  · cases ran
    simp
  rename_i reached
  have inside : offset ≤ self.size := BitVec.not_lt.mp reached
  have cut := toNat_truncateCount inside noOverflow
  obtain ⟨last, path, ended⟩ := Loop.run_reaches ran
  have kept := path.invariant
    (fun state => state.Inside self ∧ ∀ lowerRead ∈ state.lowerReads, self.Asked lowerRead)
    ⟨by unfold ReadState.Inside; bv_omega, by simp⟩
    fun before after holds moved => (readTurn_asked wellFormed holds.1 holds.2).1 after moved
  exact (readTurn_asked wellFormed kept.1 kept.2).2 result ended

end Asked

/-! ## Views -/

/-- Every entry gives the bytes of `view` for the addresses it spans, from whichever
address it was found. No read is longer than the largest object. -/
def MapStream.Shows {Stream : Type} (self : MapStream Stream) (content : Stream → U64 → UInt8)
    (view : U64 → UInt8) : Prop :=
  ∀ (first address : U64) (entry : MapEntryPoint) (lower : Stream),
    first ≤ address → address < self.size → address.toNat < first.toNat + (2 ^ 63 - 1) →
      self.Finds first entry lower → address - entry.offset < entry.length →
        content lower (entry.lowerOffset address) = view address

/-- The read loop has delivered the first `state.buffer` of `total` bytes of the view. -/
structure ReadState.Shown {Stream World : Type} (state : ReadState Stream World)
    (map : MapStream Stream) (view : U64 → UInt8) (start : U64) (total : Nat) : Prop where
  inside : state.Inside map
  left : state.buffer + state.leftToRead.toNat = total
  actual : state.actualRead.toNat = state.buffer
  position : state.offset.toNat = start.toNat + state.buffer
  bytes : ∀ index, index < state.buffer →
    state.memory.bytes index = view (start + BitVec.ofNat 64 index)

private theorem turn_window {Stream World : Type} {self : MapStream Stream}
    {content : Stream → U64 → UInt8} {view : U64 → UInt8} (shows : self.Shows content view)
    {state : ReadState Stream World} {start : U64} {total : Nat} (small : total < 2 ^ 63)
    (shown : state.Shown self view start total) {entry : MapEntryPoint} {lower : Stream}
    (found : self.Finds state.offset entry lower)
    (spans : state.offset - entry.offset < entry.length) :
    window (content lower) (entry.lowerOffset state.offset)
        (entry.readLength state.offset state.leftToRead).toNat =
      window view state.offset (entry.readLength state.offset state.leftToRead).toNat := by
  have bounded := entry.readLength_le state.offset state.leftToRead
  obtain ⟨inside, left, _, position, _⟩ := shown
  unfold ReadState.Inside at inside
  apply List.map_congr_left
  intro index member
  have within := List.mem_range.mp member
  have covered := entry.readLength_spans spans within
  rw [← entry.lowerOffset_add]
  exact shows state.offset (state.offset + BitVec.ofNat 64 index) entry lower
    (by bv_omega) (by bv_omega) (by bv_omega) found covered

private theorem readTurn_shown {Stream World : Type} {self : MapStream Stream}
    (wellFormed : self.WellFormed) (present : ∀ stream ∈ self.streams, stream.isSome)
    {reader : StreamReader Stream World} {content : Stream → U64 → UInt8} {view : U64 → UInt8}
    (shows : self.Shows content view) {state : ReadState Stream World} {start : U64} {total : Nat}
    (small : total < 2 ^ 63) (shown : state.Shown self view start total)
    (unfinished : state.leftToRead ≠ 0) {fuel : Nat}
    (served : ServedBy content
      (answers reader (self.pieces (fuel + 1) state.offset state.leftToRead) state.world)) :
    ∃ after, self.readTurn reader state = .next after ∧ after.Shown self view start total ∧
      after.leftToRead.toNat < state.leftToRead.toNat ∧
      ServedBy content
        (answers reader (self.pieces fuel after.offset after.leftToRead) after.world) := by
  have inside := shown.inside
  unfold ReadState.Inside at inside
  obtain ⟨entry, lower, found, spans⟩ :=
    wellFormed.finds present (show state.offset < self.size by bv_omega)
  have positive := MapEntryPoint.readLength_pos unfinished spans
  have bounded := entry.readLength_le state.offset state.leftToRead
  have sameBytes := turn_window shows small shown found spans
  have piece := piece_of_finds found state.leftToRead
  rw [answers_unfinished self reader unfinished (by rw [piece]), piece] at served
  dsimp only at served
  rw [readTurn_finds reader unfinished found]
  obtain ⟨_, left, actual, position, bytes⟩ := shown
  generalize entry.readLength state.offset state.leftToRead = asked at *
  rw [if_neg (by bv_omega)] at served
  obtain ⟨delivered, later⟩ := served.cons
  unfold ReadState.serve
  rw [delivered, sameBytes]
  simp only [ReadResult.res_delivered, length_window]
  rw [if_neg (by omega)]
  refine ⟨_, rfl, ⟨?_, ?_, ?_, ?_, ?_⟩, ?_, later⟩
  · dsimp only [ReadState.Inside, ReadState.advance]
    bv_omega
  · dsimp only [ReadState.advance]
    bv_omega
  · dsimp only [ReadState.advance]
    bv_omega
  · dsimp only [ReadState.advance]
    bv_omega
  · intro index written
    dsimp only [Buffer.write, ReadState.advance] at written ⊢
    rw [delivered, sameBytes, ReadResult.bytes_delivered]
    refine store_cells (fun index byte => byte = view (start + BitVec.ofNat 64 index)) bytes ?_
      (by rwa [length_window])
    intro step byte found
    have within : step < asked.toNat := by
      simpa using (List.getElem?_eq_some_iff.mp found).1
    rw [getElem?_window view state.offset within] at found
    cases found
    congr 1
    bv_omega
  · dsimp only [ReadState.advance]
    bv_omega

private theorem run_shown {Stream World : Type} {self : MapStream Stream}
    (wellFormed : self.WellFormed) (present : ∀ stream ∈ self.streams, stream.isSome)
    {reader : StreamReader Stream World} {content : Stream → U64 → UInt8} {view : U64 → UInt8}
    (shows : self.Shows content view) {start : U64} {total : Nat} (small : total < 2 ^ 63)
    {fuel : Nat} {state : ReadState Stream World} (enough : state.leftToRead.toNat < fuel)
    (shown : state.Shown self view start total)
    (served : ServedBy content
      (answers reader (self.pieces fuel state.offset state.leftToRead) state.world)) :
    ∃ result, Loop.run (self.readTurn reader) fuel state = some (.ok result) ∧
      result.res = (total : Int) ∧
      ∀ index, index < total →
        result.memory.bytes index = view (start + BitVec.ofNat 64 index) := by
  induction fuel generalizing state with
  | zero => exact absurd enough (Nat.not_lt_zero _)
  | succ fuel ih =>
      by_cases finished : state.leftToRead = 0
      · have all : state.buffer = total := by
          have remaining := shown.left
          rw [finished] at remaining
          exact remaining
        have actual := shown.actual
        refine ⟨_, Loop.run_done (readTurn_finished self reader finished) fuel, ?_, ?_⟩
        · dsimp only
          rw [toInt_of_lt (by omega), actual, all]
        · exact all ▸ shown.bytes
      · obtain ⟨after, turned, stillShown, fewer, later⟩ :=
          readTurn_shown wellFormed present shows small shown finished served
        rw [Loop.run_next turned]
        exact ih (by omega) stillShown later

private theorem start_shown {Stream World : Type} (self : MapStream Stream) (memory : Buffer)
    (world : World) (view : U64 → UInt8) {offset count : U64}
    (inside : offset.toNat + count.toNat ≤ self.size.toNat) :
    ReadState.Shown ⟨count, 0, offset, 0, memory, world, []⟩ self view offset count.toNat where
  inside := inside
  left := Nat.zero_add _
  actual := rfl
  position := rfl
  bytes := by
    intro index negative
    cases negative

/-- A read of a map that shows `view` delivers it when the requests it makes are served. -/
theorem read_served {Stream World : Type} {self : MapStream Stream}
    (wellFormed : self.WellFormed) (present : ∀ stream ∈ self.streams, stream.isSome)
    (isOpen : self.closed = false) {reader : StreamReader Stream World}
    {content : Stream → U64 → UInt8} {view : U64 → UInt8} (shows : self.Shows content view)
    {offset count : U64} (inside : offset ≤ self.size)
    (noOverflow : offset.toNat + count.toNat < 2 ^ 64) (memory : Buffer)
    (room : min count.toNat (self.size.toNat - offset.toNat) ≤ memory.capacity) (world : World)
    (served : ServedBy content (self.requests reader count offset world)) :
    ∃ result, self.read reader memory count offset world = some (.ok result) ∧
      result.res = ((min count.toNat (self.size.toNat - offset.toNat) : Nat) : Int) ∧
      ∀ index, index < min count.toNat (self.size.toNat - offset.toNat) →
        result.memory.bytes index = view (offset + BitVec.ofNat 64 index) := by
  have truncated := toNat_truncateCount inside noOverflow
  have small := memory.capacity_lt
  unfold MapStream.requests at served
  rw [if_neg (by bv_omega)] at served
  unfold MapStream.read
  rw [isOpen, if_neg Bool.false_ne_true, if_neg (by bv_omega)]
  dsimp only at served ⊢
  generalize truncateCount self.size offset count = asked at *
  rw [← truncated] at room ⊢
  exact run_shown wellFormed present shows (by omega) (Nat.lt_succ_self asked.toNat)
    (start_shown self memory world view (by bv_omega)) served

theorem read_shows {Stream World : Type} {self : MapStream Stream}
    (wellFormed : self.WellFormed) (present : ∀ stream ∈ self.streams, stream.isSome)
    (isOpen : self.closed = false) {reader : StreamReader Stream World}
    {content : Stream → U64 → UInt8} (serves : reader.Serves content) {view : U64 → UInt8}
    (shows : self.Shows content view) {offset count : U64} (inside : offset ≤ self.size)
    (noOverflow : offset.toNat + count.toNat < 2 ^ 64) (memory : Buffer)
    (room : min count.toNat (self.size.toNat - offset.toNat) ≤ memory.capacity) (world : World) :
    ∃ result, self.read reader memory count offset world = some (.ok result) ∧
      result.res = ((min count.toNat (self.size.toNat - offset.toNat) : Nat) : Int) ∧
      ∀ index, index < min count.toNat (self.size.toNat - offset.toNat) →
        result.memory.bytes index = view (offset + BitVec.ofNat 64 index) := by
  have truncated := toNat_truncateCount inside noOverflow
  have small := memory.capacity_lt
  refine read_served wellFormed present isOpen shows inside noOverflow memory room world ?_
  unfold MapStream.requests
  rw [if_neg (by bv_omega)]
  refine serves.answers (fun piece member => ?_) world
  have bounded := pieces_count_le self member
  omega

end Aff4Lite.Stream
