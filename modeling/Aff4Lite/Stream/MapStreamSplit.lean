import Aff4Lite.Stream.MapStreamRecords

/-!
Splitting a read. Overlapping records can leave an entry that reaches over the key of a
later one; a read that comes from before the key then sees other bytes than a read that
starts behind it. Reads compose exactly when no two lookups disagree on a byte.
-/

set_option autoImplicit false

namespace Aff4Lite.Stream

open Lib

def MapStream.delivered {Stream World : Type} (self : MapStream Stream)
    (reader : StreamReader Stream World) (memory : Buffer) (count offset : U64) (world : World) :
    Option Bytes :=
  match self.read reader memory count offset world with
  | some (.ok result) => some (firstCells result.memory.bytes result.res.toNat)
  | _ => none

private theorem MapStream.delivered_of_read {Stream World : Type} {self : MapStream Stream}
    {reader : StreamReader Stream World} {memory : Buffer} {count offset : U64} {world : World}
    {result : ReadEnd Stream World}
    (ran : self.read reader memory count offset world = some (.ok result)) :
    self.delivered reader memory count offset world =
      some (firstCells result.memory.bytes result.res.toNat) := by
  rw [delivered, ran]

/-- Reading a range of the stream in one piece or in two gives the same bytes. -/
def MapStream.ReadsCompose {Stream World : Type} (self : MapStream Stream)
    (reader : StreamReader Stream World) : Prop :=
  ∀ offset count k : U64, k ≤ count → offset.toNat + count.toNat ≤ self.size.toNat →
    ∀ memory : Buffer, count.toNat ≤ memory.capacity → ∀ first second third : World,
      ∃ left right, self.delivered reader memory k offset first = some left ∧
        self.delivered reader memory (count - k) (offset + k) second = some right ∧
        self.delivered reader memory count offset third = some (left ++ right)

/-- Where an entry, found at `first`, still spans `address`, it gives the byte that the
entry found at `address` gives. -/
def MapStream.OwnersAgree {Stream : Type} (self : MapStream Stream)
    (content : Stream → U64 → UInt8) : Prop :=
  ∀ (first address : U64) (entry here : MapEntryPoint) (lower hereLower : Stream),
    first ≤ address → address < self.size → address.toNat < first.toNat + (2 ^ 63 - 1) →
      self.Finds first entry lower → address - entry.offset < entry.length →
        self.Finds address here hereLower →
          content lower (entry.lowerOffset address) = content hereLower (here.lowerOffset address)

def MapStream.lookupByte {Stream : Type} (self : MapStream Stream)
    (content : Stream → U64 → UInt8) (address : U64) : UInt8 :=
  match self.entryAt address with
  | .ok entry =>
      match self.streams[entry.streamID.toNat]? with
      | some (some lower) => content lower (entry.lowerOffset address)
      | _ => 0
  | .error _ => 0

theorem MapStream.Finds.lookupByte {Stream : Type} {self : MapStream Stream} {address : U64}
    {entry : MapEntryPoint} {lower : Stream} (found : self.Finds address entry lower)
    (content : Stream → U64 → UInt8) :
    self.lookupByte content address = content lower (entry.lowerOffset address) := by
  unfold MapStream.lookupByte
  rw [found.entryAt]
  dsimp only
  rw [found.lower]

theorem MapStream.OwnersAgree.shows {Stream : Type} {self : MapStream Stream}
    {content : Stream → U64 → UInt8} (agree : self.OwnersAgree content)
    (wellFormed : self.WellFormed) (present : ∀ stream ∈ self.streams, stream.isSome) :
    self.Shows content (self.lookupByte content) := by
  intro first address entry lower ordered inside near found spans
  obtain ⟨here, hereLower, atAddress, _⟩ := wellFormed.finds present inside
  rw [atAddress.lookupByte]
  exact agree first address entry here lower hereLower ordered inside near found spans atAddress

private theorem delivered_shows {Stream World : Type} {self : MapStream Stream}
    (wellFormed : self.WellFormed) (present : ∀ stream ∈ self.streams, stream.isSome)
    (isOpen : self.closed = false) {reader : StreamReader Stream World}
    {content : Stream → U64 → UInt8} (serves : reader.Serves content) {view : U64 → UInt8}
    (views : self.Shows content view) {offset count : U64}
    (inside : offset.toNat + count.toNat ≤ self.size.toNat) {memory : Buffer}
    (room : count.toNat ≤ memory.capacity) (world : World) :
    self.delivered reader memory count offset world = some (window view offset count.toNat) := by
  have sizeSmall := self.size.isLt
  have whole : min count.toNat (self.size.toNat - offset.toNat) = count.toNat := by omega
  have below : offset ≤ self.size := by bv_omega
  have noOverflow : offset.toNat + count.toNat < 2 ^ 64 := by omega
  obtain ⟨result, ran, returned, bytes⟩ := read_shows wellFormed present isOpen serves views
    below noOverflow memory (by rwa [whole]) world
  rw [whole] at returned bytes
  rw [MapStream.delivered_of_read ran, returned]
  exact congrArg some (firstCells_eq_window bytes)

private theorem compose_of_agree {Stream World : Type} {self : MapStream Stream}
    (wellFormed : self.WellFormed) (present : ∀ stream ∈ self.streams, stream.isSome)
    (isOpen : self.closed = false) {reader : StreamReader Stream World}
    {content : Stream → U64 → UInt8} (serves : reader.Serves content)
    (agree : self.OwnersAgree content) : self.ReadsCompose reader := by
  intro offset count k within inside memory room first second third
  have views := agree.shows wellFormed present
  have split : count.toNat = k.toNat + (count - k).toNat := by bv_omega
  refine ⟨window (self.lookupByte content) offset k.toNat,
    window (self.lookupByte content) (offset + k) (count - k).toNat, ?_, ?_, ?_⟩
  · exact delivered_shows wellFormed present isOpen serves views (by bv_omega) (by bv_omega) first
  · exact delivered_shows wellFormed present isOpen serves views (by bv_omega) (by bv_omega) second
  · rw [delivered_shows wellFormed present isOpen serves views inside room third, split,
      window_add, BitVec.ofNat_toNat, BitVec.setWidth_eq]

private theorem delivered_single {Stream World : Type} {self : MapStream Stream}
    (isOpen : self.closed = false) {reader : StreamReader Stream World}
    {content : Stream → U64 → UInt8} (serves : reader.Serves content) {offset count : U64}
    (nonzero : 0 < count.toNat) (small : count.toNat < 2 ^ 63)
    (inside : offset.toNat + count.toNat ≤ self.size.toNat) {entry : MapEntryPoint} {lower : Stream}
    (found : self.Finds offset entry lower)
    (spans : (offset - entry.offset).toNat + count.toNat ≤ entry.length.toNat)
    (memory : Buffer) (world : World) :
    self.delivered reader memory count offset world =
      some (window (content lower) (entry.lowerOffset offset) count.toNat) := by
  have whole : truncateCount self.size offset count = count := by
    rw [truncateCount, if_neg (by bv_omega)]
  have all : entry.readLength offset count = count := by
    apply BitVec.eq_of_toNat_eq
    rw [MapEntryPoint.readLength, toNat_stdMin]
    bv_omega
  have served := serves lower count (entry.lowerOffset offset) world small
  have positive : ¬(reader.read lower count (entry.lowerOffset offset) world).1.res ≤ 0 := by
    rw [served, ReadResult.res_delivered, length_window]
    omega
  let start : ReadState Stream World := ⟨count, 0, offset, 0, memory, world, []⟩
  let after := start.advance lower count (reader.read lower count (entry.lowerOffset offset) world)
  have turned : self.readTurn reader start = .next after := by
    have unfinished : start.leftToRead ≠ 0 := fun empty => by
      have nothing : count = 0 := empty
      rw [nothing] at nonzero
      exact absurd nonzero (by decide)
    have asked : entry.readLength start.offset start.leftToRead = count := all
    rw [readTurn_finds reader unfinished found, asked]
    exact ReadState.serve_positive positive
  have finished : after.leftToRead = 0 := BitVec.sub_self count
  obtain ⟨fuel, enough⟩ : ∃ fuel, count.toNat + 1 = fuel + 1 + 1 := ⟨count.toNat - 1, by omega⟩
  have ran : self.read reader memory count offset world =
      some (.ok ⟨after.actualRead.toInt, after.memory, after.world, after.lowerReads⟩) := by
    unfold MapStream.read
    rw [isOpen, if_neg Bool.false_ne_true, if_neg (by bv_omega), whole]
    dsimp only
    rw [enough, Loop.run_next turned, Loop.run_done (readTurn_finished self reader finished)]
  rw [MapStream.delivered_of_read ran]
  dsimp only [after, start, ReadState.advance, Buffer.write]
  rw [served, zero_add, toInt_of_lt small, Int.toNat_natCast]
  refine congrArg some (firstCells_eq_window ?_)
  intro index within
  have cell := getElem?_window (content lower) (entry.lowerOffset offset) within
  have stored := store_inside memory.bytes 0 cell
  rwa [Nat.zero_add] at stored

private theorem window_one {α : Type} (space : U64 → α) (start : U64) :
    window space start 1 = [space start] := by
  simp [window]

/-- The agreement is needed: the two ways to reach an address, as two ways to read it. -/
theorem agree_of_compose {Stream World : Type} {self : MapStream Stream} (world : World)
    (wellFormed : self.WellFormed) (present : ∀ stream ∈ self.streams, stream.isSome)
    (isOpen : self.closed = false) {reader : StreamReader Stream World}
    {content : Stream → U64 → UInt8} (serves : reader.Serves content)
    (compose : self.ReadsCompose reader) : self.OwnersAgree content := by
  intro first address entry here lower hereLower ordered inside near found spans atAddress
  have below := found.below
  have covers : address - here.offset < here.length := by
    obtain ⟨other, otherLower, found, covers⟩ := wellFormed.finds present inside
    exact (atAddress.unique found).1 ▸ covers
  -- Read from `first` up to `address`, and split off the last byte.
  let k := address - first
  have steps : k.toNat = address.toNat - first.toNat := toNat_sub_of_le (by bv_omega)
  have count : (k + 1).toNat = k.toNat + 1 := by bv_omega
  have last : k + 1 - k = 1 := by bv_omega
  have arrives : first + k = address := by bv_omega
  let memory : Buffer := ⟨fun _ => 0, k.toNat + 1, by omega⟩
  obtain ⟨left, right, _, tail, whole⟩ := compose first (k + 1) k (by bv_omega) (by bv_omega) memory
    (le_of_eq count) world world world
  rw [last, arrives, delivered_single isOpen serves (by decide) (by decide) (by bv_omega) atAddress
    (by bv_omega)] at tail
  rw [delivered_single isOpen serves (by omega) (by omega) (by bv_omega) found (by bv_omega),
    count, window_add] at whole
  have equal := Option.some.inj whole
  have lastByte := (List.append_inj' equal (by simp [← Option.some.inj tail])).2
  rw [← Option.some.inj tail, show (1 : U64).toNat = 1 from rfl, ← entry.lowerOffset_add,
    BitVec.ofNat_toNat, BitVec.setWidth_eq, arrives] at lastByte
  rw [window_one, window_one] at lastByte
  exact List.head_eq_of_cons_eq lastByte

theorem MapStream.Shows.ownersAgree {Stream : Type} {self : MapStream Stream}
    {content : Stream → U64 → UInt8} {view : U64 → UInt8} (views : self.Shows content view)
    (wellFormed : self.WellFormed) (present : ∀ stream ∈ self.streams, stream.isSome) :
    self.OwnersAgree content := by
  intro first address entry here lower hereLower ordered inside near found spans atAddress
  obtain ⟨other, otherLower, again, covers⟩ := wellFormed.finds present inside
  obtain ⟨rfl, rfl⟩ := atAddress.unique again
  rw [views first address entry lower ordered inside near found spans]
  exact (views address address here hereLower (BitVec.le_refl _) inside (by omega) atAddress
    covers).symm

/-- Reads of an open map compose exactly when its lookups agree. -/
theorem reads_compose_iff_owners_agree {Stream World : Type} {parent : Parent Stream}
    {resource : Bytes} {size : U64} {unknownOverride mapGapStream : Option Stream}
    {order : PointSort} {heap : Nat → UInt8} {self : MapStream Stream}
    (created : MapStream.create parent resource size unknownOverride mapGapStream order heap =
      .ok self) (isOpen : self.closed = false) (gapPresent : mapGapStream.isSome)
    {reader : StreamReader Stream World} (world : World) {content : Stream → U64 → UInt8}
    (serves : reader.Serves content) : self.ReadsCompose reader ↔ self.OwnersAgree content := by
  have wellFormed := create_wellFormed created isOpen
  have present := create_present created isOpen gapPresent
  exact ⟨agree_of_compose world wellFormed present isOpen serves,
    compose_of_agree wellFormed present isOpen serves⟩

/-- A record at 0 that reaches over a later record at 50: the first one serves a read of all
60 bytes, the second one a read from 50 on. -/
theorem overlapping_reads_differ :
    ∃ self, MapStream.create (Parent.ofRecords twoLines overlappingRecords (by decide)) [] 0 none
        (some (text "gap")) .insertion (fun _ => 0) = .ok self ∧ self.closed = false ∧
      ¬self.ReadsCompose (.ofContent fun name _ => if name = text "a" then 1 else 2) := by
  have created := create_overlapping
  refine ⟨_, created, rfl, ?_⟩
  intro compose
  have agree := agree_of_compose () (create_wellFormed created rfl)
    (create_present created rfl rfl) rfl (StreamReader.ofContent_serves _) compose
  have same := agree 0 50 ⟨0, 100, 0, 0⟩ ⟨50, 10, 0, 1⟩ (text "a") (text "b") (by decide)
    (by decide) (by decide) ⟨rfl, rfl, by decide⟩ (by decide) ⟨rfl, rfl, by decide⟩
  exact absurd same (by decide)

theorem reads_compose_iff_overlapping :
    ∃ self, MapStream.create (Parent.ofRecords twoLines overlappingRecords (by decide)) [] 0 none
        (some (text "gap")) .insertion (fun _ => 0) = .ok self ∧
      (self.ReadsCompose (.ofContent fun _ _ => 7) ↔ self.OwnersAgree fun _ _ => 7) :=
  have created := create_overlapping
  ⟨_, created,
    reads_compose_iff_owners_agree created rfl rfl () (StreamReader.ofContent_serves _)⟩

end Aff4Lite.Stream
