import Aff4Lite.Stream.MapStreamRecords
import Aff4Lite.Stream.StreamObject

/-!
# The image behind a map

A map over streams that serve their extents is itself an extent that is read: the mosaic of
its records. A read over stream objects with caches goes the same way as a read over the
bytes of the extents, turn by turn, so what is known of the second holds of the first.
-/

set_option autoImplicit false

namespace Aff4Lite.Stream

open Lib

variable {Stream World : Type}

/-! ## The same read over the bytes of the extents -/

/-- The bytes of the extents, by their addresses. -/
def extentBytes (content : Stream → Extent UInt8) (stream : Stream) (address : U64) : UInt8 :=
  (content stream).item address.toNat

private theorem window_extentBytes {content : Stream → Extent UInt8} {stream : Stream}
    {offset : U64}
    {count : Nat} (inside : offset.toNat + count ≤ (content stream).size)
    (addressed : (content stream).size < 2 ^ 64) :
    window (extentBytes content stream) offset count =
      (content stream).read offset.toNat count := by
  rw [window, Extent.read, Nat.min_eq_left (by omega)]
  apply List.map_congr_left
  intro index member
  have below := List.mem_range.mp member
  have place : (offset + BitVec.ofNat 64 index).toNat = offset.toNat + index := by
    bv_omega
  rw [extentBytes, place]

/-- Whatever entry a read uses inside the map, it stays inside the extent of its stream. -/
def MapStream.Within (self : MapStream Stream) (content : Stream → Extent UInt8) : Prop :=
  ∀ (first address : U64) (entry : MapEntryPoint) (lower : Stream),
    first ≤ address → address < self.size → self.Finds first entry lower →
      address - entry.offset < entry.length →
        (entry.lowerOffset first).toNat + (address.toNat - first.toNat) < (content lower).size

/-- Two reads stand at the same place with the same buffer; the first of them is in a good world. -/
structure ReadState.Mirrors (map : MapStream Stream) (good : World → Prop)
    (left : ReadState Stream World) (right : ReadState Stream Unit) : Prop where
  leftToRead : left.leftToRead = right.leftToRead
  actualRead : left.actualRead = right.actualRead
  offset : left.offset = right.offset
  buffer : left.buffer = right.buffer
  memory : left.memory = right.memory
  inside : left.Inside map
  small : left.leftToRead.toNat < 2 ^ 63
  world : good left.world

def ReadEnd.Mirrors (good : World → Prop) :
    Except Fault (ReadEnd Stream World) → Except Fault (ReadEnd Stream Unit) → Prop
  | .ok left, .ok right => left.res = right.res ∧ left.memory = right.memory ∧ good left.world
  | _, _ => False

section Read

variable {self : MapStream Stream} {reader : StreamReader Stream World} {good : World → Prop}
  {content : Stream → Extent UInt8}

private theorem readTurn_mirrors (wellFormed : self.WellFormed)
    (present : ∀ stream ∈ self.streams, stream.isSome)
    (serves : reader.ServesExtents good content)
    (addressed : ∀ stream, (content stream).size < 2 ^ 64) (within : self.Within content)
    {left : ReadState Stream World} {right : ReadState Stream Unit}
    (mirrors : left.Mirrors self good right) :
    Loop.TurnRel (ReadState.Mirrors self good) (ReadEnd.Mirrors good) (self.readTurn reader left)
      (self.readTurn (.ofContent (extentBytes content)) right) := by
  obtain ⟨leftToRead, actualRead, offset, buffer, memory, inside, small, world⟩ := mirrors
  by_cases finished : left.leftToRead = 0
  · rw [readTurn_finished self _ finished, readTurn_finished self _ (leftToRead ▸ finished)]
    exact .done ⟨by dsimp only; rw [actualRead], memory, world⟩
  · unfold ReadState.Inside at inside
    obtain ⟨entry, lower, found, spans⟩ :=
      wellFormed.finds present (show left.offset < self.size by bv_omega)
    have positive := MapEntryPoint.readLength_pos finished spans
    have bounded := entry.readLength_le left.offset left.leftToRead
    have last : left.offset + BitVec.ofNat 64 ((entry.readLength left.offset
        left.leftToRead).toNat - 1) - entry.offset < entry.length :=
      entry.readLength_spans spans (Nat.sub_one_lt_of_lt positive)
    have reaches := within left.offset _ entry lower (by bv_omega) (by bv_omega) found last
    have fits : (entry.lowerOffset left.offset).toNat +
        (entry.readLength left.offset left.leftToRead).toNat ≤ (content lower).size := by
      bv_omega
    rw [readTurn_finds reader finished found,
      readTurn_finds (.ofContent (extentBytes content)) (leftToRead ▸ finished) (offset ▸ found),
      ← offset, ← leftToRead]
    generalize entry.readLength left.offset left.leftToRead = asked at *
    have answered := serves.answered (lower, asked, entry.lowerOffset left.offset) left.world world
      (by dsimp only; omega) (lt_of_le_of_lt fits (addressed lower))
    have kept := serves.kept (lower, asked, entry.lowerOffset left.offset) left.world world
    have ideal := StreamReader.ofContent_serves (extentBytes content) lower asked
      (entry.lowerOffset left.offset) right.world (by omega)
    rw [window_extentBytes fits (addressed lower)] at ideal
    dsimp only at answered kept
    have delivers : ¬(ReadResult.delivered ((content lower).read
        (entry.lowerOffset left.offset).toNat asked.toNat)).res ≤ 0 := by
      rw [ReadResult.res_delivered, Extent.length_read]
      omega
    rw [ReadState.serve_positive (answered ▸ delivers), ReadState.serve_positive (ideal ▸ delivers)]
    refine .next ⟨?_, ?_, ?_, ?_, ?_, ?_, ?_, kept⟩
    · dsimp only [ReadState.advance]
      rw [leftToRead]
    · dsimp only [ReadState.advance]
      rw [actualRead]
    · dsimp only [ReadState.advance]
      rw [offset]
    · dsimp only [ReadState.advance]
      rw [buffer]
    · dsimp only [ReadState.advance]
      rw [answered, ideal, memory, buffer]
    · dsimp only [ReadState.Inside, ReadState.advance]
      bv_omega
    · dsimp only [ReadState.advance]
      bv_omega

/-- A read over streams that serve their extents is a read over the bytes of the extents. -/
theorem read_mirrors (wellFormed : self.WellFormed)
    (present : ∀ stream ∈ self.streams, stream.isSome)
    (serves : reader.ServesExtents good content)
    (addressed : ∀ stream, (content stream).size < 2 ^ 64) (within : self.Within content)
    (memory : Buffer) {count offset : U64} (small : count.toNat < 2 ^ 63)
    (noOverflow : offset.toNat + count.toNat < 2 ^ 64) {world : World} (initial : good world) :
    Option.Rel (ReadEnd.Mirrors good) (self.read reader memory count offset world)
      (self.read (.ofContent (extentBytes content)) memory count offset ()) := by
  unfold MapStream.read
  split
  · exact .some ⟨rfl, rfl, initial⟩
  split
  · exact .some ⟨rfl, rfl, initial⟩
  · rename_i inside
    have truncated : (truncateCount self.size offset count).toNat =
        min count.toNat (self.size.toNat - offset.toNat) :=
      toNat_truncateCount (by bv_omega) noOverflow
    refine Loop.run_rel (fun _ _ => readTurn_mirrors wellFormed present serves addressed within) _
      ⟨rfl, rfl, rfl, rfl, rfl, ?_, ?_, initial⟩
    · dsimp only [ReadState.Inside]
      bv_omega
    · dsimp only
      omega

/-- What every call of a lower stream keeps, a turn of the loop keeps. -/
theorem readTurn_keeps (kept : ∀ stream count offset world, good world →
      good (reader.read stream count offset world).2)
    {state : ReadState Stream World} (held : good state.world) :
    (∀ after, self.readTurn reader state = .next after → good after.world) ∧
      ∀ result, self.readTurn reader state = .done (.ok result) → good result.world := by
  unfold MapStream.readTurn
  split
  · refine ⟨fun after moved => (nomatch moved), ?_⟩
    intro result left
    cases left
    exact held
  split
  · exact ⟨fun after moved => (nomatch moved), fun result left => (nomatch left)⟩
  split
  · exact ⟨fun after moved => (nomatch moved), fun result left => (nomatch left)⟩
  · exact ⟨fun after moved => (nomatch moved), fun result left => (nomatch left)⟩
  · rename_i entry _ _ stream _
    have served := kept stream (entry.readLength state.offset state.leftToRead)
      (entry.lowerOffset state.offset) state.world held
    unfold ReadState.serve
    dsimp only
    split
    · refine ⟨fun after moved => (nomatch moved), ?_⟩
      intro result left
      cases left
      exact served
    · refine ⟨?_, fun result left => (nomatch left)⟩
      intro after moved
      cases moved
      exact served

/-- A turn that goes round again moves both counters by what it asked for. -/
theorem readTurn_cursors {before after : ReadState Stream World}
    (moved : self.readTurn reader before = .next after) :
    ∃ asked : U64, asked.toNat ≤ before.leftToRead.toNat ∧
      after.actualRead = before.actualRead + asked ∧
      after.leftToRead = before.leftToRead - asked := by
  unfold MapStream.readTurn at moved
  split at moved
  · cases moved
  split at moved
  · cases moved
  split at moved
  · cases moved
  · cases moved
  · rename_i entry _ _ stream _
    unfold ReadState.serve at moved
    dsimp only at moved
    split at moved
    · cases moved
    · cases moved
      exact ⟨_, entry.readLength_le before.offset before.leftToRead, rfl, rfl⟩

private theorem readTurn_res {state : ReadState Stream World} {result : ReadEnd Stream World}
    (left : self.readTurn reader state = .done (.ok result)) :
    result.res = -1 ∨ result.res = state.actualRead.toInt := by
  unfold MapStream.readTurn at left
  split at left
  · cases left
    exact .inr rfl
  split at left
  · cases left
  split at left
  · cases left
  · cases left
  · unfold ReadState.serve at left
    dsimp only at left
    split at left
    · cases left
      exact .inl rfl
    · cases left

private theorem read_keeps (kept : ∀ stream count offset world, good world →
      good (reader.read stream count offset world).2)
    {memory : Buffer} {count offset : U64} {world : World} (held : good world)
    {result : ReadEnd Stream World}
    (ran : self.read reader memory count offset world = some (.ok result)) : good result.world := by
  unfold MapStream.read at ran
  split at ran
  · cases ran
    exact held
  split at ran
  · cases ran
    exact held
  · obtain ⟨last, reached, left⟩ := Loop.run_reaches ran
    have before := reached.invariant (fun state => good state.world) held
      fun _ after holds moved => (readTurn_keeps kept holds).1 after moved
    exact (readTurn_keeps kept before).2 result left

end Read

/-! ## Maps that picture an extent -/

/-- `MapStream::read` with a buffer of its own. A read without a defined outcome, which no map
that pictures an extent has, counts as a failure. -/
def MapStream.deliver (self : MapStream Stream) (reader : StreamReader Stream World)
    (scratch : Nat → UInt8) (count offset : U64) (world : World) : ReadResult × World :=
  match self.read reader (freshBuffer scratch count) count offset world with
  | some (.ok result) => (.returned result.res result.memory, result.world)
  | _ => (.failed, world)

/-- A call returns no more than it was asked for. -/
theorem read_res_le {self : MapStream Stream} {reader : StreamReader Stream World}
    {memory : Buffer} {count offset : U64} {world : World} {result : ReadEnd Stream World}
    (ran : self.read reader memory count offset world = some (.ok result)) :
    result.res ≤ count.toNat ∧ result.res < 2 ^ 63 := by
  unfold MapStream.read at ran
  split at ran
  · cases ran
    dsimp only
    omega
  split at ran
  · cases ran
    dsimp only
    omega
  · obtain ⟨last, reached, left⟩ := Loop.run_reaches ran
    have bounded : last.actualRead.toNat + last.leftToRead.toNat ≤ count.toNat := by
      refine reached.invariant
        (fun state => state.actualRead.toNat + state.leftToRead.toNat ≤ count.toNat) ?_ ?_
      · exact (Nat.zero_add _).trans_le (truncateCount_le (by bv_omega))
      · intro before after held moved
        obtain ⟨asked, less, actualRead, leftToRead⟩ := readTurn_cursors moved
        rw [actualRead, leftToRead]
        bv_omega
    have ends : result.res = -1 ∨ result.res = last.actualRead.toInt := readTurn_res left
    rcases ends with failed | counted
    · omega
    · rw [counted]
      exact toInt_bounded (by omega)

theorem MapStream.bounded (self : MapStream Stream) (reader : StreamReader Stream World)
    (scratch : Nat → UInt8) (count offset : U64) (world : World) :
    (self.deliver reader scratch count offset world).1.bytes.length ≤ count.toNat ∧
      (self.deliver reader scratch count offset world).1.bytes.length < 2 ^ 63 := by
  unfold deliver
  split
  · rename_i result ran
    exact ReadResult.length_returned_le _ (read_res_le ran)
  · exact ⟨Nat.zero_le _, Nat.two_pow_pos 63⟩

/-- Maps are streams as well. -/
def mapReader {Map : Type} (maps : Map → MapStream Stream) (reader : StreamReader Stream World)
    (scratch : Map → Nat → UInt8) : StreamReader Map World where
  read map count offset world := (maps map).deliver reader (scratch map) count offset world
  bounded map count offset world := (maps map).bounded reader (scratch map) count offset world

structure MapStream.Pictures (self : MapStream Stream) (content : Stream → Extent UInt8)
    (image : Extent UInt8) : Prop where
  isOpen : self.closed = false
  wellFormed : self.WellFormed
  present : ∀ stream ∈ self.streams, stream.isSome
  within : self.Within content
  size : self.size.toNat = image.size
  views : self.Shows (extentBytes content) fun address => image.item address.toNat

/-- Every read of a map that pictures an extent is answered from the extent, cut off at its end. -/
theorem MapStream.Pictures.transparent {self : MapStream Stream}
    {reader : StreamReader Stream World} {good : World → Prop} {content : Stream → Extent UInt8}
    {image : Extent UInt8} (pictures : self.Pictures content image)
    (serves : reader.ServesExtents good content)
    (addressed : ∀ stream, (content stream).size < 2 ^ 64) (scratch : Nat → UInt8) :
    Transparent (fun (request : U64 × U64) => self.deliver reader scratch request.1 request.2) good
      (ReadsExtent image) where
  answered := by
    obtain ⟨isOpen, wellFormed, present, within, size, views⟩ := pictures
    rintro ⟨count, offset⟩ world initial small noOverflow
    dsimp only at small noOverflow ⊢
    have mirrored := read_mirrors wellFormed present serves addressed within
      (freshBuffer scratch count) small noOverflow initial
    unfold deliver
    by_cases behind : offset > self.size
    · have stops : self.read reader (freshBuffer scratch count) count offset world =
          some (.ok ⟨0, freshBuffer scratch count, world, []⟩) := by
        rw [MapStream.read, isOpen, if_neg Bool.false_ne_true, if_pos behind]
      rw [stops]
      dsimp only
      rw [image.read_behind (by bv_omega) count.toNat]
      exact @ReadResult.returned_of_nat 0 _ _ rfl
    · have room : min count.toNat (self.size.toNat - offset.toNat) ≤
          (freshBuffer scratch count).capacity := by
        change _ ≤ min count.toNat (2 ^ 63 - 1)
        omega
      obtain ⟨ideal, ran, returned, bytes⟩ := read_shows wellFormed present isOpen
        (StreamReader.ofContent_serves (extentBytes content)) views
        (show offset ≤ self.size by bv_omega) noOverflow (freshBuffer scratch count) room ()
      rw [ran] at mirrored
      cases read : self.read reader (freshBuffer scratch count) count offset world with
      | none =>
          rw [read] at mirrored
          cases mirrored
      | some outcome =>
          rw [read] at mirrored
          cases mirrored with
          | some same =>
              cases outcome with
              | error fault => exact same.elim
              | ok result =>
                  obtain ⟨res, memory, _⟩ := same
                  dsimp only
                  rw [res, returned, memory]
                  rw [size] at bytes ⊢
                  refine ReadResult.returned_of_nat (firstCells_eq_read ?_)
                  intro index below
                  rw [bytes index below]
                  have place : (offset + BitVec.ofNat 64 index).toNat = offset.toNat + index := by
                    bv_omega
                  rw [place]
  kept := by
    intro request world held
    unfold deliver
    split
    · rename_i result ran
      exact read_keeps (fun stream count offset world => serves.kept (stream, count, offset) world)
        held ran
    · exact held

theorem mapReader_serves {Map : Type} {maps : Map → MapStream Stream}
    {reader : StreamReader Stream World} {good : World → Prop} {content : Stream → Extent UInt8}
    {image : Map → Extent UInt8} (pictures : ∀ map, (maps map).Pictures content (image map))
    (serves : reader.ServesExtents good content)
    (addressed : ∀ stream, (content stream).size < 2 ^ 64) (scratch : Map → Nat → UInt8) :
    (mapReader maps reader scratch).ServesExtents good image where
  answered call := ((pictures call.1).transparent serves addressed (scratch call.1)).answered call.2
  kept call := ((pictures call.1).transparent serves addressed (scratch call.1)).kept call.2

/-! ## The mosaic of the records -/

/-- What a record says about the image. -/
def MapEntryPoint.tile (streams : List (Option Stream)) (gap : Stream) (record : MapEntryPoint) :
    Tile Stream where
  start := record.offset.toNat
  length := record.length.toNat
  source := (streams[record.streamID.toNat]?.join).getD gap
  sourceStart := record.streamOffset.toNat

/-- The records over their streams, with the gap stream wherever there is none. -/
def recordMosaic {Item : Type} (size : Nat) (records : List MapEntryPoint)
    (streams : List (Option Stream)) (gap : Stream) (content : Stream → Extent Item) :
    Extent Item :=
  mosaic size (records.map (MapEntryPoint.tile streams gap)) gap content

private theorem find?_tile (records : List MapEntryPoint) (streams : List (Option Stream))
    (gap : Stream)
    (address : U64) :
    ((records.map (MapEntryPoint.tile streams gap)).find? fun piece =>
        piece.Covers address.toNat) =
      (records.find? fun record => record.Covers address).map (MapEntryPoint.tile streams gap) := by
  rw [List.find?_map]
  rfl

private theorem MapEntryPoint.Covers.toNat_lowerOffset {record : MapEntryPoint} {address : U64}
    (covers : record.Covers address) {size : Nat}
    (reaches : record.streamOffset.toNat + record.length.toNat ≤ size) (addressed : size < 2 ^ 64) :
    (record.lowerOffset address).toNat =
      record.streamOffset.toNat + (address.toNat - record.offset.toNat) := by
  unfold MapEntryPoint.Covers MapEntryPoint.stop at covers
  unfold MapEntryPoint.lowerOffset
  bv_omega

private theorem imageByte_eq_mosaic {records : List MapEntryPoint} {streams : List (Option Stream)}
    {gap : Stream} {content : Stream → Extent UInt8}
    (addressed : ∀ stream, (content stream).size < 2 ^ 64)
    (listed : ∀ record ∈ records, ∃ lower, streams[record.streamID.toNat]? = some (some lower) ∧
      record.streamOffset.toNat + record.length.toNat ≤ (content lower).size)
    (size : Nat) (address : U64) :
    imageByte records streams gap (extentBytes content) address =
      (recordMosaic size records streams gap content).item address.toNat := by
  rw [recordMosaic, mosaic]
  dsimp only
  rw [find?_tile, imageByte]
  cases found : records.find? fun record => record.Covers address with
  | none => rfl
  | some record =>
      obtain ⟨lower, isLower, reaches⟩ := listed record (List.mem_of_find?_eq_some found)
      have chosen := List.find?_some found
      have covers : record.Covers address := of_decide_eq_true chosen
      dsimp only [Option.map_some, MapEntryPoint.tile]
      rw [isLower]
      change (content lower).item (record.lowerOffset address).toNat = (content lower).item _
      rw [covers.toNat_lowerOffset reaches (addressed lower)]

/-- The segments of a map and what its constructor was given: records that do not overlap, of
ranges inside the extents of their streams, and a gap stream as long as the map. -/
structure OpenedMap (Stream : Type) (content : Stream → Extent UInt8) where
  parent : Parent Stream
  resource : Bytes
  size : U64
  unknownOverride : Option Stream
  gap : Stream
  order : PointSort
  heap : Nat → UInt8
  idx : Segment
  segment : Segment
  streams : List (Option Stream)
  self : MapStream Stream
  idxPresent : parent.getSegment (resource ++ text "/idx") = some idx
  resolved : initStreamVector parent resource unknownOverride = .ok streams
  mapPresent : parent.getSegment (resource ++ text "/map") = some segment
  created : MapStream.create parent resource size unknownOverride (some gap) order heap = .ok self
  isOpen : self.closed = false
  disjoint : DisjointRecords (segment.records heap) (nonEmptyLines idx.bytes).length
  reaches : ∀ record ∈ segment.records heap, ∀ lower,
    streams[record.streamID.toNat]? = some (some lower) →
      record.streamOffset.toNat + record.length.toNat ≤ (content lower).size
  gapReaches : self.size.toNat ≤ (content gap).size

namespace OpenedMap

variable {content : Stream → Extent UInt8}

/-- The image that the segments describe. -/
def image (opened : OpenedMap Stream content) : Extent UInt8 :=
  recordMosaic opened.self.size.toNat (opened.segment.records opened.heap) opened.streams opened.gap
    content

theorem listed (opened : OpenedMap Stream content) :
    ∀ record ∈ opened.segment.records opened.heap, ∃ lower,
      opened.streams[record.streamID.toNat]? = some (some lower) ∧
        record.streamOffset.toNat + record.length.toNat ≤ (content lower).size := by
  intro record member
  have lines := initStreamVector_resolved opened.idxPresent opened.resolved
  obtain ⟨_, lower, _, _, found⟩ := stream_of_line [] lines (opened.disjoint.known record member)
  rw [List.append_nil] at found
  exact ⟨lower, found, opened.reaches record member lower found⟩

/-- The constructed map keeps the streams of `idx` and then the gap stream, and its entries are
records or fill the holes between them. -/
theorem constructed (opened : OpenedMap Stream content) :
    opened.self.streams = opened.streams ++ [some opened.gap] ∧
      opened.streams.length < 2 ^ 32 ∧
      ∀ entry ∈ opened.self.map.entries, entry.2 ∈ opened.segment.records opened.heap ∨
        entry.2.FillsHole opened.streams.length (opened.segment.records opened.heap) := by
  obtain ⟨streams, segment, build, resolved, present, built, _, isSelf⟩ :=
    create_open opened.created opened.isOpen
  cases opened.resolved.symm.trans resolved
  cases opened.mapPresent.symm.trans present
  have few := initStreamVector_few opened.resolved
  have sameLength := (initStreamVector_resolved opened.idxPresent opened.resolved).length_eq
  have disjoint := opened.disjoint
  rw [sameLength] at disjoint
  have perm := opened.order.perm (opened.segment.records opened.heap)
  have placed := buildMap_placed opened.parent.createUnknownStream (some opened.gap) disjoint
    opened.order
  rw [← built] at placed
  rw [isSelf]
  refine ⟨placed.streams, few, ?_⟩
  intro entry member
  rcases fillTail_placed placed opened.size entry member with recorded | hole
  · exact .inl (perm.mem_iff.mp recorded)
  · refine .inr ⟨hole.streamID, hole.streamOffset, ?_⟩
    exact fun record recorded => hole.apart record (perm.mem_iff.mpr recorded)

private theorem listed_self (opened : OpenedMap Stream content) :
    ∀ record ∈ opened.segment.records opened.heap, ∃ lower,
      opened.self.streams[record.streamID.toNat]? = some (some lower) ∧
        record.streamOffset.toNat + record.length.toNat ≤ (content lower).size := by
  intro record member
  obtain ⟨lower, found, reaches⟩ := opened.listed record member
  refine ⟨lower, ?_, reaches⟩
  rw [opened.constructed.1, List.getElem?_append_left (List.getElem?_eq_some_iff.mp found).1, found]

/-- The records only ask for streams of `idx`. -/
theorem recordMosaic_self (opened : OpenedMap Stream content) {Item : Type} (size : Nat)
    (shown : Stream → Extent Item) :
    recordMosaic size (opened.segment.records opened.heap) opened.self.streams opened.gap shown =
      recordMosaic size (opened.segment.records opened.heap) opened.streams opened.gap shown := by
  unfold recordMosaic
  congr 1
  apply List.map_congr_left
  intro record member
  obtain ⟨lower, found, _⟩ := opened.listed record member
  obtain ⟨other, found', _⟩ := opened.listed_self record member
  rw [opened.constructed.1,
    List.getElem?_append_left (List.getElem?_eq_some_iff.mp found).1] at found'
  rw [MapEntryPoint.tile, MapEntryPoint.tile, opened.constructed.1,
    List.getElem?_append_left (List.getElem?_eq_some_iff.mp found).1]

theorem within (opened : OpenedMap Stream content)
    (addressed : ∀ stream, (content stream).size < 2 ^ 64) : opened.self.Within content := by
  intro first address entry lower ordered inside found spans
  have wellFormed := create_wellFormed opened.created opened.isOpen
  obtain ⟨streams, few, owned⟩ := opened.constructed
  have below := found.below
  rcases owned _ (found.member wellFormed) with recorded | hole
  · obtain ⟨other, isLower, reaches⟩ := opened.listed_self entry recorded
    cases found.lower.symm.trans isLower
    have covers : entry.Covers first := by
      unfold MapEntryPoint.Covers MapEntryPoint.stop
      bv_omega
    rw [covers.toNat_lowerOffset reaches (addressed lower)]
    bv_omega
  · have isGap : lower = opened.gap := by
      have atGap := found.lower
      rw [hole.streamID, BitVec.toNat_ofNat, Nat.mod_eq_of_lt few, streams] at atGap
      simpa using atGap.symm
    have same : entry.lowerOffset first = first := by
      rw [MapEntryPoint.lowerOffset, hole.streamOffset]
      bv_omega
    have reaches := opened.gapReaches
    rw [same, isGap]
    bv_omega

/-- Whatever the streams show, the map shows its mosaic. -/
theorem shows_mosaic (opened : OpenedMap Stream content)
    (addressed : ∀ stream, (content stream).size < 2 ^ 64) {shown : Stream → Extent UInt8}
    (sizes : ∀ stream, (shown stream).size = (content stream).size) :
    opened.self.Shows (extentBytes shown) fun address =>
      (recordMosaic opened.self.size.toNat (opened.segment.records opened.heap) opened.streams
        opened.gap shown).item address.toNat := by
  have wellFormed := create_wellFormed opened.created opened.isOpen
  obtain ⟨streams, few, owned⟩ := opened.constructed
  have views := shows_imageByte wellFormed opened.disjoint few streams owned (extentBytes shown)
  have listed : ∀ record ∈ opened.segment.records opened.heap, ∃ lower,
      opened.self.streams[record.streamID.toNat]? = some (some lower) ∧
        record.streamOffset.toNat + record.length.toNat ≤ (shown lower).size := by
    intro record member
    obtain ⟨lower, found, reaches⟩ := opened.listed_self record member
    exact ⟨lower, found, (sizes lower).symm ▸ reaches⟩
  have same : imageByte (opened.segment.records opened.heap) opened.self.streams opened.gap
      (extentBytes shown) = fun address =>
        (recordMosaic opened.self.size.toNat (opened.segment.records opened.heap) opened.streams
          opened.gap shown).item address.toNat := by
    funext address
    rw [imageByte_eq_mosaic (fun stream => (sizes stream).symm ▸ addressed stream) listed
      opened.self.size.toNat, opened.recordMosaic_self]
  rwa [same] at views

theorem pictures (opened : OpenedMap Stream content)
    (addressed : ∀ stream, (content stream).size < 2 ^ 64) :
    opened.self.Pictures content opened.image :=
  ⟨opened.isOpen, create_wellFormed opened.created opened.isOpen,
    create_present opened.created opened.isOpen rfl, opened.within addressed, rfl,
    opened.shows_mosaic addressed fun _ => rfl⟩

end OpenedMap

/-! ## Maps over a store of stream objects -/

section Store

variable {Ref Map : Type} [DecidableEq Ref]

/-- One read, of a map or of one of the stream objects themselves. `memory` is what the buffers
hold before the call. -/
def accessStore (objects : Ref → StreamObject) (maps : Map → MapStream Ref)
    (memory : Map ⊕ Ref → Nat → UInt8) (call : (Map ⊕ Ref) × U64 × U64)
    (world : Ref → ImageState) : ReadResult × (Ref → ImageState) :=
  let reader := StreamObject.reader objects fun ref => memory (.inr ref)
  match call.1 with
  | .inl map =>
      (mapReader maps reader fun map => memory (.inl map)).read map call.2.1 call.2.2 world
  | .inr ref => reader.read ref call.2.1 call.2.2 world

theorem accessStore_transparent {objects : Ref → StreamObject} {content : Ref → Extent UInt8}
    {good : Ref → ImageState → Prop}
    (holds : ∀ ref, (objects ref).Holds (content ref) (good ref))
    (opened : Map → OpenedMap Ref content) (memory : Map ⊕ Ref → Nat → UInt8) :
    Transparent (accessStore objects (fun map => (opened map).self) memory)
      (fun world => ∀ ref, good ref (world ref))
      fun call result =>
        ReadsExtent (Sum.elim (fun map => (opened map).image) content call.1) call.2 result := by
  have addressed : ∀ ref, (content ref).size < 2 ^ 64 := fun ref => (holds ref).addressed
  have serves := StreamObject.reader_serves holds fun ref => memory (.inr ref)
  have maps := mapReader_serves (fun map => (opened map).pictures addressed) serves addressed
    fun map => memory (.inl map)
  refine ⟨?_, ?_⟩
  · rintro ⟨target, request⟩ world initial
    cases target with
    | inl map => exact maps.answered (map, request) world initial
    | inr ref => exact serves.answered (ref, request) world initial
  · rintro ⟨target, request⟩ world initial
    cases target with
    | inl map => exact maps.kept (map, request) world initial
    | inr ref => exact serves.kept (ref, request) world initial

/-- Maps over one store of stream objects, whose caches they share with each other and with
direct reads: in whatever order the reads come, each is answered from the image behind the map
or from the extent of the object. -/
theorem reads_images {objects : Ref → StreamObject} {content : Ref → Extent UInt8}
    {good : Ref → ImageState → Prop}
    (holds : ∀ ref, (objects ref).Holds (content ref) (good ref))
    (opened : Map → OpenedMap Ref content) (memory : Map ⊕ Ref → Nat → UInt8)
    (calls : List ((Map ⊕ Ref) × U64 × U64)) :
    List.Forall₂
      (fun call result =>
        ReadsExtent (Sum.elim (fun map => (opened map).image) content call.1) call.2 result)
      calls
      (replies (accessStore objects (fun map => (opened map).self) memory) calls
        fun ref => (objects ref).fresh).1 :=
  ((accessStore_transparent holds opened memory).replied calls fun ref => (holds ref).fresh).1

end Store

def pieceRecords : List MapEntryPoint := [⟨12, 8, 3, 1⟩, ⟨4, 6, 0, 0⟩]

/-- `a` is a small image stream, every other name a stream of one symbol. -/
def namedObject (name : Bytes) : StreamObject :=
  if name = text "a" then .image ImageStream.smallImage fun _ _ => 0
  else .symbolic ⟨name, 7⟩

def namedContent (name : Bytes) : Extent UInt8 :=
  if name = text "a" then ImageStream.smallImage.extent ImageStream.smallChunks
  else ⟨(BitVec.allOnes 64).toNat, fun _ => 7⟩

def namedGood (name : Bytes) : ImageState → Prop :=
  if name = text "a" then ImageStream.smallImage.Sound ImageStream.smallChunks else fun _ => True

theorem namedObject_holds (name : Bytes) :
    (namedObject name).Holds (namedContent name) (namedGood name) := by
  unfold namedObject namedContent namedGood
  split
  · exact .image _ ⟨rfl, by decide, by decide, by decide, ImageStream.smallImage_allLoadable⟩
  · exact .symbolic ⟨name, 7⟩

def smallMap : OpenedMap Bytes namedContent where
  parent := Parent.ofRecords twoLines pieceRecords (by decide)
  resource := []
  size := 0
  unknownOverride := none
  gap := text "gap"
  order := .insertion
  heap := fun _ => 0
  idx := twoLines
  segment := .ofRecords pieceRecords (by decide)
  streams := (nonEmptyLines twoLines.bytes).map some
  self := ⟨false, 20, [some (text "a"), some (text "b"), some (text "gap")],
    ⟨[(0, ⟨0, 4, 0, 2⟩), (4, ⟨4, 6, 0, 0⟩), (10, ⟨10, 2, 10, 2⟩), (12, ⟨12, 8, 3, 1⟩)],
      by decide⟩⟩
  idxPresent := rfl
  resolved := initStreamVector_ofRecords twoLines pieceRecords _
  mapPresent := rfl
  created := by
    have nonempty : (buildMap lexiconUnknown ((nonEmptyLines twoLines.bytes).map some)
        (some (text "gap")) (PointSort.insertion.sort pieceRecords)).size 0 ≠ 0 := by decide
    exact create_ofRecords (List.cons_ne_nil _ _) (fun _ => 0) rfl nonempty
  isOpen := rfl
  disjoint := by
    rw [Segment.records_ofRecords]
    exact ⟨by decide, by decide, by decide, by decide⟩
  reaches := by
    rw [Segment.records_ofRecords]
    have inside : ∀ record ∈ pieceRecords, ∃ lower,
        ((nonEmptyLines twoLines.bytes).map some)[record.streamID.toNat]? = some (some lower) ∧
          record.streamOffset.toNat + record.length.toNat ≤ (namedContent lower).size := by
      intro record member
      rcases List.mem_pair.mp member with rfl | rfl
      · exact ⟨text "b", rfl, by decide⟩
      · exact ⟨text "a", rfl, by decide⟩
    intro record member lower found
    obtain ⟨other, found', reaches⟩ := inside record member
    cases found.symm.trans found'
    exact reaches
  gapReaches := by decide

theorem reads_images_smallMap :
    List.Forall₂
      (fun call result =>
        ReadsExtent (Sum.elim (fun _ => smallMap.image) namedContent call.1) call.2 result)
      [(.inl (), 8, 2), (.inr (text "a"), 3, 1), (.inl (), 9, 16)]
      (replies (accessStore namedObject (fun _ : Unit => smallMap.self) fun _ _ => 0)
        [(.inl (), 8, 2), (.inr (text "a"), 3, 1), (.inl (), 9, 16)]
        fun name => (namedObject name).fresh).1 :=
  reads_images namedObject_holds (fun _ => smallMap) (fun _ _ => 0) _

end Aff4Lite.Stream
