import Aff4Lite.Stream.MapStreamUnknown

/-!
# Addresses that no record covers

Whatever the records are, sorted or not, overlapping or not: an entry of the map stands over
the addresses of a record or is a sparse region of the gap stream.
-/

set_option autoImplicit false

namespace Aff4Lite.Stream

open Lib

/-- An entry over the addresses of one of the records, or a sparse region. -/
def MapEntryPoint.RecordOrGap (entry : MapEntryPoint) (records : List MapEntryPoint)
    (lines : Nat) : Prop :=
  (∃ record ∈ records, entry.offset = record.offset ∧ entry.length = record.length) ∨
    entry.streamID = BitVec.ofNat 32 lines ∧ entry.streamOffset = entry.offset

section Construction

variable {Stream : Type} {build : MapBuild Stream} {records : List MapEntryPoint} {lines : Nat}

private theorem fillGap_recordOrGap
    (owned : ∀ entry ∈ build.map.entries, entry.2.RecordOrGap records lines)
    (mapPoint : MapEntryPoint) :
    ∀ entry ∈ (fillGap lines build mapPoint).map.entries, entry.2.RecordOrGap records lines := by
  unfold fillGap
  split
  · intro entry member
    rcases OrderedMap.mem_insert.mp member with rfl | ⟨old, _⟩
    · exact .inr ⟨rfl, rfl⟩
    · exact owned entry old
  · exact owned

private theorem placePoint_recordOrGap (unknown : Stream)
    (owned : ∀ entry ∈ build.map.entries, entry.2.RecordOrGap records lines)
    {mapPoint : MapEntryPoint} (recorded : mapPoint ∈ records) :
    ∀ entry ∈ (placePoint unknown build mapPoint).map.entries,
      entry.2.RecordOrGap records lines := by
  unfold placePoint
  split
  · intro entry member
    rcases OrderedMap.mem_insert.mp member with rfl | ⟨old, _⟩
    · exact .inl ⟨mapPoint, recorded, rfl, rfl⟩
    · exact owned entry old
  · intro entry member
    rcases OrderedMap.mem_insert.mp member with rfl | ⟨old, _⟩
    · exact .inl ⟨mapPoint, recorded, rfl, rfl⟩
    · exact owned entry old

private theorem foldl_recordOrGap (unknown : Stream) {mapPoints : List MapEntryPoint}
    (recorded : ∀ mapPoint ∈ mapPoints, mapPoint ∈ records)
    (owned : ∀ entry ∈ build.map.entries, entry.2.RecordOrGap records lines) :
    ∀ entry ∈ (mapPoints.foldl (addPoint unknown lines) build).map.entries,
      entry.2.RecordOrGap records lines := by
  induction mapPoints generalizing build with
  | nil => exact owned
  | cons mapPoint rest ih =>
      obtain ⟨head, tail⟩ := List.forall_mem_cons.mp recorded
      exact ih tail (placePoint_recordOrGap unknown (fillGap_recordOrGap owned mapPoint) head)

private theorem fillTail_recordOrGap
    (owned : ∀ entry ∈ build.map.entries, entry.2.RecordOrGap records lines) (length : U64) :
    ∀ entry ∈ (fillTail lines build length).entries, entry.2.RecordOrGap records lines := by
  unfold fillTail
  split
  · intro entry member
    rcases OrderedMap.mem_insert.mp member with rfl | ⟨old, _⟩
    · exact .inr ⟨rfl, rfl⟩
    · exact owned entry old
  · exact owned

end Construction

/-- Every address below `size()` that no record covers is read from `gap`, at the address
itself, from whichever address on the read finds its entry. -/
def MapStream.ReadsGap {Stream : Type} (stream : MapStream Stream) (records : List MapEntryPoint)
    (gap : Stream) : Prop :=
  ∀ address < stream.size, (∀ record ∈ records, ¬record.Covers address) →
    ∀ first entry, first ≤ address → stream.entryAt first = .ok entry →
      address - entry.offset < entry.length →
      stream.streams[entry.streamID.toNat]? = some (some gap) ∧
        entry.lowerOffset address = address

/-- In every read a byte that no record covers is asked of `gap`. -/
theorem MapStream.ReadsGap.read {Stream World : Type} {self : MapStream Stream}
    {records : List MapEntryPoint} {gap : Stream} (reads : self.ReadsGap records gap)
    (wellFormed : self.WellFormed) {reader : StreamReader Stream World} {memory : Buffer}
    {count offset : U64} {world : World} {result : ReadEnd Stream World}
    (noOverflow : offset.toNat + count.toNat < 2 ^ 64)
    (ran : self.read reader memory count offset world = some (.ok result))
    {lowerRead : LowerRead Stream} (member : lowerRead ∈ result.lowerReads) {index : Nat}
    (within : index < lowerRead.count.toNat)
    (uncovered : ∀ record ∈ records,
      ¬record.Covers (lowerRead.address + BitVec.ofNat 64 index)) :
    lowerRead.stream = gap := by
  obtain ⟨⟨entry, found, spans⟩, inside⟩ := read_asked wellFormed noOverflow ran _ member
  obtain ⟨isGap, _⟩ := reads (lowerRead.address + BitVec.ofNat 64 index) (by bv_omega) uncovered
    lowerRead.address entry (by bv_omega) found.entryAt (spans index within)
  exact Option.some.inj (Option.some.inj (found.lower.symm.trans isGap))

theorem create_readsGap {Stream : Type} {parent : Parent Stream} {resource : Bytes} {size : U64}
    {unknownOverride : Option Stream} {gap : Stream} {order : PointSort} {heap : Nat → UInt8}
    {segment : Segment} {self : MapStream Stream}
    (mapPresent : parent.getSegment (resource ++ text "/map") = some segment)
    (created : MapStream.create parent resource size unknownOverride (some gap) order heap =
      .ok self) : self.ReadsGap (segment.records heap) gap := by
  cases shut : self.closed with
  | true =>
      intro address inside
      rw [size_of_closed created shut] at inside
      exact absurd inside BitVec.not_lt_zero
  | false =>
      intro address inside uncovered first entry ordered atFirst spans
      have wellFormed := create_wellFormed created shut
      obtain ⟨other, member, again, below⟩ := entryAt_total wellFormed first
      cases atFirst.symm.trans again
      obtain ⟨streams, _, build, resolved, present, built, _, rfl⟩ := create_open created shut
      cases mapPresent.symm.trans present
      have owned : ∀ entry ∈ build.map.entries,
          entry.2.RecordOrGap (segment.records heap) streams.length := by
        rw [built]
        exact foldl_recordOrGap _ (fun mapPoint listed => (order.perm _).mem_iff.mp listed)
          (by simp)
      obtain ⟨_, added, grown, _⟩ := buildMap_linked parent.createUnknownStream streams (some gap)
        (order.sort (segment.records heap))
      rw [← built] at grown
      rcases fillTail_recordOrGap owned size _ member with
        ⟨record, recorded, offset, length⟩ | ⟨streamID, streamOffset⟩
      · -- the entry found spans the address, and so does its record
        have covers := MapEntryPoint.covers_of_spans (BitVec.le_trans below ordered) spans
        unfold MapEntryPoint.Covers MapEntryPoint.stop at covers
        rw [offset, length] at covers
        exact absurd covers (uncovered record recorded)
      · have few : streams.length < 2 ^ 32 := initStreamVector_few resolved
        refine ⟨?_, ?_⟩
        · dsimp only
          rw [streamID, BitVec.toNat_ofNat, Nat.mod_eq_of_lt few, grown]
          simp
        · unfold MapEntryPoint.lowerOffset
          rw [streamOffset]
          bv_omega

end Aff4Lite.Stream
