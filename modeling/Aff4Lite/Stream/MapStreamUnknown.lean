import Aff4Lite.Stream.MapStreamRecords

/-!
# Records without a stream

A record whose stream ID is not below the number of `idx` lines names no stream. `initMap`
compares the ID with a vector that already holds the gap stream, and gives such a record
an unknown stream of its own unless the ID is exactly that of the gap stream.
-/

set_option autoImplicit false

namespace Aff4Lite.Stream

open Lib

/-- Records of positive length that do not overlap. -/
structure DisjointTargets (records : List MapEntryPoint) : Prop where
  positive : ∀ record ∈ records, 0 < record.length.toNat
  apart : records.Pairwise MapEntryPoint.Apart

/-- The entry that a record was given: over the same addresses, of the same stream while it
names one of the first `lines + 1`, else of a stream behind them. -/
structure MapEntryPoint.StandsFor (entry record : MapEntryPoint) (lines : Nat) : Prop where
  offset : entry.offset = record.offset
  length : entry.length = record.length
  listed : record.streamID.toNat ≤ lines → entry.streamID = record.streamID
  unlisted : lines < record.streamID.toNat → lines < entry.streamID.toNat

/-- The state of the construction loop over `records` when it has placed `placed`. -/
structure MapBuild.Replaces {Stream : Type} (build : MapBuild Stream)
    (records placed : List MapEntryPoint) (streams : List (Option Stream)) (unknown : Stream)
    (lines : Nat) : Prop where
  grown : ∃ count, build.streams = streams ++ List.replicate count (some unknown)
  owned : ∀ entry ∈ build.map.entries,
    (∃ record ∈ records, entry.2.StandsFor record lines) ∨ entry.2.FillsHole lines records
  last : (placed = [] ∧ build.offset = 0) ∨
    ∃ record ∈ placed, build.offset = BitVec.ofNat 64 record.stop ∧
      ∀ other ∈ placed, other.stop ≤ record.stop

section Construction

variable {Stream : Type} {records placed rest : List MapEntryPoint} {mapPoint : MapEntryPoint}
  {lines : Nat} {streams : List (Option Stream)} {build : MapBuild Stream} {unknown : Stream}

/-- Before another record is placed, none of those placed reaches past the last address. -/
theorem MapBuild.Replaces.front (split : records = placed ++ mapPoint :: rest)
    (chained : records.Pairwise fun left right => left.stop ≤ right.offset.toNat)
    (built : build.Replaces records placed streams unknown lines) :
    (∀ record ∈ placed, record.stop ≤ build.offset.toNat) ∧
      build.offset.toNat ≤ mapPoint.offset.toNat := by
  rcases built.last with ⟨rfl, start⟩ | ⟨record, member, here, greatest⟩
  · rw [start]
    exact ⟨by simp, Nat.zero_le _⟩
  · rw [split] at chained
    have ordered := (List.pairwise_append.mp chained).2.2 record member mapPoint (by simp)
    have inside := mapPoint.offset.isLt
    rw [here, BitVec.toNat_ofNat, Nat.mod_eq_of_lt (by omega)]
    exact ⟨greatest, ordered⟩

private theorem fillGap_replaces (split : records = placed ++ mapPoint :: rest)
    (chained : records.Pairwise fun left right => left.stop ≤ right.offset.toNat)
    (built : build.Replaces records placed streams unknown lines) :
    ∀ entry ∈ (fillGap lines build mapPoint).map.entries,
      (∃ record ∈ records, entry.2.StandsFor record lines) ∨ entry.2.FillsHole lines records := by
  obtain ⟨reached, front⟩ := built.front split chained
  unfold fillGap
  split
  · intro entry member
    rcases OrderedMap.mem_insert.mp member with rfl | ⟨old, _⟩
    · exact .inr (sparseRegion_fillsHole split chained reached front)
    · exact built.owned entry old
  · exact built.owned

private theorem placePoint_standsFor (unknown : Stream) (build : MapBuild Stream)
    (mapPoint : MapEntryPoint) (long : lines < build.streams.length) :
    ∃ entry added, (placePoint unknown build mapPoint).map =
      build.map.insert build.offset.toNat entry ∧
      (placePoint unknown build mapPoint).offset = build.offset + mapPoint.length ∧
      (placePoint unknown build mapPoint).streams =
        build.streams ++ List.replicate added (some unknown) ∧
      entry.StandsFor mapPoint lines := by
  unfold placePoint
  split
  · rename_i rejected
    have small := mapPoint.streamID.isLt
    refine ⟨_, 1, rfl, rfl, rfl, rfl, rfl, ?_, ?_⟩
    · intro listed
      omega
    · intro _
      dsimp only
      rw [BitVec.toNat_ofNat, Nat.mod_eq_of_lt (by omega)]
      exact long
  · exact ⟨mapPoint, 0, rfl, rfl, (List.append_nil _).symm, rfl, rfl, fun _ => rfl, id⟩

private theorem addPoint_replaces (split : records = placed ++ mapPoint :: rest)
    (chained : records.Pairwise fun left right => left.stop ≤ right.offset.toNat)
    (long : lines < streams.length)
    (built : build.Replaces records placed streams unknown lines) :
    (addPoint unknown lines build mapPoint).Replaces records (placed ++ [mapPoint]) streams unknown
      lines := by
  obtain ⟨reached, front⟩ := built.front split chained
  have owned := fillGap_replaces split chained built
  obtain ⟨count, grown⟩ := built.grown
  have stillLong : lines < (fillGap lines build mapPoint).streams.length := by
    rw [fillGap_streams, grown, List.length_append]
    omega
  obtain ⟨entry, added, map, offset, appended, stands⟩ :=
    placePoint_standsFor unknown (fillGap lines build mapPoint) mapPoint stillLong
  rw [fillGap_offset] at offset
  rw [fillGap_streams, grown, List.append_assoc, List.replicate_append_replicate] at appended
  unfold addPoint
  refine ⟨⟨_, appended⟩, ?_, .inr ⟨mapPoint, by simp, ?_, ?_⟩⟩
  · intro other member
    rw [map] at member
    rcases OrderedMap.mem_insert.mp member with rfl | ⟨old, _⟩
    · exact .inl ⟨mapPoint, by simp [split], stands⟩
    · exact owned other old
  · rw [offset]
    unfold MapEntryPoint.stop
    bv_omega
  · intro other member
    rcases List.mem_append.mp member with early | here
    · have passed := reached other early
      unfold MapEntryPoint.stop at passed ⊢
      omega
    · rw [List.mem_singleton.mp here]

private theorem foldl_replaces (split : records = placed ++ rest)
    (chained : records.Pairwise fun left right => left.stop ≤ right.offset.toNat)
    (long : lines < streams.length)
    (built : build.Replaces records placed streams unknown lines) :
    (rest.foldl (addPoint unknown lines) build).Replaces records records streams unknown lines := by
  induction rest generalizing placed build with
  | nil =>
      rw [List.append_nil] at split
      exact split ▸ built
  | cons mapPoint rest ih =>
      have next := addPoint_replaces split chained long built
      exact ih (by rw [split, List.append_assoc]; rfl) next

end Construction

private theorem buildMap_replaces {Stream : Type} (unknown : Stream)
    (streams : List (Option Stream))
    (mapGapStream : Option Stream) {records : List MapEntryPoint}
    (disjoint : DisjointTargets records) (order : PointSort) :
    (buildMap unknown streams mapGapStream (order.sort records)).Replaces (order.sort records)
      (order.sort records) (streams ++ [mapGapStream]) unknown streams.length := by
  have chained := chained_of_apart disjoint.positive disjoint.apart order
  have start : MapBuild.Replaces ⟨.empty, 0, streams ++ [mapGapStream]⟩ (order.sort records) []
      (streams ++ [mapGapStream]) unknown streams.length :=
    ⟨⟨0, (List.append_nil _).symm⟩, by simp, .inl ⟨rfl, rfl⟩⟩
  exact foldl_replaces rfl chained (by simp) start

/-! ## The map that is read -/

/-- The finished map: beside the entries for records and holes, the one for the missing end,
which starts wherever the running offset came to stand. -/
theorem fillTail_replaces {Stream : Type} {build : MapBuild Stream} {records : List MapEntryPoint}
    {streams : List (Option Stream)} {unknown : Stream} {lines : Nat}
    (built : build.Replaces records records streams unknown lines) (length : U64) :
    ∀ entry ∈ (fillTail lines build length).entries,
      (∃ record ∈ records, entry.2.StandsFor record lines) ∨ entry.2.FillsHole lines records ∨
        build.offset < length ∧
          entry.2 = sparseRegion lines build.offset (length - build.offset) := by
  unfold fillTail
  split
  · rename_i short
    intro entry member
    rcases OrderedMap.mem_insert.mp member with rfl | ⟨old, _⟩
    · exact .inr (.inr ⟨short, rfl⟩)
    · exact (built.owned entry old).imp_right .inl
  · exact fun entry member => (built.owned entry member).imp_right .inl

/-- Every address below `size()` under a record that names no stream is read from an unknown
stream behind the gap stream, from whichever address on the read finds its entry. -/
def MapStream.ReadsUnknown {Stream : Type} (stream : MapStream Stream)
    (records : List MapEntryPoint) (lines : Nat) (unknown : Stream) : Prop :=
  ∀ record ∈ records, lines ≤ record.streamID.toNat →
    ∀ address, record.Covers address → address < stream.size →
    ∀ first entry, first ≤ address → stream.entryAt first = .ok entry →
      address - entry.offset < entry.length →
      lines < entry.streamID.toNat ∧ stream.streams[entry.streamID.toNat]? = some (some unknown)

/-- In every read the bytes of a record that names no stream are asked of an unknown stream. -/
theorem MapStream.ReadsUnknown.read {Stream World : Type} {self : MapStream Stream}
    {records : List MapEntryPoint} {lines : Nat} {unknown : Stream}
    (reads : self.ReadsUnknown records lines unknown) (wellFormed : self.WellFormed)
    {reader : StreamReader Stream World} {memory : Buffer} {count offset : U64} {world : World}
    {result : ReadEnd Stream World} (noOverflow : offset.toNat + count.toNat < 2 ^ 64)
    (ran : self.read reader memory count offset world = some (.ok result))
    {lowerRead : LowerRead Stream} (asked : lowerRead ∈ result.lowerReads) {index : Nat}
    (within : index < lowerRead.count.toNat) {record : MapEntryPoint} (member : record ∈ records)
    (unnamed : lines ≤ record.streamID.toNat)
    (covers : record.Covers (lowerRead.address + BitVec.ofNat 64 index)) :
    lowerRead.stream = unknown := by
  obtain ⟨⟨entry, found, spans⟩, inside⟩ := read_asked wellFormed noOverflow ran _ asked
  obtain ⟨_, isUnknown⟩ := reads record member unnamed _ covers (by bv_omega)
    lowerRead.address entry (by bv_omega) found.entryAt (spans index within)
  exact Option.some.inj (Option.some.inj (found.lower.symm.trans isUnknown))

/-- No record below `size` has the ID of the gap stream; and where the end of the last record
wraps to a position below `size`, no record that names no stream reaches past that position
and starts below `size`. -/
structure NoneAtGap (records : List MapEntryPoint) (lines : Nat) (size : U64) : Prop where
  gap : ∀ record ∈ records, record.offset < size → record.streamID.toNat ≠ lines
  wrapped : ∀ last ∈ records, (∀ record ∈ records, record.stop ≤ last.stop) →
    last.stop % 2 ^ 64 < size.toNat → ∀ record ∈ records, lines ≤ record.streamID.toNat →
      record.stop ≤ last.stop % 2 ^ 64 ∨ size.toNat ≤ record.offset.toNat

section Read

variable {Stream : Type} {stream : MapStream Stream} {records : List MapEntryPoint}
  {streams : List (Option Stream)} {gap : Option Stream} {unknown : Stream} {size : U64}

/-- What the constructor leaves of `records`: the streams, the end of the last record, and an
entry for everything. -/
structure MapStream.Holds (stream : MapStream Stream) (records : List MapEntryPoint)
    (streams : List (Option Stream)) (gap : Option Stream) (unknown : Stream) (stop : Nat) :
    Prop where
  grown : ∃ count, stream.streams = streams ++ gap :: List.replicate count (some unknown)
  owned : ∀ entry ∈ stream.map.entries,
    (∃ record ∈ records, entry.2.StandsFor record streams.length) ∨
      entry.2.FillsHole streams.length records ∨
      stop % 2 ^ 64 < stream.size.toNat ∧
        entry.2 = sparseRegion streams.length (BitVec.ofNat 64 stop)
          (stream.size - BitVec.ofNat 64 stop)
  tail : stop % 2 ^ 64 < stream.size.toNat → (stop % 2 ^ 64,
    sparseRegion streams.length (BitVec.ofNat 64 stop) (stream.size - BitVec.ofNat 64 stop)) ∈
      stream.map.entries

theorem MapEntryPoint.covers_of_spans {entry : MapEntryPoint} {address : U64}
    (below : entry.offset ≤ address) (spans : address - entry.offset < entry.length) :
    entry.Covers address := by
  unfold MapEntryPoint.Covers MapEntryPoint.stop
  bv_omega

theorem MapEntryPoint.StandsFor.covers {entry record : MapEntryPoint} {lines : Nat}
    (stands : entry.StandsFor record lines) {address : U64} (covers : entry.Covers address) :
    record.Covers address := by
  unfold MapEntryPoint.Covers MapEntryPoint.stop at covers ⊢
  rwa [stands.offset, stands.length] at covers

/-- What a lookup finds under a record: an entry that stands for it, or the missing end. -/
theorem MapStream.Holds.found {stop : Nat} (holds : stream.Holds records streams gap unknown stop)
    (wellFormed : stream.WellFormed) (disjoint : DisjointTargets records)
    {record entry : MapEntryPoint} {first address : U64} (member : record ∈ records)
    (covers : record.Covers address) (ordered : first ≤ address)
    (atFirst : stream.entryAt first = .ok entry)
    (spans : address - entry.offset < entry.length) :
    entry.Covers address ∧ entry.streamID.toNat < stream.streams.length ∧
      (entry.StandsFor record streams.length ∨
        stop % 2 ^ 64 < stream.size.toNat ∧
          entry = sparseRegion streams.length (BitVec.ofNat 64 stop)
            (stream.size - BitVec.ofNat 64 stop)) := by
  obtain ⟨other, listed, again, below⟩ := entryAt_total wellFormed first
  cases atFirst.symm.trans again
  have spanned := MapEntryPoint.covers_of_spans (BitVec.le_trans below ordered) spans
  refine ⟨spanned, wellFormed.known _ listed, ?_⟩
  rcases holds.owned _ listed with ⟨owner, recorded, stands⟩ | hole | tail
  · have same := unique_of_apart disjoint.apart recorded member (stands.covers spanned) covers
    exact .inl (same ▸ stands)
  · exact absurd covers fun both => (hole.apart record member).not_both spanned both
  · exact .inr tail

theorem MapStream.Holds.atTail {stop : Nat}
    (holds : stream.Holds records streams gap unknown stop) (wellFormed : stream.WellFormed)
    (wraps : stop % 2 ^ 64 < stream.size.toNat) :
    stream.entryAt (BitVec.ofNat 64 stop) = .ok (sparseRegion streams.length
      (BitVec.ofNat 64 stop) (stream.size - BitVec.ofNat 64 stop)) := by
  have found := OrderedMap.floor?_of_greatest (holds.tail wraps) le_rfl fun _ _ below => below
  rw [← BitVec.toNat_ofNat] at found
  exact entryAt_floor wellFormed found

private theorem MapStream.Holds.unknown_of_above {stop : Nat}
    (holds : stream.Holds records streams gap unknown stop) {index : Nat}
    (above : streams.length < index) (inside : index < stream.streams.length) :
    stream.streams[index]? = some (some unknown) := by
  obtain ⟨count, grown⟩ := holds.grown
  obtain ⟨behind, rfl⟩ := Nat.exists_eq_add_of_lt above
  rw [grown] at inside ⊢
  rw [List.length_append, List.length_cons, List.length_replicate] at inside
  rw [List.getElem?_append_right (by omega), Nat.add_assoc, Nat.add_sub_cancel_left,
    List.getElem?_cons_succ, List.getElem?_replicate, if_pos (by omega)]

private theorem readsUnknown_iff {stop : Nat}
    (holds : stream.Holds records streams gap unknown stop)
    (wellFormed : stream.WellFormed) (disjoint : DisjointTargets records)
    (few : streams.length < 2 ^ 32)
    (last : ∃ record ∈ records, record.stop = stop ∧ ∀ other ∈ records, other.stop ≤ stop) :
    stream.ReadsUnknown records streams.length unknown ↔
      NoneAtGap records streams.length stream.size := by
  obtain ⟨final, finalMember, rfl, greatest⟩ := last
  have gapID : (sparseRegion streams.length (BitVec.ofNat 64 final.stop)
      (stream.size - BitVec.ofNat 64 final.stop)).streamID.toNat = streams.length := by
    unfold sparseRegion
    rw [BitVec.toNat_ofNat, Nat.mod_eq_of_lt few]
  constructor
  · intro reads
    refine ⟨?_, ?_⟩
    · intro record member inside same
      have positive := disjoint.positive record member
      have covers : record.Covers record.offset :=
        ⟨le_rfl, by unfold MapEntryPoint.stop; omega⟩
      obtain ⟨entry, _, atOffset, below, spans⟩ := entryAt_spans wellFormed inside
      obtain ⟨above, _⟩ := reads record member same.ge record.offset covers inside record.offset
        entry (BitVec.le_refl _) atOffset spans
      obtain ⟨_, _, stands | ⟨_, rfl⟩⟩ :=
        holds.found wellFormed disjoint member covers (BitVec.le_refl _) atOffset spans
      · rw [stands.listed same.le] at above
        omega
      · omega
    · intro other otherMember otherGreatest wraps record member unlisted
      have same : other.stop = final.stop :=
        le_antisymm (greatest other otherMember) (otherGreatest final finalMember)
      rw [same] at wraps ⊢
      by_contra neither
      obtain ⟨past, before⟩ := not_or.mp neither
      -- a read that starts at the missing end takes all of it from one entry
      have start : (BitVec.ofNat 64 final.stop).toNat = final.stop % 2 ^ 64 :=
        BitVec.toNat_ofNat _ _
      obtain ⟨address, atLeast, covers, inside⟩ : ∃ address : U64,
          BitVec.ofNat 64 final.stop ≤ address ∧ record.Covers address ∧
            address < stream.size := by
        have positive := disjoint.positive record member
        have ends : record.stop = record.offset.toNat + record.length.toNat := rfl
        unfold MapEntryPoint.Covers
        by_cases behind : final.stop % 2 ^ 64 ≤ record.offset.toNat
        · exact ⟨record.offset, by bv_omega, by omega, by bv_omega⟩
        · exact ⟨BitVec.ofNat 64 final.stop, BitVec.le_refl _, by omega, by bv_omega⟩
      obtain ⟨above, _⟩ := reads record member unlisted address covers inside _ _ atLeast
        (holds.atTail wellFormed wraps) (by
          unfold sparseRegion
          bv_omega)
      omega
  · intro absent record member unlisted address covers inside first entry ordered atFirst spans
    obtain ⟨spanned, known, stands | ⟨wraps, rfl⟩⟩ :=
      holds.found wellFormed disjoint member covers ordered atFirst spans
    · have notGap := absent.gap record member (by
        unfold MapEntryPoint.Covers at covers
        bv_omega)
      have above := stands.unlisted (by omega)
      exact ⟨above, holds.unknown_of_above above known⟩
    · have apart := absent.wrapped final finalMember greatest wraps record member unlisted
      unfold MapEntryPoint.Covers at covers spanned
      have fromStart : (BitVec.ofNat 64 final.stop).toNat ≤ address.toNat := spanned.1
      rw [BitVec.toNat_ofNat] at fromStart
      bv_omega

end Read

/-! ## The constructed stream -/

section Constructed

variable {Stream : Type} {parent : Parent Stream} {resource : Bytes} {size : U64}
  {unknownOverride mapGapStream : Option Stream} {order : PointSort} {heap : Nat → UInt8}
  {idx segment : Segment} {self : MapStream Stream}

theorem size_of_closed
    (created : MapStream.create parent resource size unknownOverride mapGapStream order heap =
      .ok self) (shut : self.closed = true) : self.size = 0 := by
  obtain ⟨_, stream, _, initialised, ⟨empty, rfl⟩ | ⟨_, rfl⟩⟩ := create_cases created
  · rw [MapStream.size, MapStream.close_length, empty]
  · rw [initMap_open initialised] at shut
    cases shut

private theorem create_holds
    (mapPresent : parent.getSegment (resource ++ text "/map") = some segment)
    (disjoint : DisjointTargets (segment.records heap)) (nonempty : segment.records heap ≠ [])
    (created : MapStream.create parent resource size unknownOverride mapGapStream order heap =
      .ok self) (isOpen : self.closed = false) :
    ∃ streams, initStreamVector parent resource unknownOverride = .ok streams ∧
      ∃ last ∈ segment.records heap, (∀ record ∈ segment.records heap, record.stop ≤ last.stop) ∧
        self.Holds (segment.records heap) streams mapGapStream parent.createUnknownStream
          last.stop := by
  obtain ⟨streams, _, build, resolved, present, built, _, rfl⟩ := create_open created isOpen
  cases mapPresent.symm.trans present
  have perm := order.perm (segment.records heap)
  have replaces := buildMap_replaces parent.createUnknownStream streams mapGapStream disjoint order
  rw [← built] at replaces
  obtain ⟨last, member, offset, greatest⟩ := replaces.last.resolve_left
    fun nothing => nonempty (List.Perm.nil_eq (nothing.1 ▸ perm)).symm
  have tail : last.stop % 2 ^ 64 < (build.size size).toNat ↔
      build.offset < size ∧ build.size size = size := by
    have position : build.offset.toNat = last.stop % 2 ^ 64 := by
      rw [offset, BitVec.toNat_ofNat]
    unfold MapBuild.size
    by_cases undeclared : size = 0
    · rw [if_pos undeclared, ← position]
      bv_omega
    · rw [if_neg undeclared, ← position]
      exact ⟨fun short => ⟨short, rfl⟩, fun short => short.1⟩
  refine ⟨streams, resolved, last, perm.mem_iff.mp member,
    fun record listed => greatest record (perm.mem_iff.mpr listed), ?_, ?_, ?_⟩
  · obtain ⟨count, grown⟩ := replaces.grown
    exact ⟨count, by rw [grown, List.append_assoc]; rfl⟩
  · intro entry listed
    rcases fillTail_replaces replaces size entry listed with
      ⟨record, recorded, stands⟩ | hole | ⟨short, same⟩
    · exact .inl ⟨record, perm.mem_iff.mp recorded, stands⟩
    · exact .inr (.inl ⟨hole.streamID, hole.streamOffset,
        fun record recorded => hole.apart record (perm.mem_iff.mpr recorded)⟩)
    · have declared : build.size size = size := if_neg (by bv_omega)
      refine .inr (.inr ⟨tail.mpr ⟨short, declared⟩, ?_⟩)
      rw [same, offset]
      exact congrArg (fun total => sparseRegion _ _ (total - _)) declared.symm
  · intro wraps
    obtain ⟨short, declared⟩ := tail.mp wraps
    have position : build.offset.toNat = last.stop % 2 ^ 64 := by
      rw [offset, BitVec.toNat_ofNat]
    unfold MapStream.size
    dsimp only
    rw [fillTail, if_pos short, declared, ← position, ← offset, OrderedMap.mem_insert]
    exact .inl rfl

/-- Records that name no stream are read from unknown streams exactly when none of them has the
ID of the gap stream, as far as the map is read, and the missing end does not start below one. -/
theorem unknown_records_iff
    (idxPresent : parent.getSegment (resource ++ text "/idx") = some idx)
    (mapPresent : parent.getSegment (resource ++ text "/map") = some segment)
    (disjoint : DisjointTargets (segment.records heap))
    (created : MapStream.create parent resource size unknownOverride mapGapStream order heap =
      .ok self) :
    self.ReadsUnknown (segment.records heap) (nonEmptyLines idx.bytes).length
        parent.createUnknownStream ↔
      NoneAtGap (segment.records heap) (nonEmptyLines idx.bytes).length self.size := by
  cases shut : self.closed with
  | true =>
      have nothing := size_of_closed created shut
      refine ⟨fun _ => ⟨?_, ?_⟩, fun _ => ?_⟩
      · intro record _ inside
        rw [nothing] at inside
        exact absurd inside BitVec.not_lt_zero
      · intro last _ _ wraps
        rw [nothing] at wraps
        exact absurd wraps (Nat.not_lt_zero _)
      · intro record _ _ address _ inside
        rw [nothing] at inside
        exact absurd inside BitVec.not_lt_zero
  | false =>
      by_cases empty : segment.records heap = []
      · rw [empty]
        exact ⟨fun _ => ⟨by simp, by simp⟩, fun _ => by simp [MapStream.ReadsUnknown]⟩
      · obtain ⟨streams, resolved, last, member, greatest, holds⟩ :=
          create_holds mapPresent disjoint empty created shut
        have sameLength := (initStreamVector_resolved idxPresent resolved).length_eq
        have few := initStreamVector_few resolved
        rw [sameLength]
        exact readsUnknown_iff holds (create_wellFormed created shut) disjoint few
          ⟨last, member, rfl, greatest⟩

end Constructed

def gapRecord : List MapEntryPoint := [⟨0, 10, 0, 2⟩]

private theorem create_gapRecord :
    MapStream.create (Parent.ofRecords twoLines gapRecord (by decide)) [] 0 none
        (some (text "gap")) .insertion (fun _ => 0) =
      .ok ⟨false, 10, [some (text "a"), some (text "b"), some (text "gap")],
        ⟨[(0, ⟨0, 10, 0, 2⟩)], by decide⟩⟩ := by
  have nonempty : (buildMap lexiconUnknown ((nonEmptyLines twoLines.bytes).map some)
      (some (text "gap")) (PointSort.insertion.sort gapRecord)).size 0 ≠ 0 := by decide
  exact create_ofRecords (List.cons_ne_nil _ _) (fun _ => 0) rfl nonempty

private theorem gapRecord_disjoint : DisjointTargets gapRecord := ⟨by decide, by decide⟩

/-- Of two lines, a record with stream ID 2 is read from the gap stream. -/
theorem unknown_record_reads_gap :
    ∃ self, MapStream.create (Parent.ofRecords twoLines gapRecord (by decide)) [] 0 none
        (some (text "gap")) .insertion (fun _ => 0) = .ok self ∧
      ¬self.ReadsUnknown gapRecord (nonEmptyLines twoLines.bytes).length lexiconUnknown ∧
      ∃ entry, self.entryAt 5 = .ok entry ∧
        self.streams[entry.streamID.toNat]? = some (some (text "gap")) := by
  refine ⟨_, create_gapRecord, ?_, _, rfl, rfl⟩
  intro reads
  have above := (reads ⟨0, 10, 0, 2⟩ (by decide) (by decide) 5 (by decide) (by decide) 5
    ⟨0, 10, 0, 2⟩ (by decide) rfl (by decide)).1
  exact absurd above (by decide)

theorem unknown_records_iff_gapRecord :
    ∃ self, MapStream.create (Parent.ofRecords twoLines gapRecord (by decide)) [] 0 none
        (some (text "gap")) .insertion (fun _ => 0) = .ok self ∧
      (self.ReadsUnknown gapRecord (nonEmptyLines twoLines.bytes).length lexiconUnknown ↔
        NoneAtGap gapRecord (nonEmptyLines twoLines.bytes).length self.size) := by
  have records := Segment.records_ofRecords gapRecord (by decide) (fun _ => 0)
  have mapPresent : (Parent.ofRecords twoLines gapRecord (by decide)).getSegment
      ([] ++ text "/map") = some (Segment.ofRecords gapRecord (by decide)) := rfl
  have exactly := unknown_records_iff rfl mapPresent (by rw [records]; exact gapRecord_disjoint)
    create_gapRecord
  rw [records] at exactly
  exact ⟨_, create_gapRecord, exactly⟩

end Aff4Lite.Stream
