import Aff4Lite.Stream.MapStream

/-!
The invariant of the entry map. Whatever the records are, every entry stands at its own
offset, and its end (modulo 2^64) is again a key or the running offset of the construction
loop; an entry of length zero stands only at the running offset, where the next insertion
replaces it. Closing the tail turns this into a chained map below `size()`.
-/

set_option autoImplicit false

namespace Aff4Lite.Stream

open Lib

structure MapBuild.Linked {Stream : Type} (build : MapBuild Stream) : Prop where
  keyed : ∀ entry ∈ build.map.entries, entry.2.offset.toNat = entry.1
  known : ∀ entry ∈ build.map.entries, entry.2.streamID.toNat < build.streams.length
  positive : ∀ entry ∈ build.map.entries, entry.1 ≠ build.offset.toNat → 0 < entry.2.length.toNat
  linked : ∀ entry ∈ build.map.entries,
    build.map.HasKey ((entry.1 + entry.2.length.toNat) % 2 ^ 64) ∨
      (entry.1 + entry.2.length.toNat) % 2 ^ 64 = build.offset.toNat
  origin : build.map.HasKey 0 ∨ build.offset = 0

theorem MapBuild.Linked.put {Stream : Type} {build : MapBuild Stream} (linked : build.Linked)
    (after : MapBuild Stream) (entry : MapEntryPoint) (here : entry.offset = build.offset)
    (entryMap : after.map = build.map.insert build.offset.toNat entry)
    (moved : after.offset = build.offset + entry.length)
    (grown : build.streams.length ≤ after.streams.length)
    (known : entry.streamID.toNat < after.streams.length) : after.Linked := by
  refine ⟨?_, ?_, ?_, ?_, ?_⟩
  · intro other member
    rw [entryMap, OrderedMap.mem_insert] at member
    rcases member with rfl | ⟨old, _⟩
    · exact congrArg BitVec.toNat here
    · exact linked.keyed other old
  · intro other member
    rw [entryMap, OrderedMap.mem_insert] at member
    rcases member with rfl | ⟨old, _⟩
    · exact known
    · exact lt_of_lt_of_le (linked.known other old) grown
  · intro other member elsewhere
    rw [entryMap, OrderedMap.mem_insert] at member
    rcases member with rfl | ⟨old, notHere⟩
    · rw [moved] at elsewhere
      dsimp only at elsewhere ⊢
      bv_omega
    · exact linked.positive other old notHere
  · intro other member
    rw [entryMap, OrderedMap.mem_insert] at member
    rw [entryMap, moved]
    simp only [OrderedMap.hasKey_insert]
    rcases member with rfl | ⟨old, _⟩
    · exact .inr (BitVec.toNat_add _ _).symm
    · rcases linked.linked other old with key | current
      · exact .inl (.inr key)
      · exact .inl (.inl current)
  · rw [entryMap, OrderedMap.hasKey_insert]
    rcases linked.origin with present | start
    · exact .inl (.inr present)
    · exact .inl (.inl (by rw [start]; rfl))

private theorem fillGap_linked {Stream : Type} {mapGPSid : Nat} {build : MapBuild Stream}
    (linked : build.Linked) (gapKnown : mapGPSid < build.streams.length)
    (mapPoint : MapEntryPoint) : (fillGap mapGPSid build mapPoint).Linked := by
  unfold fillGap
  split
  · let gap := sparseRegion mapGPSid build.offset (mapPoint.offset - build.offset)
    have moved : mapPoint.offset = build.offset + gap.length := by
      simp only [gap, sparseRegion]
      bv_omega
    have known : gap.streamID.toNat < build.streams.length := by
      simp only [gap, sparseRegion, BitVec.toNat_ofNat]
      exact lt_of_le_of_lt (Nat.mod_le _ _) gapKnown
    exact linked.put ⟨build.map.insert build.offset.toNat gap, mapPoint.offset, build.streams⟩
      gap rfl rfl moved le_rfl known
  · exact linked

@[simp] theorem fillGap_offset {Stream : Type} (mapGPSid : Nat) (build : MapBuild Stream)
    (mapPoint : MapEntryPoint) : (fillGap mapGPSid build mapPoint).offset = mapPoint.offset := by
  unfold fillGap
  split
  · rfl
  · rename_i same
    exact not_not.mp same

@[simp] theorem fillGap_streams {Stream : Type} (mapGPSid : Nat) (build : MapBuild Stream)
    (mapPoint : MapEntryPoint) : (fillGap mapGPSid build mapPoint).streams = build.streams := by
  unfold fillGap
  split <;> rfl

private theorem placePoint_linked {Stream : Type} {unknown : Stream} {build : MapBuild Stream}
    {mapPoint : MapEntryPoint} (linked : build.Linked) (here : mapPoint.offset = build.offset) :
    (placePoint unknown build mapPoint).Linked := by
  unfold placePoint
  split
  · refine linked.put _ { mapPoint with streamID := BitVec.ofNat 32 build.streams.length }
      here rfl rfl ?_ ?_
    · simp
    · simp only [BitVec.toNat_ofNat, List.length_append, List.length_singleton]
      exact Nat.lt_succ_of_le (Nat.mod_le _ _)
  · rename_i below
    exact linked.put _ mapPoint here rfl rfl le_rfl (not_le.mp below)

private theorem placePoint_streams {Stream : Type} (unknown : Stream) (build : MapBuild Stream)
    (mapPoint : MapEntryPoint) :
    (placePoint unknown build mapPoint).streams = build.streams ∨
      (placePoint unknown build mapPoint).streams = build.streams ++ [some unknown] := by
  unfold placePoint
  split
  · exact .inr rfl
  · exact .inl rfl

private theorem addPoint_streams {Stream : Type} (unknown : Stream) (mapGPSid : Nat)
    (build : MapBuild Stream) (mapPoint : MapEntryPoint) :
    ∃ added, (addPoint unknown mapGPSid build mapPoint).streams = build.streams ++ added ∧
      ∀ stream ∈ added, stream.isSome := by
  have placed := placePoint_streams unknown (fillGap mapGPSid build mapPoint) mapPoint
  rw [fillGap_streams] at placed
  rcases placed with same | appended
  · exact ⟨[], same.trans (List.append_nil _).symm, by simp⟩
  · exact ⟨[some unknown], appended, by simp⟩

private theorem addPoint_linked {Stream : Type} {unknown : Stream} {mapGPSid : Nat}
    {build : MapBuild Stream} (linked : build.Linked)
    (gapKnown : mapGPSid < build.streams.length) (mapPoint : MapEntryPoint) :
    (addPoint unknown mapGPSid build mapPoint).Linked :=
  placePoint_linked (fillGap_linked linked gapKnown mapPoint) (fillGap_offset _ _ _).symm

private theorem foldl_addPoint {Stream : Type} (unknown : Stream) {mapGPSid : Nat}
    (mapPoints : List MapEntryPoint) {build : MapBuild Stream} (linked : build.Linked)
    (gapKnown : mapGPSid < build.streams.length) :
    (mapPoints.foldl (addPoint unknown mapGPSid) build).Linked ∧
      ∃ added, (mapPoints.foldl (addPoint unknown mapGPSid) build).streams =
        build.streams ++ added ∧ ∀ stream ∈ added, stream.isSome := by
  induction mapPoints generalizing build with
  | nil => exact ⟨linked, [], (List.append_nil _).symm, by simp⟩
  | cons mapPoint rest ih =>
      obtain ⟨first, grown, firstPresent⟩ := addPoint_streams unknown mapGPSid build mapPoint
      have stillKnown : mapGPSid < (addPoint unknown mapGPSid build mapPoint).streams.length := by
        rw [grown, List.length_append]
        exact Nat.lt_add_right _ gapKnown
      obtain ⟨after, more, grownMore, morePresent⟩ :=
        ih (addPoint_linked linked gapKnown mapPoint) stillKnown
      refine ⟨after, first ++ more, ?_, ?_⟩
      · rw [List.foldl_cons, grownMore, grown, List.append_assoc]
      · intro stream member
        rcases List.mem_append.mp member with early | late
        · exact firstPresent stream early
        · exact morePresent stream late

theorem buildMap_linked {Stream : Type} (unknown : Stream) (streams : List (Option Stream))
    (mapGapStream : Option Stream) (mapPoints : List MapEntryPoint) :
    (buildMap unknown streams mapGapStream mapPoints).Linked ∧
      ∃ added, (buildMap unknown streams mapGapStream mapPoints).streams =
        streams ++ mapGapStream :: added ∧ ∀ stream ∈ added, stream.isSome := by
  have start : MapBuild.Linked ⟨.empty, 0, streams ++ [mapGapStream]⟩ :=
    ⟨by simp, by simp, by simp, by simp, .inr rfl⟩
  have gapKnown : streams.length < (streams ++ [mapGapStream]).length := by simp
  obtain ⟨linked, added, grown, present⟩ := foldl_addPoint unknown mapPoints start gapKnown
  exact ⟨linked, added, by rw [buildMap, grown, List.append_assoc]; rfl, present⟩

/-! ## The tail -/

/-- `size()` as the constructor leaves it. -/
def MapBuild.size {Stream : Type} (build : MapBuild Stream) (length : U64) : U64 :=
  if length = 0 then build.offset else length

private theorem fillTail_known {Stream : Type} {mapGPSid : Nat} {build : MapBuild Stream}
    (linked : build.Linked) (gapKnown : mapGPSid < build.streams.length) (length : U64) :
    ∀ entry ∈ (fillTail mapGPSid build length).entries,
      entry.2.offset.toNat = entry.1 ∧ entry.2.streamID.toNat < build.streams.length := by
  intro entry member
  unfold fillTail at member
  split at member
  · rcases OrderedMap.mem_insert.mp member with rfl | ⟨old, _⟩
    · refine ⟨rfl, ?_⟩
      simp only [sparseRegion, BitVec.toNat_ofNat]
      exact lt_of_le_of_lt (Nat.mod_le _ _) gapKnown
    · exact ⟨linked.keyed entry old, linked.known entry old⟩
  · exact ⟨linked.keyed entry member, linked.known entry member⟩

/-- Up to `size()` the entries follow one another without a hole. An entry whose end wraps
past 2^64 reaches past every size. -/
theorem fillTail_chained {Stream : Type} {mapGPSid : Nat} {build : MapBuild Stream}
    (linked : build.Linked) (length : U64) (nonempty : build.size length ≠ 0) :
    (fillTail mapGPSid build length).Chained (fun entry => entry.length.toNat)
      (build.size length).toNat := by
  have ends : ∀ entry ∈ build.map.entries, entry.1 + entry.2.length.toNat < 2 ^ 64 →
      build.map.HasKey (entry.1 + entry.2.length.toNat) ∨
        entry.1 + entry.2.length.toNat = build.offset.toNat := by
    intro entry member small
    have next := linked.linked entry member
    rwa [Nat.mod_eq_of_lt small] at next
  have sizeSmall := (build.size length).isLt
  unfold MapBuild.size at nonempty sizeSmall ⊢
  unfold fillTail
  by_cases undeclared : length = 0
  · -- `size()` is the running offset, so nothing is missing.
    rw [if_pos undeclared] at nonempty sizeSmall ⊢
    rw [if_neg (by bv_omega)]
    refine ⟨linked.origin.resolve_right nonempty, ?_, ?_⟩
    · intro entry member inside
      exact linked.positive entry member (by omega)
    · intro entry member inside
      by_cases small : entry.1 + entry.2.length.toNat < 2 ^ 64
      · exact (ends entry member small).imp_right (fun same => by omega)
      · exact .inr (by omega)
  · rw [if_neg undeclared] at nonempty sizeSmall ⊢
    split
    · rename_i short
      refine ⟨?_, ?_, ?_⟩
      · rcases linked.origin with key | start
        · exact OrderedMap.hasKey_insert.mpr (.inr key)
        · exact OrderedMap.hasKey_insert.mpr (.inl (by rw [start]; rfl))
      · intro entry member inside
        rcases OrderedMap.mem_insert.mp member with rfl | ⟨old, elsewhere⟩
        · simp only [sparseRegion]
          bv_omega
        · exact linked.positive entry old elsewhere
      · intro entry member inside
        rw [OrderedMap.hasKey_insert]
        rcases OrderedMap.mem_insert.mp member with rfl | ⟨old, _⟩
        · refine .inr ?_
          simp only [sparseRegion]
          bv_omega
        · by_cases small : entry.1 + entry.2.length.toNat < 2 ^ 64
          · exact .inl ((ends entry old small).symm)
          · exact .inr (by omega)
    · rename_i covered
      have past : length.toNat ≤ build.offset.toNat := by bv_omega
      refine ⟨linked.origin.resolve_right (by bv_omega), ?_, ?_⟩
      · intro entry member inside
        exact linked.positive entry member (by omega)
      · intro entry member inside
        by_cases small : entry.1 + entry.2.length.toNat < 2 ^ 64
        · exact (ends entry member small).imp_right (fun same => by omega)
        · exact .inr (by omega)

/-! ## Resolved streams -/

private theorem bind_ok {α β ε : Type} {first : Except ε α} {rest : α → Except ε β} {result : β}
    (accepted : (first >>= rest) = .ok result) :
    ∃ value, first = .ok value ∧ rest value = .ok result := by
  cases first with
  | error fault => cases accepted
  | ok value => exact ⟨value, rfl, accepted⟩

private theorem mapM_forall₂ {α β ε : Type} {items : List α} {results : List β}
    {function : α → Except ε β} (accepted : items.mapM function = .ok results) :
    List.Forall₂ (fun item result => function item = .ok result) items results := by
  induction items generalizing results with
  | nil =>
      cases accepted
      exact .nil
  | cons head tail ih =>
      rw [List.mapM_cons] at accepted
      obtain ⟨value, atHead, accepted⟩ := bind_ok accepted
      obtain ⟨values, atTail, same⟩ := bind_ok accepted
      cases same
      exact .cons atHead (ih atTail)

theorem resolveLine_present {Stream : Type} {parent : Parent Stream}
    {unknownOverride : Option Stream} {line : Bytes} {stream : Option Stream}
    (resolved : resolveLine parent unknownOverride line = .ok stream) : stream.isSome := by
  unfold resolveLine at resolved
  dsimp only at resolved
  split at resolved
  · cases resolved
    rfl
  · obtain ⟨answer, _, returned⟩ := bind_ok resolved
    cases answer with
    | some found =>
        cases returned
        rfl
    | none =>
        cases returned
        rfl

theorem initStreamVector_resolved {Stream : Type} {parent : Parent Stream} {resource : Bytes}
    {unknownOverride : Option Stream} {idx : Segment} {streams : List (Option Stream)}
    (present : parent.getSegment (resource ++ text "/idx") = some idx)
    (resolved : initStreamVector parent resource unknownOverride = .ok streams) :
    List.Forall₂ (fun line stream => resolveLine parent unknownOverride line = .ok stream)
      (nonEmptyLines idx.bytes) streams := by
  unfold initStreamVector at resolved
  rw [present] at resolved
  exact mapM_forall₂ resolved

private theorem initStreamVector_present {Stream : Type} {parent : Parent Stream} {resource : Bytes}
    {unknownOverride : Option Stream} {streams : List (Option Stream)}
    (resolved : initStreamVector parent resource unknownOverride = .ok streams) :
    ∀ stream ∈ streams, stream.isSome := by
  cases present : parent.getSegment (resource ++ text "/idx") with
  | none =>
      rw [initStreamVector, present] at resolved
      cases resolved
      simp
  | some idx =>
      intro stream member
      obtain ⟨sameLength, lines⟩ :=
        List.forall₂_iff_get.mp (initStreamVector_resolved present resolved)
      obtain ⟨index, inside, rfl⟩ := List.getElem_of_mem member
      exact resolveLine_present (lines index (by omega) inside)

/-! ## Open streams -/

/-- The constructor closes the stream it initialised when that one is empty. -/
theorem create_cases {Stream : Type} {parent : Parent Stream} {resource : Bytes} {size : U64}
    {unknownOverride mapGapStream : Option Stream} {order : PointSort} {heap : Nat → UInt8}
    {self : MapStream Stream}
    (created : MapStream.create parent resource size unknownOverride mapGapStream order heap =
      .ok self) :
    ∃ streams stream,
      initStreamVector parent resource unknownOverride = .ok streams ∧
        initMap parent resource size streams mapGapStream order heap = .ok stream ∧
        (stream.length = 0 ∧ self = stream.close ∨ stream.length ≠ 0 ∧ self = stream) := by
  unfold MapStream.create at created
  obtain ⟨streams, resolved, created⟩ := bind_ok created
  obtain ⟨stream, initialised, created⟩ := bind_ok created
  refine ⟨streams, stream, resolved, initialised, ?_⟩
  by_cases empty : stream.length = 0
  · rw [if_pos empty] at created
    cases created
    exact .inl ⟨empty, rfl⟩
  · rw [if_neg empty] at created
    cases created
    exact .inr ⟨empty, rfl⟩

@[simp] theorem MapStream.close_closed {Stream : Type} (stream : MapStream Stream) :
    stream.close.closed = true := by
  unfold MapStream.close
  split <;> simp_all

@[simp] theorem MapStream.close_length {Stream : Type} (stream : MapStream Stream) :
    stream.close.length = stream.length := by
  unfold MapStream.close
  split <;> rfl

theorem initMap_open {Stream : Type} {parent : Parent Stream} {resource : Bytes} {size : U64}
    {streams : List (Option Stream)} {mapGapStream : Option Stream} {order : PointSort}
    {heap : Nat → UInt8} {stream : MapStream Stream}
    (initialised : initMap parent resource size streams mapGapStream order heap = .ok stream) :
    stream.closed = false := by
  unfold initMap at initialised
  repeat' split at initialised
  all_goals cases initialised
  all_goals rfl

theorem create_open {Stream : Type} {parent : Parent Stream} {resource : Bytes} {size : U64}
    {unknownOverride mapGapStream : Option Stream} {order : PointSort} {heap : Nat → UInt8}
    {self : MapStream Stream}
    (created : MapStream.create parent resource size unknownOverride mapGapStream order heap =
      .ok self) (isOpen : self.closed = false) :
    ∃ streams segment build,
      initStreamVector parent resource unknownOverride = .ok streams ∧
        parent.getSegment (resource ++ text "/map") = some segment ∧
        build = buildMap parent.createUnknownStream streams mapGapStream
          (order.sort (segment.records heap)) ∧
        build.size size ≠ 0 ∧
        self = ⟨false, build.size size, build.streams, fillTail streams.length build size⟩ := by
  obtain ⟨streams, stream, resolved, initialised, ⟨_, rfl⟩ | ⟨nonempty, rfl⟩⟩ :=
    create_cases created
  · simp at isOpen
  · unfold initMap at initialised
    split at initialised
    · cases initialised
      exact absurd rfl nonempty
    · rename_i segment present
      split at initialised
      · cases initialised
        exact absurd rfl nonempty
      · split at initialised
        · cases initialised
        · split at initialised
          · cases initialised
          · cases initialised
            exact ⟨streams, segment, _, resolved, present, rfl, nonempty, rfl⟩

theorem Segment.not_overruns_iff {segment : Segment} :
    ¬segment.overruns ↔
      segment.bytes.length ≤ sizeofMapEntryPoint * segment.recordCount := by
  rw [overruns, decide_eq_true_eq, not_lt]

theorem create_overruns {Stream : Type} {parent : Parent Stream} {resource : Bytes} {size : U64}
    {unknownOverride mapGapStream : Option Stream} {order : PointSort} {heap : Nat → UInt8}
    {streams : List (Option Stream)} {segment : Segment}
    (resolved : initStreamVector parent resource unknownOverride = .ok streams)
    (present : parent.getSegment (resource ++ text "/map") = some segment)
    (filled : segment.size ≠ 0) (overruns : segment.overruns) :
    MapStream.create parent resource size unknownOverride mapGapStream order heap =
      .error .bufferOverrun := by
  have initialised : initMap parent resource size streams mapGapStream order heap =
      .error .bufferOverrun := by
    rw [initMap, present]
    dsimp only
    rw [if_neg filled, if_pos overruns]
  unfold MapStream.create
  rw [resolved]
  simp only [bind, Except.bind, initialised]

theorem create_of_records {Stream : Type} {parent : Parent Stream} {resource : Bytes} {size : U64}
    {unknownOverride mapGapStream : Option Stream} {order : PointSort} {heap : Nat → UInt8}
    {streams : List (Option Stream)} {segment : Segment} {build : MapBuild Stream}
    (resolved : initStreamVector parent resource unknownOverride = .ok streams)
    (present : parent.getSegment (resource ++ text "/map") = some segment)
    (filled : segment.size ≠ 0) (fits : ¬segment.overruns)
    (countable : segment.recordCount < 2 ^ 32)
    (built : build = buildMap parent.createUnknownStream streams mapGapStream
      (order.sort (segment.records heap))) (nonempty : build.size size ≠ 0) :
    MapStream.create parent resource size unknownOverride mapGapStream order heap =
      .ok ⟨false, build.size size, build.streams, fillTail streams.length build size⟩ := by
  have initialised : initMap parent resource size streams mapGapStream order heap =
      .ok ⟨false, build.size size, build.streams, fillTail streams.length build size⟩ := by
    rw [initMap, present]
    dsimp only
    rw [if_neg filled, if_neg fits, if_neg (not_le.mpr countable), ← built]
    rfl
  unfold MapStream.create
  rw [resolved]
  simp only [bind, Except.bind, initialised, pure, Except.pure, if_neg nonempty]

/-- The invariant that the lookup of `read` relies on. -/
structure MapStream.WellFormed {Stream : Type} (stream : MapStream Stream) : Prop where
  keyed : ∀ entry ∈ stream.map.entries, entry.2.offset.toNat = entry.1
  known : ∀ entry ∈ stream.map.entries, entry.2.streamID.toNat < stream.streams.length
  chained : stream.map.Chained (fun entry => entry.length.toNat) stream.size.toNat

theorem create_wellFormed {Stream : Type} {parent : Parent Stream} {resource : Bytes} {size : U64}
    {unknownOverride mapGapStream : Option Stream} {order : PointSort} {heap : Nat → UInt8}
    {self : MapStream Stream}
    (created : MapStream.create parent resource size unknownOverride mapGapStream order heap =
      .ok self) (isOpen : self.closed = false) : self.WellFormed := by
  obtain ⟨streams, segment, build, _, _, built, nonempty, rfl⟩ := create_open created isOpen
  obtain ⟨linked, added, grown, _⟩ := buildMap_linked parent.createUnknownStream streams
    mapGapStream (order.sort (segment.records heap))
  rw [← built] at linked grown
  have gapKnown : streams.length < build.streams.length := by simp [grown]
  have known := fillTail_known linked gapKnown size
  exact ⟨fun entry member => (known entry member).1, fun entry member => (known entry member).2,
    fillTail_chained linked size nonempty⟩

theorem create_present {Stream : Type} {parent : Parent Stream} {resource : Bytes} {size : U64}
    {unknownOverride mapGapStream : Option Stream} {order : PointSort} {heap : Nat → UInt8}
    {self : MapStream Stream}
    (created : MapStream.create parent resource size unknownOverride mapGapStream order heap =
      .ok self) (isOpen : self.closed = false) (gapPresent : mapGapStream.isSome) :
    ∀ stream ∈ self.streams, stream.isSome := by
  obtain ⟨streams, segment, build, resolved, _, built, _, rfl⟩ := create_open created isOpen
  obtain ⟨_, added, grown, addedPresent⟩ := buildMap_linked parent.createUnknownStream streams
    mapGapStream (order.sort (segment.records heap))
  rw [← built] at grown
  intro stream member
  rw [show _ = streams ++ mapGapStream :: added from grown] at member
  rcases List.mem_append.mp member with listed | behind
  · exact initStreamVector_present resolved stream listed
  · rcases List.mem_cons.mp behind with rfl | late
    · exact gapPresent
    · exact addedPresent stream late

/-! ## The lookup -/

theorem entryAt_floor {Stream : Type} {self : MapStream Stream} (wellFormed : self.WellFormed)
    {offset : U64} {entry : Nat × MapEntryPoint}
    (found : self.map.floor? offset.toNat = some entry) : self.entryAt offset = .ok entry.2 := by
  unfold MapStream.entryAt
  cases bound : self.map.lowerBound offset.toNat with
  | none =>
      rw [← OrderedMap.last?_of_lowerBound_none bound] at found
      simp only [found]
  | some mapIt =>
      obtain ⟨member, reaches, _⟩ := OrderedMap.lowerBound_some bound
      have keyed := wellFormed.keyed mapIt member
      dsimp only
      split
      · have above : offset.toNat < mapIt.1 := by bv_omega
        rw [OrderedMap.stepBack_of_lowerBound bound above, found]
      · have here : offset.toNat = mapIt.1 := by bv_omega
        rw [here] at bound found
        rw [OrderedMap.floor?_of_lowerBound_eq bound] at found
        rw [Option.some.inj found]

/-- Every address has an entry: the lookup never steps before the first one. -/
theorem entryAt_total {Stream : Type} {self : MapStream Stream} (wellFormed : self.WellFormed)
    (offset : U64) : ∃ entry, (entry.offset.toNat, entry) ∈ self.map.entries ∧
      self.entryAt offset = .ok entry ∧ entry.offset ≤ offset := by
  obtain ⟨origin, atOrigin⟩ := wellFormed.chained.origin
  obtain ⟨entry, found⟩ := OrderedMap.exists_floor? atOrigin (Nat.zero_le offset.toNat)
  obtain ⟨member, below, _⟩ := OrderedMap.floor?_some found
  have keyed := wellFormed.keyed entry member
  exact ⟨entry.2, by rwa [keyed], entryAt_floor wellFormed found, by bv_omega⟩

theorem entryAt_spans {Stream : Type} {self : MapStream Stream} (wellFormed : self.WellFormed)
    {offset : U64} (inside : offset < self.size) :
    ∃ entry, (entry.offset.toNat, entry) ∈ self.map.entries ∧ self.entryAt offset = .ok entry ∧
      entry.offset ≤ offset ∧ offset - entry.offset < entry.length := by
  obtain ⟨entry, found, member, below, spans⟩ := wellFormed.chained.floor (BitVec.lt_def.mp inside)
  have keyed := wellFormed.keyed entry member
  exact ⟨entry.2, by rwa [keyed], entryAt_floor wellFormed found, by bv_omega, by bv_omega⟩

end Aff4Lite.Stream
