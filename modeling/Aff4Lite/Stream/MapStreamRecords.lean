import Aff4Lite.Stream.MapSegment
import Aff4Lite.Stream.MapStreamRead

/-!
Maps whose records do not overlap. Sorting puts such records end to end, so the
construction loop never overwrites one: every entry is a record or fills a hole between
records, and each address belongs to one of them.
-/

set_option autoImplicit false

namespace Aff4Lite.Stream

open Lib

def MapEntryPoint.stop (record : MapEntryPoint) : Nat := record.offset.toNat + record.length.toNat

def MapEntryPoint.Covers (record : MapEntryPoint) (address : U64) : Prop :=
  record.offset.toNat ≤ address.toNat ∧ address.toNat < record.stop

instance (record : MapEntryPoint) (address : U64) : Decidable (record.Covers address) :=
  inferInstanceAs (Decidable (_ ∧ _))

def MapEntryPoint.Apart (left right : MapEntryPoint) : Prop :=
  left.stop ≤ right.offset.toNat ∨ right.stop ≤ left.offset.toNat

instance (left right : MapEntryPoint) : Decidable (left.Apart right) :=
  inferInstanceAs (Decidable (_ ∨ _))

/-- Records of positive length over disjoint targets, on the listed streams. -/
structure DisjointRecords (records : List MapEntryPoint) (lines : Nat) : Prop where
  positive : ∀ record ∈ records, 0 < record.length.toNat
  known : ∀ record ∈ records, record.streamID.toNat < lines
  targets : ∀ record ∈ records, record.stop < 2 ^ 64
  apart : records.Pairwise MapEntryPoint.Apart

theorem MapEntryPoint.Apart.not_both {left right : MapEntryPoint} (apart : left.Apart right)
    {address : U64} (leftCovers : left.Covers address) (rightCovers : right.Covers address) :
    False := by
  obtain ⟨leftBelow, leftInside⟩ := leftCovers
  obtain ⟨rightBelow, rightInside⟩ := rightCovers
  rcases apart with before | after
  · omega
  · omega

theorem unique_of_apart {records : List MapEntryPoint}
    (apart : records.Pairwise MapEntryPoint.Apart) {left right : MapEntryPoint} {address : U64}
    (leftMember : left ∈ records) (rightMember : right ∈ records)
    (leftCovers : left.Covers address) (rightCovers : right.Covers address) : left = right := by
  have symmetric : Std.Symm MapEntryPoint.Apart := ⟨fun _ _ apart => apart.symm⟩
  by_contra different
  exact (apart.forall leftMember rightMember different).not_both leftCovers rightCovers

/-- Sorting puts records that do not overlap end to end. -/
theorem chained_of_apart {records : List MapEntryPoint}
    (positive : ∀ record ∈ records, 0 < record.length.toNat)
    (apart : records.Pairwise MapEntryPoint.Apart) (order : PointSort) :
    (order.sort records).Pairwise fun left right => left.stop ≤ right.offset.toNat := by
  have perm := order.perm records
  have sortedApart := (perm.pairwise_iff fun {_ _} => Or.symm).mpr apart
  refine (sortedApart.and (order.sorted records)).imp_of_mem ?_
  rintro left right _ rightMember ⟨before | after, below⟩
  · exact before
  · have nonzero := positive right (perm.mem_iff.mp rightMember)
    have ordered := BitVec.le_def.mp below
    unfold MapEntryPoint.stop at after
    omega

theorem DisjointRecords.sorted {records : List MapEntryPoint} {lines : Nat}
    (disjoint : DisjointRecords records lines) (order : PointSort) :
    DisjointRecords (order.sort records) lines ∧
      (order.sort records).Pairwise fun left right => left.stop ≤ right.offset.toNat := by
  have perm := order.perm records
  refine ⟨⟨?_, ?_, ?_, ?_⟩, chained_of_apart disjoint.positive disjoint.apart order⟩
  · exact fun record member => disjoint.positive record (perm.mem_iff.mp member)
  · exact fun record member => disjoint.known record (perm.mem_iff.mp member)
  · exact fun record member => disjoint.targets record (perm.mem_iff.mp member)
  · exact (perm.pairwise_iff fun {_ _} => Or.symm).mpr disjoint.apart

/-! ## What the construction loop leaves -/

/-- An entry that fills a hole: it shows its own addresses of the gap stream and meets no
record. -/
structure MapEntryPoint.FillsHole (entry : MapEntryPoint) (mapGPSid : Nat)
    (records : List MapEntryPoint) : Prop where
  streamID : entry.streamID = BitVec.ofNat 32 mapGPSid
  streamOffset : entry.streamOffset = entry.offset
  apart : ∀ record ∈ records, entry.Apart record

/-- The state of the construction loop when it has placed `placed`, the front of `records`. -/
structure MapBuild.Placed {Stream : Type} (build : MapBuild Stream)
    (records placed : List MapEntryPoint) (streams : List (Option Stream)) (mapGPSid : Nat) :
    Prop where
  streams : build.streams = streams
  owned : ∀ entry ∈ build.map.entries, entry.2 ∈ records ∨ entry.2.FillsHole mapGPSid records
  reached : ∀ record ∈ placed, record.stop ≤ build.offset.toNat
  last : (placed = [] ∧ build.offset = 0) ∨ ∃ record ∈ placed, build.offset.toNat = record.stop

section Construction

variable {Stream : Type} {records placed rest : List MapEntryPoint} {mapPoint : MapEntryPoint}
  {lines mapGPSid : Nat} {streams : List (Option Stream)} {build : MapBuild Stream}

theorem MapBuild.Placed.front (split : records = placed ++ mapPoint :: rest)
    (chained : records.Pairwise fun left right => left.stop ≤ right.offset.toNat)
    (built : build.Placed records placed streams mapGPSid) :
    build.offset.toNat ≤ mapPoint.offset.toNat := by
  rcases built.last with ⟨_, start⟩ | ⟨record, member, here⟩
  · rw [start]
    exact Nat.zero_le _
  · rw [split] at chained
    have ordered := (List.pairwise_append.mp chained).2.2 record member mapPoint (by simp)
    exact here ▸ ordered

/-- A sparse point from behind the records placed so far up to the next one. -/
theorem sparseRegion_fillsHole (split : records = placed ++ mapPoint :: rest)
    (chained : records.Pairwise fun left right => left.stop ≤ right.offset.toNat) {offset : U64}
    (reached : ∀ record ∈ placed, record.stop ≤ offset.toNat)
    (front : offset.toNat ≤ mapPoint.offset.toNat) :
    (sparseRegion mapGPSid offset (mapPoint.offset - offset)).FillsHole mapGPSid records := by
  refine ⟨rfl, rfl, ?_⟩
  intro record recorded
  rw [split] at recorded chained
  have ends : (sparseRegion mapGPSid offset (mapPoint.offset - offset)).stop =
      mapPoint.offset.toNat := by
    unfold MapEntryPoint.stop sparseRegion
    bv_omega
  unfold MapEntryPoint.Apart
  rw [ends]
  rcases List.mem_append.mp recorded with before | after
  · exact .inr (reached record before)
  · rcases List.mem_cons.mp after with rfl | later
    · exact .inl le_rfl
    · have ordered := (List.pairwise_cons.mp (List.pairwise_append.mp chained).2.1).1
        record later
      unfold MapEntryPoint.stop at ordered
      exact .inl (Nat.le_of_add_right_le ordered)

private theorem fillGap_placed (split : records = placed ++ mapPoint :: rest)
    (chained : records.Pairwise fun left right => left.stop ≤ right.offset.toNat)
    (built : build.Placed records placed streams mapGPSid) :
    ∀ entry ∈ (fillGap mapGPSid build mapPoint).map.entries,
      entry.2 ∈ records ∨ entry.2.FillsHole mapGPSid records := by
  have front := built.front split chained
  unfold fillGap
  split
  · intro entry member
    rcases OrderedMap.mem_insert.mp member with rfl | ⟨old, _⟩
    · exact .inr (sparseRegion_fillsHole split chained built.reached front)
    · exact built.owned entry old
  · exact built.owned

private theorem addPoint_placed (unknown : Stream) (split : records = placed ++ mapPoint :: rest)
    (chained : records.Pairwise fun left right => left.stop ≤ right.offset.toNat)
    (disjoint : DisjointRecords records lines) (enough : lines ≤ streams.length)
    (built : build.Placed records placed streams mapGPSid) :
    (addPoint unknown mapGPSid build mapPoint).Placed records (placed ++ [mapPoint]) streams
      mapGPSid := by
  have front := built.front split chained
  have owned := fillGap_placed split chained built
  have member : mapPoint ∈ records := by simp [split]
  have known := disjoint.known mapPoint member
  have fits := disjoint.targets mapPoint member
  unfold addPoint placePoint
  rw [fillGap_streams, fillGap_offset, built.streams, if_neg (by omega)]
  have ends : (mapPoint.offset + mapPoint.length).toNat = mapPoint.stop := toNat_add_of_lt fits
  refine ⟨?_, ?_, ?_, ?_⟩
  · rfl
  · intro entry inserted
    rcases OrderedMap.mem_insert.mp inserted with rfl | ⟨old, _⟩
    · exact .inl member
    · exact owned entry old
  · intro record before
    rw [ends]
    rcases List.mem_append.mp before with early | here
    · have passed := built.reached record early
      unfold MapEntryPoint.stop at passed ⊢
      omega
    · rw [List.mem_singleton.mp here]
  · exact .inr ⟨mapPoint, by simp, ends⟩

private theorem foldl_placed (unknown : Stream) (split : records = placed ++ rest)
    (chained : records.Pairwise fun left right => left.stop ≤ right.offset.toNat)
    (disjoint : DisjointRecords records lines) (enough : lines ≤ streams.length)
    (built : build.Placed records placed streams mapGPSid) :
    (rest.foldl (addPoint unknown mapGPSid) build).Placed records records streams mapGPSid := by
  induction rest generalizing placed build with
  | nil =>
      rw [List.append_nil] at split
      exact split ▸ built
  | cons mapPoint rest ih =>
      have next := addPoint_placed unknown split chained disjoint enough built
      exact ih (by rw [split, List.append_assoc]; rfl) next

end Construction

theorem buildMap_placed {Stream : Type} (unknown : Stream) {streams : List (Option Stream)}
    (mapGapStream : Option Stream) {records : List MapEntryPoint}
    (disjoint : DisjointRecords records streams.length) (order : PointSort) :
    (buildMap unknown streams mapGapStream (order.sort records)).Placed (order.sort records)
      (order.sort records) (streams ++ [mapGapStream]) streams.length := by
  obtain ⟨sortedDisjoint, chained⟩ := disjoint.sorted order
  have start : MapBuild.Placed ⟨.empty, 0, streams ++ [mapGapStream]⟩ (order.sort records) []
      (streams ++ [mapGapStream]) streams.length :=
    ⟨rfl, by simp, by simp, .inl ⟨rfl, rfl⟩⟩
  exact foldl_placed unknown rfl chained sortedDisjoint (by simp) start

theorem fillTail_placed {Stream : Type} {build : MapBuild Stream} {records : List MapEntryPoint}
    {streams : List (Option Stream)} {mapGPSid : Nat}
    (built : build.Placed records records streams mapGPSid) (length : U64) :
    ∀ entry ∈ (fillTail mapGPSid build length).entries,
      entry.2 ∈ records ∨ entry.2.FillsHole mapGPSid records := by
  unfold fillTail
  split
  · intro entry member
    rcases OrderedMap.mem_insert.mp member with rfl | ⟨old, _⟩
    · exact .inr ⟨rfl, rfl, fun record recorded => .inr (built.reached record recorded)⟩
    · exact built.owned entry old
  · exact built.owned

/-! ## The image -/

/-- The byte of the image at an address: that of the record over it, else of the gap stream. -/
def imageByte {Stream : Type} (records : List MapEntryPoint) (streams : List (Option Stream))
    (gap : Stream) (content : Stream → U64 → UInt8) (address : U64) : UInt8 :=
  match records.find? fun record => record.Covers address with
  | some record =>
      match streams[record.streamID.toNat]? with
      | some (some lower) => content lower (record.lowerOffset address)
      | _ => content gap address
  | none => content gap address

private theorem imageByte_record {Stream : Type} {records : List MapEntryPoint} {lines : Nat}
    (disjoint : DisjointRecords records lines) {streams : List (Option Stream)} {gap : Stream}
    {content : Stream → U64 → UInt8} {address : U64} {record : MapEntryPoint}
    (member : record ∈ records) (covers : record.Covers address) {lower : Stream}
    (listed : streams[record.streamID.toNat]? = some (some lower)) :
    imageByte records streams gap content address = content lower (record.lowerOffset address) := by
  unfold imageByte
  cases found : records.find? fun record => record.Covers address with
  | none =>
      have excluded := List.find?_eq_none.mp found record member
      exact absurd (decide_eq_true covers) excluded
  | some other =>
      have otherCovers := List.find?_some found
      have same := unique_of_apart disjoint.apart (List.mem_of_find?_eq_some found) member
        (of_decide_eq_true otherCovers) covers
      subst same
      dsimp only
      rw [listed]

private theorem imageByte_gap {Stream : Type} {records : List MapEntryPoint}
    {streams : List (Option Stream)} {gap : Stream} {content : Stream → U64 → UInt8}
    {address : U64} (uncovered : ∀ record ∈ records, ¬record.Covers address) :
    imageByte records streams gap content address = content gap address := by
  have absent : (records.find? fun record => record.Covers address) = none := by
    apply List.find?_eq_none.mpr
    intro record member covers
    exact uncovered record member (of_decide_eq_true covers)
  rw [imageByte, absent]

theorem shows_imageByte {Stream : Type} {self : MapStream Stream} (wellFormed : self.WellFormed)
    {records : List MapEntryPoint} {lines : Nat} (disjoint : DisjointRecords records lines)
    {streams : List (Option Stream)} {gap : Stream} (few : streams.length < 2 ^ 32)
    (listed : self.streams = streams ++ [some gap])
    (owned : ∀ entry ∈ self.map.entries,
      entry.2 ∈ records ∨ entry.2.FillsHole streams.length records)
    (content : Stream → U64 → UInt8) :
    self.Shows content (imageByte records self.streams gap content) := by
  intro first address entry lower ordered inside _ found spans
  have below := found.below
  have covers : entry.Covers address := by
    unfold MapEntryPoint.Covers MapEntryPoint.stop
    bv_omega
  rcases owned _ (found.member wellFormed) with recorded | hole
  · exact (imageByte_record disjoint recorded covers found.lower).symm
  · have uncovered : ∀ record ∈ records, ¬record.Covers address :=
      fun record member both => (hole.apart record member).not_both covers both
    have isGap : lower = gap := by
      have atGap := found.lower
      rw [hole.streamID, BitVec.toNat_ofNat, Nat.mod_eq_of_lt few, listed] at atGap
      simpa using atGap.symm
    have same : entry.lowerOffset address = address := by
      rw [MapEntryPoint.lowerOffset, hole.streamOffset]
      bv_omega
    rw [imageByte_gap uncovered, isGap, same]

/-! ## Reading -/

theorem length_nonEmptyLines (idx : Bytes) : (nonEmptyLines idx).length ≤ idx.length := by
  unfold nonEmptyLines
  induction idx with
  | nil => simp
  | cons byte rest ih =>
      rw [List.splitOn_cons_eq_if_modifyHead]
      split
      · simp only [List.isEmpty_nil, Bool.not_true, Bool.false_eq_true, not_false_eq_true,
          List.filter_cons_of_neg, List.length_cons]
        exact Nat.le_succ_of_le ih
      · cases parts : rest.splitOn 10 with
        | nil => simp
        | cons head tail =>
            rw [parts] at ih
            rw [List.modifyHead_cons, List.filter_cons, if_pos (by simp), List.length_cons,
              List.length_cons]
            have fewer := (List.sublist_cons_self head tail).filter fun line => !line.isEmpty
            exact Nat.succ_le_succ (le_trans fewer.length_le ih)

/-- `idx` comes in one transfer, so its streams can be counted in 32 bits. -/
theorem initStreamVector_few {Stream : Type} {parent : Parent Stream} {resource : Bytes}
    {unknownOverride : Option Stream} {streams : List (Option Stream)}
    (resolved : initStreamVector parent resource unknownOverride = .ok streams) :
    streams.length < 2 ^ 32 := by
  cases present : parent.getSegment (resource ++ text "/idx") with
  | none =>
      rw [initStreamVector, present] at resolved
      cases resolved
      exact Nat.two_pow_pos 32
  | some idx =>
      rw [← (initStreamVector_resolved present resolved).length_eq]
      exact lt_of_le_of_lt (length_nonEmptyLines idx.bytes) idx.oneTransfer

private theorem MapBuild.Placed.lastRecord {Stream : Type} {build : MapBuild Stream}
    {records : List MapEntryPoint} {streams : List (Option Stream)} {mapGPSid : Nat}
    (built : build.Placed records records streams mapGPSid) (nonempty : records ≠ []) :
    ∃ last ∈ records, build.offset.toNat = last.stop ∧
      ∀ record ∈ records, record.stop ≤ last.stop := by
  rcases built.last with ⟨empty, _⟩ | ⟨last, member, here⟩
  · exact absurd empty nonempty
  · exact ⟨last, member, here, fun record recorded => here ▸ built.reached record recorded⟩

theorem stream_of_line {Stream : Type} {parent : Parent Stream} {unknownOverride : Option Stream}
    {lines : List Bytes} {streams : List (Option Stream)} (added : List (Option Stream))
    (resolved : List.Forall₂
      (fun line stream => resolveLine parent unknownOverride line = .ok stream) lines streams)
    {index : Nat} (known : index < lines.length) :
    ∃ line lower, lines[index]? = some line ∧
      resolveLine parent unknownOverride line = .ok (some lower) ∧
      (streams ++ added)[index]? = some (some lower) := by
  obtain ⟨sameLength, each⟩ := List.forall₂_iff_get.mp resolved
  have inside : index < streams.length := by omega
  have accepted := each index known inside
  obtain ⟨lower, found⟩ := Option.isSome_iff_exists.mp (resolveLine_present accepted)
  refine ⟨_, lower, List.getElem?_eq_getElem known, found ▸ accepted, ?_⟩
  rw [List.getElem?_append_left inside, List.getElem?_eq_getElem inside]
  exact congrArg some found

/-- The map is created, its size is the declared one or the end of the last record, and a
read that fits and whose requests are served delivers for each address the byte of the record
over it, else of the gap stream. -/
def DeliversRecords {Stream : Type} (parent : Parent Stream) (resource : Bytes) (size : U64)
    (unknownOverride : Option Stream) (gap : Stream) (order : PointSort) (heap : Nat → UInt8)
    (idx segment : Segment) : Prop :=
  ∃ self,
    MapStream.create parent resource size unknownOverride (some gap) order heap = .ok self ∧
    (size ≠ 0 → self.size = size) ∧
    (size = 0 → ∃ last ∈ segment.records heap, self.size.toNat = last.stop ∧
      ∀ record ∈ segment.records heap, record.stop ≤ last.stop) ∧
    ∀ (World : Type) (reader : StreamReader Stream World) (content : Stream → U64 → UInt8)
      (offset count : U64), offset ≤ self.size → offset.toNat + count.toNat < 2 ^ 64 →
      ∀ memory : Buffer, min count.toNat (self.size.toNat - offset.toNat) ≤ memory.capacity →
      ∀ world : World, ServedBy content (self.requests reader count offset world) →
        ∃ result, self.read reader memory count offset world = some (.ok result) ∧
          result.res = ((min count.toNat (self.size.toNat - offset.toNat) : Nat) : Int) ∧
          ∀ index, index < min count.toNat (self.size.toNat - offset.toNat) →
            let address := offset + BitVec.ofNat 64 index
            (∀ record ∈ segment.records heap, record.Covers address →
              ∃ line lower, (nonEmptyLines idx.bytes)[record.streamID.toNat]? = some line ∧
                resolveLine parent unknownOverride line = .ok (some lower) ∧
                result.memory.bytes index =
                  content lower (record.streamOffset + (address - record.offset))) ∧
            ((∀ record ∈ segment.records heap, ¬record.Covers address) →
              result.memory.bytes index = content gap address)

section Delivery

variable {Stream : Type} {parent : Parent Stream} {resource : Bytes}
  {unknownOverride : Option Stream} {streams : List (Option Stream)} {idx segment : Segment}
  {heap : Nat → UInt8}

private theorem delivers_of_fits (size : U64) (gap : Stream) (order : PointSort)
    (idxPresent : parent.getSegment (resource ++ text "/idx") = some idx)
    (resolved : initStreamVector parent resource unknownOverride = .ok streams)
    (mapPresent : parent.getSegment (resource ++ text "/map") = some segment)
    (filled : segment.size ≠ 0) (nonempty : segment.records heap ≠ [])
    (fits : ¬segment.overruns) (countable : segment.recordCount < 2 ^ 32)
    (disjoint : DisjointRecords (segment.records heap) (nonEmptyLines idx.bytes).length) :
    DeliversRecords parent resource size unknownOverride gap order heap idx segment := by
  have lines := initStreamVector_resolved idxPresent resolved
  have sameLength := lines.length_eq
  have few := initStreamVector_few resolved
  rw [sameLength] at disjoint
  have perm := order.perm (segment.records heap)
  have sortedDisjoint := (disjoint.sorted order).1
  have built := buildMap_placed parent.createUnknownStream (some gap) disjoint order
  have sortedNonempty : order.sort (segment.records heap) ≠ [] := by
    intro empty
    rw [empty] at perm
    exact nonempty perm.nil_eq.symm
  obtain ⟨last, lastMember, lastStop, greatest⟩ := built.lastRecord sortedNonempty
  have lastPositive := sortedDisjoint.positive last lastMember
  have sized : (buildMap parent.createUnknownStream streams (some gap)
      (order.sort (segment.records heap))).size size ≠ 0 := by
    unfold MapBuild.size MapEntryPoint.stop at *
    split
    · bv_omega
    · assumption
  have created := create_of_records resolved mapPresent filled fits countable rfl sized
  refine ⟨_, created, ?_, ?_, ?_⟩
  · intro declared
    exact if_neg declared
  · intro undeclared
    refine ⟨last, perm.mem_iff.mp lastMember, ?_, ?_⟩
    · unfold MapStream.size MapBuild.size
      rw [if_pos undeclared]
      exact lastStop
    · exact fun record member => greatest record (perm.mem_iff.mpr member)
  · intro World reader content offset count inside noOverflow memory room world served
    have wellFormed := create_wellFormed created rfl
    have present := create_present created rfl rfl
    have shows := shows_imageByte wellFormed sortedDisjoint few built.streams
      (fillTail_placed built size) content
    obtain ⟨result, ran, returned, bytes⟩ :=
      read_served wellFormed present rfl shows inside noOverflow memory room world served
    refine ⟨result, ran, returned, ?_⟩
    intro index within
    refine ⟨?_, ?_⟩
    · intro record member covers
      have known := disjoint.known record member
      obtain ⟨line, lower, isLine, accepted, listed⟩ :=
        stream_of_line [some gap] lines (sameLength ▸ known)
      refine ⟨line, lower, isLine, accepted, ?_⟩
      rw [bytes index within]
      exact imageByte_record sortedDisjoint (perm.mem_iff.mpr member) covers
        (by rw [← listed]; exact congrArg (·[record.streamID.toNat]?) built.streams)
    · intro uncovered
      rw [bytes index within]
      exact imageByte_gap fun record member => uncovered record (perm.mem_iff.mp member)

/-- A map over disjoint records delivers them exactly when the read of the map segment stays
in the buffer, which holds the whole records of the segment. -/
theorem read_disjoint_records (size : U64) (gap : Stream) (order : PointSort)
    (idxPresent : parent.getSegment (resource ++ text "/idx") = some idx)
    (resolved : initStreamVector parent resource unknownOverride = .ok streams)
    (mapPresent : parent.getSegment (resource ++ text "/map") = some segment)
    (nonempty : segment.records heap ≠ []) (countable : segment.recordCount < 2 ^ 32)
    (disjoint : DisjointRecords (segment.records heap) (nonEmptyLines idx.bytes).length) :
    DeliversRecords parent resource size unknownOverride gap order heap idx segment ↔
      segment.bytes.length ≤ sizeofMapEntryPoint * segment.recordCount := by
  have filled : segment.size ≠ 0 := by
    intro empty
    apply nonempty
    rw [Segment.records, Segment.recordCount, empty]
    rfl
  rw [← Segment.not_overruns_iff]
  constructor
  · rintro ⟨self, created, _⟩ overruns
    cases created.symm.trans (create_overruns resolved mapPresent filled overruns)
  · intro fits
    exact delivers_of_fits size gap order idxPresent resolved mapPresent filled nonempty fits
      countable disjoint

end Delivery

/-- A segment of one record and a byte behind it, in a volume with two lines. -/
def trailingByte : Segment := .full (MapEntryPoint.toBytes ⟨0, 10, 0, 0⟩ ++ [0]) (by decide)

def trailingParent : Parent Bytes where
  getSegment name :=
    if name = text "/idx" then some twoLines
    else if name = text "/map" then some trailingByte
    else none
  getImageStream := some
  resolver := none
  rdfModel := none
  createUnknownStream := lexiconUnknown
  createUnknownStreamFor := id

/-- 29 bytes are read into the buffer of one record. -/
theorem trailing_byte_overruns :
    trailingByte.records (fun _ => 0) = [⟨0, 10, 0, 0⟩] ∧
      DisjointRecords [⟨0, 10, 0, 0⟩] (nonEmptyLines twoLines.bytes).length ∧
      MapStream.create trailingParent [] 0 none (some (text "gap")) .insertion (fun _ => 0) =
        .error .bufferOverrun ∧
      ¬DeliversRecords trailingParent [] 0 none (text "gap") .insertion (fun _ => 0) twoLines
        trailingByte := by
  have overruns : MapStream.create trailingParent [] 0 none (some (text "gap")) .insertion
      (fun _ => 0) = .error .bufferOverrun := rfl
  refine ⟨by decide, ⟨by decide, by decide, by decide, by decide⟩, overruns, ?_⟩
  rintro ⟨self, created, _⟩
  cases created.symm.trans overruns

/-- Streams of a hundred bytes. -/
def hundredBytes (content : Bytes → U64 → UInt8) : StreamReader Bytes Unit where
  read stream count offset world :=
    (.delivered (window (content stream) offset (min count.toNat (100 - offset.toNat))), world)
  bounded := by
    intro stream count offset world
    simp only [ReadResult.bytes_delivered, length_window]
    omega

theorem read_disjoint_records_unsorted :
    ∃ self, MapStream.create (Parent.ofRecords twoLines unsortedRecords (by decide)) [] 0 none
        (some (text "gap")) .insertion (fun _ => 0) = .ok self ∧
      ∀ content : Bytes → U64 → UInt8, ∃ result,
        self.read (hundredBytes content) ⟨fun _ => 0, 60, by decide⟩ 40 20 () =
          some (.ok result) ∧ result.res = 40 := by
  have records := Segment.records_ofRecords unsortedRecords (by decide) (fun _ => 0)
  have disjoint : DisjointRecords unsortedRecords (nonEmptyLines twoLines.bytes).length :=
    ⟨by decide, by decide, by decide, by decide⟩
  have countable : (Segment.ofRecords unsortedRecords (by decide)).recordCount < 2 ^ 32 := by
    rw [Segment.recordCount_ofRecords]
    decide
  obtain ⟨self, created, _, _, reads⟩ := (read_disjoint_records 0 (text "gap") .insertion rfl
    (initStreamVector_ofRecords twoLines unsortedRecords (by decide)) rfl
    (by rw [records]; decide) countable (by rwa [records])).mpr
    (Segment.not_overruns_iff.mp (Segment.not_overruns_ofRecords unsortedRecords (by decide)))
  refine ⟨self, created, fun content => ?_⟩
  cases created.symm.trans create_unsorted
  have served : ServedBy content (MapStream.requests
      ⟨false, 60, [some (text "a"), some (text "b"), some (text "gap")],
        ⟨[(0, ⟨0, 8, 0, 2⟩), (8, ⟨8, 32, 5, 0⟩), (40, ⟨40, 10, 40, 2⟩), (50, ⟨50, 10, 0, 1⟩)],
          by decide⟩⟩ (hundredBytes content) 40 20 ()) := by
    change ServedBy content (answers (hundredBytes content)
      [⟨20, some (text "a"), 20, 17⟩, ⟨40, some (text "gap"), 10, 40⟩, ⟨50, some (text "b"), 10, 0⟩]
      ())
    simp only [ServedBy, answers, hundredBytes, List.mem_cons, List.not_mem_nil, or_false]
    rintro request (rfl | rfl | rfl) stream asked
    · cases asked
      rfl
    · cases asked
      rfl
    · cases asked
      rfl
  obtain ⟨result, ran, returned, _⟩ := reads Unit (hundredBytes content) content 20 40
    (by decide) (by decide) ⟨fun _ => 0, 60, by decide⟩ (by decide) () served
  exact ⟨result, ran, returned⟩

end Aff4Lite.Stream
