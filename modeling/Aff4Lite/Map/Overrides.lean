import Aff4Lite.Map.AFF4Map

/-!
# The overrides of a map

`setUnknownStreamOverride`, `setMapGapStreamOverride` and `getStream` in any order. Null is to
reset an override to the system default; for the gap stream it is kept and handed on.
-/

set_option autoImplicit false

namespace Aff4Lite.Map

open Lib Rdf Containers Aff4Lite.Stream

/-- The streams of the library, and those that a caller brings. -/
inductive Source (User : Type) where
  | library (stream : ContainerStream)
  | caller (stream : User)

/-- What a call of `getStream` meets: the segments, the resolver, `std::sort` and `new`. -/
structure Volume (User : Type) where
  segments : Bytes → Option Segment
  resolver : Option (Resolver (Source User))
  order : PointSort
  heap : Nat → UInt8

namespace Volume

variable {User : Type}

def storedIn (model : Model) (resource : Bytes) : Option Bytes :=
  (getProperty (model.getObjectInformation resource) .aff4Stored).head?.map (·.valueLiteral)

/-- The parent container. -/
def parent (volume : Volume User) (container : AFF4ZipContainer) : Parent (Source User) where
  getSegment := volume.segments
  getImageStream line := (container.getImageStream line).map .library
  resolver := volume.resolver
  rdfModel := some (storedIn container.model)
  createUnknownStream := .library createUnknownStream
  createUnknownStreamFor resource := .library (createUnknownStreamFor resource)

end Volume

inductive MapCall (User : Type) where
  | setUnknownStreamOverride (stream : Option (Source User))
  | setMapGapStreamOverride (stream : Option (Source User))
  | getStream (volume : Volume User)

/-- The members of a map that the calls use. -/
structure MapObject (User : Type) where
  resource : Bytes
  length : U64
  unknownOverride : Option (Source User)
  mapGapStreamOverride : Option (Source User)

namespace MapObject

variable {User : Type}

/-- A map as its constructor leaves it. -/
def ofMap (map : AFF4Map) : MapObject User where
  resource := map.resource
  length := map.length
  unknownOverride := map.unknownOverride.map .library
  mapGapStreamOverride := map.mapGapStreamOverride.map .library

def getStream (map : MapObject User) (container : AFF4ZipContainer) (volume : Volume User) :
    Except Fault (MapStream (Source User)) :=
  MapStream.create (volume.parent container) map.resource map.length map.unknownOverride
    map.mapGapStreamOverride volume.order volume.heap

def step (map : MapObject User) : MapCall User → MapObject User
  | .setUnknownStreamOverride stream => { map with unknownOverride := stream }
  | .setMapGapStreamOverride stream => { map with mapGapStreamOverride := stream }
  | .getStream _ => map

def after (map : MapObject User) (calls : List (MapCall User)) : MapObject User :=
  calls.foldl step map

end MapObject

/-! ## What was set last -/

section History

variable {User : Type}

def unknownSet : MapCall User → Option (Option (Source User))
  | .setUnknownStreamOverride stream => some stream
  | _ => none

def gapSet : MapCall User → Option (Option (Source User))
  | .setMapGapStreamOverride stream => some stream
  | _ => none

/-- The stream, or null, that the last setter of one kind was given. -/
def lastSet (set : MapCall User → Option (Option (Source User))) (calls : List (MapCall User)) :
    Option (Option (Source User)) :=
  (calls.filterMap set).getLast?

/-- The stream for lines that name `aff4:UnknownData`. -/
def unknownDue (calls : List (MapCall User)) : Source User :=
  ((lastSet unknownSet calls).getD none).getD (.library createUnknownStream)

/-- The stream for addresses that no record covers; without a setter it is the map's own. -/
def gapDue (map : MapObject User) (calls : List (MapCall User)) : Source User :=
  ((lastSet gapSet calls).getD map.mapGapStreamOverride).getD (.library createZeroStream)

private theorem lastSet_cons_some {set : MapCall User → Option (Option (Source User))}
    {call : MapCall User} {stream : Option (Source User)} (sets : set call = some stream)
    (calls : List (MapCall User)) :
    lastSet set (call :: calls) = some ((lastSet set calls).getD stream) := by
  unfold lastSet
  rw [List.filterMap_cons_some sets, List.getLast?_cons]

private theorem lastSet_cons_none {set : MapCall User → Option (Option (Source User))}
    {call : MapCall User} (leaves : set call = none) (calls : List (MapCall User)) :
    lastSet set (call :: calls) = lastSet set calls := by
  unfold lastSet
  rw [List.filterMap_cons_none leaves]

/-- The setters leave what was set last, and nothing else of the map changes. -/
theorem MapObject.after_eq (map : MapObject User) (calls : List (MapCall User)) :
    map.after calls =
      { map with
        unknownOverride := (lastSet unknownSet calls).getD map.unknownOverride
        mapGapStreamOverride := (lastSet gapSet calls).getD map.mapGapStreamOverride } := by
  induction calls generalizing map with
  | nil => rfl
  | cons call calls ih =>
      have rest := ih (map.step call)
      change (map.step call).after calls = _
      rw [rest]
      cases call with
      | setUnknownStreamOverride stream =>
          rw [lastSet_cons_some (show unknownSet (.setUnknownStreamOverride stream) = _ from rfl),
            lastSet_cons_none (show gapSet (.setUnknownStreamOverride stream) = _ from rfl)]
          rfl
      | setMapGapStreamOverride stream =>
          rw [lastSet_cons_none (show unknownSet (.setMapGapStreamOverride stream) = _ from rfl),
            lastSet_cons_some (show gapSet (.setMapGapStreamOverride stream) = _ from rfl)]
          rfl
      | getStream volume =>
          rw [lastSet_cons_none (show unknownSet (.getStream volume) = _ from rfl),
            lastSet_cons_none (show gapSet (.getStream volume) = _ from rfl)]
          rfl

end History

/-! ## One stream -/

/-- The end of the last of the sorted records. -/
def lastStop (points : List MapEntryPoint) : U64 :=
  match points.getLast? with
  | none => 0
  | some point => point.offset + point.length

/-- The map segment is missing or empty, or nothing gives the map a size. -/
def NothingMapped (segment : Option Segment) (length : U64) (order : PointSort)
    (heap : Nat → UInt8) : Prop :=
  ∀ found ∈ segment,
    found.size = 0 ∨ length = 0 ∧ lastStop (order.sort (found.records heap)) = 0

section Construction

variable {Stream : Type}

private theorem addPoint_offset (unknown : Stream) (mapGPSid : Nat) (build : MapBuild Stream)
    (mapPoint : MapEntryPoint) :
    (addPoint unknown mapGPSid build mapPoint).offset = mapPoint.offset + mapPoint.length := by
  unfold addPoint placePoint
  split <;> dsimp only <;> rw [fillGap_offset]

private theorem foldl_offset (unknown : Stream) (mapGPSid : Nat) (mapPoints : List MapEntryPoint)
    (build : MapBuild Stream) :
    (mapPoints.foldl (addPoint unknown mapGPSid) build).offset =
      match mapPoints.getLast? with
      | none => build.offset
      | some point => point.offset + point.length := by
  induction mapPoints generalizing build with
  | nil => rfl
  | cons mapPoint rest ih =>
      rw [List.foldl_cons, ih, List.getLast?_cons]
      cases rest.getLast? with
      | none => exact addPoint_offset unknown mapGPSid build mapPoint
      | some point => rfl

private theorem buildMap_offset (unknown : Stream) (streams : List (Option Stream))
    (mapGapStream : Option Stream) (mapPoints : List MapEntryPoint) :
    (buildMap unknown streams mapGapStream mapPoints).offset = lastStop mapPoints :=
  foldl_offset unknown _ mapPoints _

variable {parent : Parent Stream} {resource : Bytes} {length : U64} {order : PointSort}
  {heap : Nat → UInt8} {unknownOverride mapGapStream : Option Stream} {self : MapStream Stream}

private theorem initMap_empty_iff {streams : List (Option Stream)}
    (initialised : initMap parent resource length streams mapGapStream order heap = .ok self) :
    self.length = 0 ↔
      NothingMapped (parent.getSegment (resource ++ text "/map")) length order heap := by
  unfold initMap at initialised
  unfold NothingMapped
  cases present : parent.getSegment (resource ++ text "/map") with
  | none =>
      rw [present] at initialised
      cases initialised
      simp
  | some segment =>
      rw [present] at initialised
      dsimp only at initialised
      simp only [Option.mem_some_iff, forall_eq']
      split at initialised
      · rename_i empty
        cases initialised
        simp [empty]
      · rename_i nonempty
        split at initialised
        · cases initialised
        split at initialised
        · cases initialised
        · cases initialised
          dsimp only
          rw [buildMap_offset]
          simp only [nonempty, false_or]
          split
          · rename_i zero
            exact ⟨fun stop => ⟨zero, stop⟩, And.right⟩
          · rename_i declared
            exact ⟨fun zero => absurd zero declared, fun both => absurd both.1 declared⟩

private theorem create_closed_iff
    (created : MapStream.create parent resource length unknownOverride mapGapStream order heap =
      .ok self) :
    self.closed = true ↔
      NothingMapped (parent.getSegment (resource ++ text "/map")) length order heap := by
  obtain ⟨streams, stream, _, initialised, ⟨empty, rfl⟩ | ⟨nonempty, rfl⟩⟩ := create_cases created
  · rw [← initMap_empty_iff initialised]
    simp [empty]
  · rw [← initMap_empty_iff initialised, initMap_open initialised]
    exact ⟨fun shut => absurd shut (by decide), fun empty => absurd empty nonempty⟩

private theorem streams_of_closed
    (created : MapStream.create parent resource length unknownOverride mapGapStream order heap =
      .ok self) (shut : self.closed = true) : self.streams = [] := by
  obtain ⟨streams, stream, _, initialised, ⟨_, rfl⟩ | ⟨_, rfl⟩⟩ := create_cases created
  · unfold MapStream.close
    rw [if_neg (by rw [initMap_open initialised]; decide)]
  · rw [initMap_open initialised] at shut
    cases shut

private theorem gap_held
    (created : MapStream.create parent resource length unknownOverride mapGapStream order heap =
      .ok self) (isOpen : self.closed = false) : mapGapStream ∈ self.streams := by
  obtain ⟨streams, segment, build, _, _, built, _, rfl⟩ := create_open created isOpen
  obtain ⟨_, added, grown, _⟩ := buildMap_linked parent.createUnknownStream streams mapGapStream
    (order.sort (segment.records heap))
  rw [← built] at grown
  change mapGapStream ∈ build.streams
  rw [grown]
  simp

private theorem line_resolved {idx : Segment}
    (created : MapStream.create parent resource length unknownOverride mapGapStream order heap =
      .ok self) (isOpen : self.closed = false)
    (present : parent.getSegment (resource ++ text "/idx") = some idx) {index : Nat}
    {line : Bytes} (listed : (nonEmptyLines idx.bytes)[index]? = some line) :
    ∃ stream, resolveLine parent unknownOverride line = .ok stream ∧
      self.streams[index]? = some stream := by
  obtain ⟨streams, segment, build, resolved, _, built, _, rfl⟩ := create_open created isOpen
  obtain ⟨_, added, grown, _⟩ := buildMap_linked parent.createUnknownStream streams mapGapStream
    (order.sort (segment.records heap))
  rw [← built] at grown
  obtain ⟨sameLength, lines⟩ :=
    List.forall₂_iff_get.mp (initStreamVector_resolved present resolved)
  obtain ⟨inside, rfl⟩ := List.getElem?_eq_some_iff.mp listed
  refine ⟨streams[index], lines index inside (by omega), ?_⟩
  change build.streams[index]? = _
  rw [grown, List.getElem?_append_left (by omega), List.getElem?_eq_getElem]

end Construction

section GetStream

variable {User : Type}

/-- What a stream that `getStream` returns is meant to be. -/
structure Overridden (resource : Bytes) (volume : Volume User) (unknown gap : Source User)
    (stream : MapStream (Source User)) : Prop where
  present : ∀ lower ∈ stream.streams, lower.isSome
  gaps : ∀ segment, volume.segments (resource ++ text "/map") = some segment →
    stream.ReadsGap (segment.records volume.heap) gap
  unknowns : stream.closed = false → ∀ idx,
    volume.segments (resource ++ text "/idx") = some idx →
      ∀ line : Nat, (nonEmptyLines idx.bytes)[line]? =
          some (getLexiconString .aff4ImagestreamUnknown) →
        stream.streams[line]? = some (some unknown)

variable {container : AFF4ZipContainer} {map : MapObject User} {volume : Volume User}
  {self : MapStream (Source User)}

/-- A line that names `aff4:UnknownData` is the override, or the container's own stream. -/
theorem resolveLine_unknown :
    resolveLine (volume.parent container) map.unknownOverride
        (getLexiconString .aff4ImagestreamUnknown) =
      .ok (some (map.unknownOverride.getD (.library createUnknownStream))) := by
  have name : getLexiconString .aff4ImagestreamUnknown = lexiconUnknown := by decide +kernel
  have own : container.getImageStream lexiconUnknown = some createUnknownStream := by
    unfold AFF4ZipContainer.getImageStream
    rw [← name, if_neg (by decide +kernel), if_neg (by decide +kernel), if_pos rfl]
  rw [name]
  unfold resolveLine
  cases map.unknownOverride with
  | some stream => simp
  | none => simp [Volume.parent, own]

private theorem overridden_iff (created : map.getStream container volume = .ok self) :
    Overridden map.resource volume (map.unknownOverride.getD (.library createUnknownStream))
        (map.mapGapStreamOverride.getD (.library createZeroStream)) self ↔
      map.mapGapStreamOverride ≠ none ∨
        NothingMapped (volume.segments (map.resource ++ text "/map")) map.length volume.order
          volume.heap := by
  unfold MapObject.getStream at created
  rw [show volume.segments = (volume.parent container).getSegment from rfl,
    ← create_closed_iff created]
  have unknowns : self.closed = false → ∀ idx,
      volume.segments (map.resource ++ text "/idx") = some idx →
        ∀ line : Nat, (nonEmptyLines idx.bytes)[line]? =
            some (getLexiconString .aff4ImagestreamUnknown) →
          self.streams[line]? =
            some (some (map.unknownOverride.getD (.library createUnknownStream))) := by
    intro isOpen idx present line listed
    obtain ⟨stream, resolved, held⟩ := line_resolved created isOpen present listed
    rw [resolveLine_unknown] at resolved
    cases resolved
    exact held
  constructor
  · intro overridden
    by_contra neither
    rw [not_or, not_not, Bool.not_eq_true] at neither
    have held := gap_held created neither.2
    rw [neither.1] at held
    exact absurd (overridden.present _ held) (by simp)
  · intro either
    cases shut : self.closed with
    | true =>
        refine ⟨?_, fun segment _ address inside => ?_, unknowns⟩
        · rw [streams_of_closed created shut]
          simp
        · rw [size_of_closed created shut] at inside
          exact absurd inside BitVec.not_lt_zero
    | false =>
        have set := either.resolve_right (by simp [shut])
        obtain ⟨gap, isGap⟩ := Option.ne_none_iff_exists'.mp set
        rw [isGap] at created ⊢
        exact ⟨create_present created shut rfl,
          fun segment present => create_readsGap present created, unknowns⟩

/-! ## Whole histories -/

/-- Every stream that a call in the history returns has the overrides that are due. -/
def AllOverridden (container : AFF4ZipContainer) (map : MapObject User)
    (calls : List (MapCall User)) : Prop :=
  ∀ before volume rest stream, calls = before ++ .getStream volume :: rest →
    (map.after before).getStream container volume = .ok stream →
      Overridden map.resource volume (unknownDue before) (gapDue map before) stream

/-- A map as its constructor leaves it has all its streams overridden exactly if no call that
returns a stream comes after a reset of the gap stream, unless that stream has nothing to
map. -/
theorem allOverridden_iff (container : AFF4ZipContainer) (resource : Bytes)
    (calls : List (MapCall User)) :
    AllOverridden container (.ofMap (AFF4Map.create container resource)) calls ↔
      ∀ before volume rest stream, calls = before ++ .getStream volume :: rest →
        ((MapObject.ofMap (AFF4Map.create container resource)).after before).getStream container
            volume = .ok stream →
          lastSet gapSet before ≠ some none ∨
            NothingMapped (volume.segments (resource ++ text "/map"))
              (AFF4Map.create container resource).length volume.order volume.heap := by
  refine forall₄_congr fun before volume rest stream =>
    forall₂_congr fun _ returned => ?_
  have one := overridden_iff returned
  rw [MapObject.after_eq] at one
  obtain ⟨gap, own⟩ : ∃ gap, (@MapObject.ofMap User
      (AFF4Map.create container resource)).mapGapStreamOverride = some gap :=
    ⟨_, congrArg (Option.map _) (AFF4Map.create_override container resource)⟩
  have set : (lastSet gapSet before).getD (some gap) ≠ none ↔
      lastSet gapSet before ≠ some none := by
    cases lastSet gapSet before <;> simp
  rw [← set, ← own]
  exact one

end GetStream

/-! ## A reset gap stream -/

/-- 8 addresses in front of the only record. -/
def lateRecord : List MapEntryPoint := [⟨8, 32, 5, 0⟩]

private theorem lateRecord_fits : sizeofMapEntryPoint * lateRecord.length < 2 ^ 32 := by decide

def lateSegment : Segment := .ofRecords lateRecord lateRecord_fits

def lateVolume : Volume Unit where
  segments name := if name = text "aff4://m/map" then some lateSegment else none
  resolver := none
  order := .insertion
  heap := fun _ => 0

def describedNowhere : AFF4ZipContainer := ⟨AFF4Map.emptyZip, .empty⟩

private theorem lateVolume_stream (map : MapObject Unit) (named : map.resource = text "aff4://m")
    (undeclared : map.length = 0) :
    ∃ stream, map.getStream describedNowhere lateVolume = .ok stream ∧ stream.closed = false := by
  have segments : ∀ name, lateVolume.segments name =
      if name = text "aff4://m/map" then some lateSegment else none := fun _ => rfl
  have listed : lateVolume.segments (text "aff4://m" ++ text "/map") = some lateSegment := by
    rw [segments, if_pos (by decide)]
  have missing : (lateVolume.parent describedNowhere).getSegment
      (text "aff4://m" ++ text "/idx") = none :=
    (segments (text "aff4://m" ++ text "/idx")).trans (if_neg (by decide))
  have resolved : initStreamVector (lateVolume.parent describedNowhere) (text "aff4://m")
      map.unknownOverride = .ok [] := by
    unfold initStreamVector
    rw [missing]
  have counted : lateSegment.recordCount < 2 ^ 32 := by
    rw [lateSegment, Segment.recordCount_ofRecords]
    decide
  have nonempty : (buildMap (lateVolume.parent describedNowhere).createUnknownStream []
      map.mapGapStreamOverride (lateVolume.order.sort (lateSegment.records
        lateVolume.heap))).size 0 ≠ 0 := by
    rw [MapBuild.size, if_pos rfl, buildMap_offset, lateSegment, Segment.records_ofRecords]
    decide
  unfold MapObject.getStream
  rw [named, undeclared]
  exact ⟨_, create_of_records resolved listed (by decide +kernel)
    (Segment.not_overruns_ofRecords lateRecord lateRecord_fits) counted rfl nonempty, rfl⟩

/-- After a reset the next stream holds null for its gaps. -/
theorem reset_gap_held :
    ¬∀ (container : AFF4ZipContainer) (resource : Bytes) (calls : List (MapCall Unit)),
      AllOverridden container (.ofMap (AFF4Map.create container resource)) calls := by
  intro every
  obtain ⟨stream, returned, isOpen⟩ := lateVolume_stream
    ((MapObject.ofMap (AFF4Map.create describedNowhere (text "aff4://m"))).after
      [.setMapGapStreamOverride none]) rfl rfl
  have overridden := every describedNowhere (text "aff4://m")
    [.setMapGapStreamOverride none, .getStream lateVolume] [.setMapGapStreamOverride none]
    lateVolume [] stream rfl returned
  exact absurd (overridden.present none (gap_held returned isOpen)) (by decide)

end Aff4Lite.Map
