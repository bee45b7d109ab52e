import Aff4Lite.Rdf.Model
import Aff4Lite.Resolver.LightResolver
import Aff4Lite.Stream.MapStream

/-!
# `initStreamVector` with a resolver that changes

The resolver and the volumes that it opens answer according to the state of the world, and an
answer may change that state. An `open` may find nothing where the `hasResource` before it
announced something. The streams come out as wanted exactly when this does not happen.
-/

set_option autoImplicit false

namespace Aff4Lite.Stream.Live

open Lib Rdf

/-! ## Announcing and opening -/

/-- The functions that `IAFF4Resolver` and `IAFF4Container` share. -/
structure Directory (World Key Value : Type) where
  hasResource : Key → World → Bool × World
  openResource : Key → World → Option Value × World

/-- What comes of `hasResource` and of the `open` behind it. -/
inductive Lookup (Value : Type) where
  | unknown
  /-- Announced, and not there. -/
  | vanished
  | found (value : Value)

namespace Directory

variable {World Key Value : Type}

def lookup (directory : Directory World Key Value) (key : Key) (world : World) :
    Lookup Value × World :=
  match directory.hasResource key world with
  | (false, world) => (.unknown, world)
  | (true, world) =>
      match directory.openResource key world with
      | (none, world) => (.vanished, world)
      | (some value, world) => (.found value, world)

def Truthful (directory : Directory World Key Value) (key : Key) (world : World) : Prop :=
  (directory.lookup key world).1 ≠ .vanished

private theorem lookup_vanished {directory : Directory World Key Value} {key : Key} {world : World}
    (broken : ¬directory.Truthful key world) :
    ∃ after, directory.lookup key world = (.vanished, after) :=
  ⟨(directory.lookup key world).2, Prod.ext (not_not.mp broken) rfl⟩

end Directory

/-! ## Resolving the lines of `idx` -/

/-- What an `open` returns, by `getBaseType()`. -/
inductive Resource (World Stream : Type) where
  | imageStream (stream : Stream)
  | zipVolume (container : Directory World Bytes (Resource World Stream))
  | other

abbrev Resolver (World Stream : Type) := Directory World Bytes (Resource World Stream)

/-- The parent `AFF4ZipContainer` and the stream factory. The container has an RDF model: its
constructor has used it. -/
structure Parent (World Stream : Type) where
  getSegment : Bytes → Option Segment
  getImageStream : Bytes → Option Stream
  resolver : Option (Resolver World Stream)
  rdfModel : Model
  createUnknownStreamFor : Bytes → Stream

/-- The value of the first `aff4:stored` property. -/
def storedIn (model : Model) (resource : Bytes) : Option Bytes :=
  (getProperty (model.getObjectInformation resource) .aff4Stored).head?.map (·.valueLiteral)

section Source

variable {World Stream : Type} (parent : Parent World Stream) (unknownOverride : Option Stream)

/-- The resolver doesn't know it, so attempt to get its parent. -/
def askParent (resolver : Resolver World Stream) (model : Model) (resource : Bytes)
    (world : World) : Except Fault (Option Stream × World) :=
  match storedIn model resource with
  | none => .ok (none, world)
  | some parentResource =>
      match resolver.lookup parentResource world with
      | (.vanished, _) => .error .nullDereference
      | (.found (.zipVolume container), world) =>
          match container.lookup resource world with
          | (.vanished, _) => .error .nullDereference
          | (.found (.imageStream stream), world) => .ok (some stream, world)
          | (_, world) => .ok (none, world)
      | (_, world) => .ok (none, world)

def queryResolver (resource : Bytes) (world : World) : Except Fault (Option Stream × World) :=
  match parent.resolver with
  | none => .ok (none, world)
  | some resolver =>
      match resolver.lookup resource world with
      | (.vanished, _) => .error .nullDereference
      | (.found (.imageStream stream), world) => .ok (some stream, world)
      | (_, world) => askParent resolver parent.rdfModel resource world

/-- The stream that is asked for before the resolver is. -/
def ownStream (line : Bytes) : Option Stream :=
  if line = lexiconUnknown ∧ unknownOverride.isSome then unknownOverride
  else parent.getImageStream line

def resolveLine (line : Bytes) (world : World) : Except Fault (Option Stream × World) :=
  match ownStream parent unknownOverride line with
  | some found => .ok (some found, world)
  | none => do
      match ← queryResolver parent line world with
      | (some found, world) => .ok (some found, world)
      | (none, world) => .ok (some (parent.createUnknownStreamFor line), world)

def resolveLines : List Bytes → World → Except Fault (List (Option Stream) × World)
  | [], world => .ok ([], world)
  | line :: lines, world => do
      let (stream, world) ← resolveLine parent unknownOverride line world
      let (streams, world) ← resolveLines lines world
      return (stream :: streams, world)

def idxLines (resource : Bytes) : List Bytes :=
  match parent.getSegment (resource ++ text "/idx") with
  | none => []
  | some idx => nonEmptyLines idx.bytes

def initStreamVector (resource : Bytes) (world : World) :
    Except Fault (List (Option Stream) × World) :=
  resolveLines parent unknownOverride (idxLines parent resource) world

end Source

/-! ## What the vector is for -/

def Lookup.stream? {World Stream : Type} : Lookup (Resource World Stream) → Option Stream
  | .found (.imageStream stream) => some stream
  | _ => none

def Lookup.volume? {World Stream : Type} :
    Lookup (Resource World Stream) → Option (Resolver World Stream)
  | .found (.zipVolume container) => some container
  | _ => none

section Purpose

variable {World Stream : Type}

/-- The stream in the volume that stores it; what has vanished is not there. -/
def locateStored (resolver : Resolver World Stream) (model : Model) (resource : Bytes)
    (world : World) : Option Stream × World :=
  match storedIn model resource with
  | none => (none, world)
  | some parentResource =>
      let (opened, world) := resolver.lookup parentResource world
      match opened.volume? with
      | none => (none, world)
      | some container =>
          let (child, world) := container.lookup resource world
          (child.stream?, world)

/-- The stream of the resolver itself, or the one in the volume. -/
def locate (resolver : Resolver World Stream) (model : Model) (resource : Bytes)
    (world : World) : Option Stream × World :=
  let (opened, world) := resolver.lookup resource world
  match opened.stream? with
  | some stream => (some stream, world)
  | none => locateStored resolver model resource world

variable (parent : Parent World Stream) (unknownOverride : Option Stream)

/-- The stream of a line; the unknown stream where the line cannot be resolved. -/
def wantedStream (line : Bytes) (world : World) : Stream × World :=
  match ownStream parent unknownOverride line, parent.resolver with
  | some found, _ => (found, world)
  | none, none => (parent.createUnknownStreamFor line, world)
  | none, some resolver =>
      let (located, world) := locate resolver parent.rdfModel line world
      (located.getD (parent.createUnknownStreamFor line), world)

def wantedStreams : List Bytes → World → List Stream × World
  | [], world => ([], world)
  | line :: lines, world =>
      let (stream, world) := wantedStream parent unknownOverride line world
      let (streams, world) := wantedStreams lines world
      (stream :: streams, world)

end Purpose

/-! ## Lookups that deliver -/

section Truthful

variable {World Stream : Type}

/-- The volume that stores `resource` is there if it is announced, and so is the stream in it. -/
def StoredTruthful (resolver : Resolver World Stream) (model : Model) (resource : Bytes)
    (world : World) : Prop :=
  ∀ parentResource, storedIn model resource = some parentResource →
    resolver.Truthful parentResource world ∧
      ∀ container,
        (resolver.lookup parentResource world).1 = .found (.zipVolume container) →
          container.Truthful resource (resolver.lookup parentResource world).2

/-- What is announced while `resource` is looked up is there when it is opened. -/
def LookupTruthful (resolver : Resolver World Stream) (model : Model) (resource : Bytes)
    (world : World) : Prop :=
  resolver.Truthful resource world ∧
    ((resolver.lookup resource world).1.stream? = none →
      StoredTruthful resolver model resource (resolver.lookup resource world).2)

/-- The resolver is not asked for the line, or is truthful about it. -/
def LineTruthful (parent : Parent World Stream) (unknownOverride : Option Stream) (line : Bytes)
    (world : World) : Prop :=
  ∀ resolver, ownStream parent unknownOverride line = none → parent.resolver = some resolver →
    LookupTruthful resolver parent.rdfModel line world

private theorem askParent_truthful {resolver : Resolver World Stream} {model : Model}
    {resource : Bytes}
    {world : World} (truthful : StoredTruthful resolver model resource world) :
    askParent resolver model resource world = .ok (locateStored resolver model resource world) := by
  unfold askParent locateStored
  cases stored : storedIn model resource with
  | none => rfl
  | some parentResource =>
      obtain ⟨volumeThere, streamThere⟩ := truthful parentResource stored
      unfold Directory.Truthful at volumeThere
      dsimp only
      rcases asked : resolver.lookup parentResource world with ⟨opened, between⟩
      rw [asked] at volumeThere streamThere
      match opened with
      | .unknown => rfl
      | .vanished => exact absurd rfl volumeThere
      | .found (.imageStream _) => rfl
      | .found .other => rfl
      | .found (.zipVolume container) =>
          have childThere := streamThere container rfl
          unfold Directory.Truthful at childThere
          dsimp only [Lookup.volume?] at childThere ⊢
          rcases askedChild : container.lookup resource between with ⟨child, after⟩
          rw [askedChild] at childThere
          match child with
          | .unknown => rfl
          | .vanished => exact absurd rfl childThere
          | .found (.imageStream _) => rfl
          | .found .other => rfl
          | .found (.zipVolume _) => rfl

private theorem askParent_vanished {resolver : Resolver World Stream} {model : Model}
    {resource : Bytes}
    {world : World} (broken : ¬StoredTruthful resolver model resource world) :
    askParent resolver model resource world = .error .nullDereference := by
  unfold StoredTruthful at broken
  push Not at broken
  obtain ⟨parentResource, stored, broken⟩ := broken
  unfold askParent
  rw [stored]
  dsimp only
  by_cases volumeThere : resolver.Truthful parentResource world
  · obtain ⟨container, opened, streamGone⟩ := broken volumeThere
    rcases asked : resolver.lookup parentResource world with ⟨volume, between⟩
    rw [asked] at opened streamGone
    dsimp only at opened streamGone ⊢
    subst opened
    obtain ⟨after, childVanished⟩ := Directory.lookup_vanished streamGone
    dsimp only
    rw [childVanished]
  · obtain ⟨after, volumeVanished⟩ := Directory.lookup_vanished volumeThere
    rw [volumeVanished]

private theorem queryResolver_truthful {parent : Parent World Stream}
    {resolver : Resolver World Stream}
    {resource : Bytes} {world : World} (present : parent.resolver = some resolver)
    (truthful : LookupTruthful resolver parent.rdfModel resource world) :
    queryResolver parent resource world =
      .ok (locate resolver parent.rdfModel resource world) := by
  unfold queryResolver locate
  rw [present]
  dsimp only
  obtain ⟨resourceThere, storedTruthful⟩ := truthful
  unfold Directory.Truthful at resourceThere
  rcases asked : resolver.lookup resource world with ⟨opened, after⟩
  rw [asked] at resourceThere storedTruthful
  match opened with
  | .vanished => exact absurd rfl resourceThere
  | .found (.imageStream _) => rfl
  | .unknown => exact askParent_truthful (storedTruthful rfl)
  | .found .other => exact askParent_truthful (storedTruthful rfl)
  | .found (.zipVolume _) => exact askParent_truthful (storedTruthful rfl)

private theorem queryResolver_vanished {parent : Parent World Stream}
    {resolver : Resolver World Stream}
    {resource : Bytes} {world : World} (present : parent.resolver = some resolver)
    (broken : ¬LookupTruthful resolver parent.rdfModel resource world) :
    queryResolver parent resource world = .error .nullDereference := by
  unfold queryResolver
  rw [present]
  dsimp only
  by_cases resourceThere : resolver.Truthful resource world
  · have storedBroken : (resolver.lookup resource world).1.stream? = none ∧
        ¬StoredTruthful resolver parent.rdfModel resource (resolver.lookup resource world).2 := by
      unfold LookupTruthful at broken
      push Not at broken
      exact broken resourceThere
    unfold Directory.Truthful at resourceThere
    rcases asked : resolver.lookup resource world with ⟨opened, after⟩
    rw [asked] at resourceThere storedBroken
    obtain ⟨noStream, storedBroken⟩ := storedBroken
    match opened with
    | .vanished => exact absurd rfl resourceThere
    | .found (.imageStream _) => cases noStream
    | .unknown => exact askParent_vanished storedBroken
    | .found .other => exact askParent_vanished storedBroken
    | .found (.zipVolume _) => exact askParent_vanished storedBroken
  · obtain ⟨after, vanished⟩ := Directory.lookup_vanished resourceThere
    rw [vanished]

variable {parent : Parent World Stream} {unknownOverride : Option Stream}

private theorem resolveLine_truthful {line : Bytes} {world : World}
    (truthful : LineTruthful parent unknownOverride line world) :
    resolveLine parent unknownOverride line world =
      .ok (some (wantedStream parent unknownOverride line world).1,
        (wantedStream parent unknownOverride line world).2) := by
  unfold resolveLine wantedStream
  cases own : ownStream parent unknownOverride line with
  | some found => rfl
  | none =>
      cases present : parent.resolver with
      | none =>
          have unasked : queryResolver parent line world = .ok (none, world) := by
            unfold queryResolver
            rw [present]
          dsimp only
          rw [unasked]
          rfl
      | some resolver =>
          dsimp only
          rw [queryResolver_truthful present (truthful resolver own present)]
          rcases locate resolver parent.rdfModel line world with ⟨located, after⟩
          cases located <;> rfl

private theorem resolveLine_vanished {line : Bytes} {world : World}
    (broken : ¬LineTruthful parent unknownOverride line world) :
    resolveLine parent unknownOverride line world = .error .nullDereference := by
  unfold LineTruthful at broken
  push Not at broken
  obtain ⟨resolver, own, present, broken⟩ := broken
  unfold resolveLine
  rw [own]
  dsimp only
  rw [queryResolver_vanished present broken]
  rfl

/-! ## The whole vector -/

def LinesTruthful (parent : Parent World Stream) (unknownOverride : Option Stream)
    (lines : List Bytes) (world : World) : Prop :=
  ∀ before line rest, lines = before ++ line :: rest →
    LineTruthful parent unknownOverride line (wantedStreams parent unknownOverride before world).2

private theorem linesTruthful_nil (world : World) :
    LinesTruthful parent unknownOverride [] world := by
  intro before line rest split
  simp at split

private theorem linesTruthful_cons {line : Bytes} {lines : List Bytes} {world : World} :
    LinesTruthful parent unknownOverride (line :: lines) world ↔
      LineTruthful parent unknownOverride line world ∧
        LinesTruthful parent unknownOverride lines
          (wantedStream parent unknownOverride line world).2 := by
  constructor
  · intro truthful
    refine ⟨truthful [] line lines rfl, ?_⟩
    intro before other rest split
    exact truthful (line :: before) other rest (by rw [split, List.cons_append])
  · rintro ⟨atHead, atTail⟩ before other rest split
    cases before with
    | nil =>
        obtain ⟨rfl, _⟩ := List.cons.inj split
        exact atHead
    | cons first before =>
        obtain ⟨rfl, tailSplit⟩ := List.cons.inj split
        exact atTail before other rest tailSplit

theorem resolveLines_cons {line : Bytes} {lines : List Bytes} {world after : World}
    {stream : Option Stream}
    (resolved : resolveLine parent unknownOverride line world = .ok (stream, after)) :
    resolveLines parent unknownOverride (line :: lines) world =
      (resolveLines parent unknownOverride lines after).map
        fun rest => (stream :: rest.1, rest.2) := by
  rw [resolveLines, resolved]
  cases others : resolveLines parent unknownOverride lines after <;>
    simp [others, bind, Except.bind, pure, Except.pure, Except.map]

private theorem resolveLines_truthful {lines : List Bytes} {world : World}
    (truthful : LinesTruthful parent unknownOverride lines world) :
    resolveLines parent unknownOverride lines world =
      .ok ((wantedStreams parent unknownOverride lines world).1.map some,
        (wantedStreams parent unknownOverride lines world).2) := by
  induction lines generalizing world with
  | nil => rfl
  | cons line lines ih =>
      obtain ⟨atHead, atTail⟩ := linesTruthful_cons.mp truthful
      rw [resolveLines_cons (resolveLine_truthful atHead), ih atTail]
      rfl

private theorem resolveLines_vanished {lines : List Bytes} {world : World}
    (broken : ¬LinesTruthful parent unknownOverride lines world) :
    resolveLines parent unknownOverride lines world = .error .nullDereference := by
  induction lines generalizing world with
  | nil => exact absurd (linesTruthful_nil world) broken
  | cons line lines ih =>
      by_cases atHead : LineTruthful parent unknownOverride line world
      · have atTail : ¬LinesTruthful parent unknownOverride lines
            (wantedStream parent unknownOverride line world).2 :=
          fun truthful => broken (linesTruthful_cons.mpr ⟨atHead, truthful⟩)
        rw [resolveLines_cons (resolveLine_truthful atHead), ih atTail]
        rfl
      · rw [resolveLines, resolveLine_vanished atHead]
        rfl

/-- The vector holds the wanted stream of every line, in their order, exactly when nothing that
was announced has vanished. -/
theorem initStreamVector_fills_iff (parent : Parent World Stream)
    (unknownOverride : Option Stream) (resource : Bytes) (world : World) :
    (∃ streams after,
      initStreamVector parent unknownOverride resource world = .ok (streams.map some, after) ∧
        (streams, after) =
          wantedStreams parent unknownOverride (idxLines parent resource) world) ↔
      ∀ before line rest, idxLines parent resource = before ++ line :: rest →
        LineTruthful parent unknownOverride line
          (wantedStreams parent unknownOverride before world).2 := by
  unfold initStreamVector
  constructor
  · rintro ⟨streams, after, filled, _⟩
    by_contra broken
    rw [resolveLines_vanished broken] at filled
    cases filled
  · intro truthful
    exact ⟨_, _, resolveLines_truthful truthful, rfl⟩

end Truthful

/-! ## Resolvers that stay as they are -/

section Steady

variable {Stream : Type}

mutual

def Resource.steady : Aff4Lite.Stream.Resource Stream → Resource Unit Stream
  | .imageStream stream => .imageStream stream
  | .zipVolume hasResource openResource =>
      .zipVolume ⟨fun resource world => (hasResource resource, world),
        fun resource world => (Resource.steady? (openResource resource), world)⟩
  | .other => .other

def Resource.steady? : Option (Aff4Lite.Stream.Resource Stream) → Option (Resource Unit Stream)
  | none => none
  | some resource => some (Resource.steady resource)

end

def Resolver.steady (hasResource : Bytes → Bool)
    (openResource : Bytes → Option (Aff4Lite.Stream.Resource Stream)) : Resolver Unit Stream :=
  ⟨fun resource world => (hasResource resource, world),
    fun resource world => (Resource.steady? (openResource resource), world)⟩

private theorem lookup_steady (hasResource : Bytes → Bool)
    (openResource : Bytes → Option (Aff4Lite.Stream.Resource Stream)) (resource : Bytes) :
    (Resolver.steady hasResource openResource).lookup resource () =
      (if hasResource resource then
        match openResource resource with
        | none => .vanished
        | some opened => .found (Resource.steady opened)
      else .unknown, ()) := by
  unfold Directory.lookup Resolver.steady
  cases announced : hasResource resource with
  | false => simp [announced]
  | true => cases opened : openResource resource <;> simp [announced, opened, Resource.steady?]

variable {parent : Aff4Lite.Stream.Parent Stream} {model : Model}

def Parent.steady (parent : Aff4Lite.Stream.Parent Stream) (model : Model) :
    Parent Unit Stream where
  getSegment := parent.getSegment
  getImageStream := parent.getImageStream
  resolver := parent.resolver.map fun resolver =>
    Resolver.steady resolver.hasResource resolver.openResource
  rdfModel := model
  createUnknownStreamFor := parent.createUnknownStreamFor

/-- What the map stream does after the resolver itself has not delivered. -/
private def askSteady (resolver : Aff4Lite.Stream.Resolver Stream) (resource : Bytes) :
    Option Bytes → Except Fault (Option Stream)
  | none => .ok none
  | some parentResource =>
      if resolver.hasResource parentResource then
        match resolver.openResource parentResource with
        | none => .error .nullDereference
        | some (.zipVolume hasResource openResource) =>
            if hasResource resource then
              match openResource resource with
              | none => .error .nullDereference
              | some (.imageStream stream) => .ok (some stream)
              | some _ => .ok none
            else .ok none
        | some _ => .ok none
      else .ok none

private theorem askParent_steady (resolver : Aff4Lite.Stream.Resolver Stream) (resource : Bytes) :
    askParent (Resolver.steady resolver.hasResource resolver.openResource) model resource () =
      (askSteady resolver resource (storedIn model resource)).map fun stream => (stream, ()) := by
  unfold askParent
  cases storedIn model resource with
  | none => rfl
  | some parentResource =>
      dsimp only [askSteady]
      rw [lookup_steady]
      cases resolver.hasResource parentResource with
      | false => rfl
      | true =>
          match resolver.openResource parentResource with
          | none => rfl
          | some (.imageStream _) => rfl
          | some .other => rfl
          | some (.zipVolume hasResource openResource) =>
              have child := lookup_steady hasResource openResource resource
              unfold Resolver.steady at child
              dsimp only [if_true, Resource.steady]
              rw [if_pos rfl]
              dsimp only
              rw [child]
              cases hasResource resource with
              | false => rfl
              | true =>
                  match openResource resource with
                  | none => rfl
                  | some (.imageStream _) => rfl
                  | some .other => rfl
                  | some (.zipVolume _ _) => rfl

private theorem queryResolver_steady (described : parent.rdfModel = some (storedIn model))
    (resource : Bytes) :
    queryResolver (Parent.steady parent model) resource () =
      (Aff4Lite.Stream.queryResolver parent resource).map fun stream => (stream, ()) := by
  unfold queryResolver Aff4Lite.Stream.queryResolver
  cases present : parent.resolver with
  | none => simp [Parent.steady, present, Except.map]
  | some resolver =>
      have tail : askParent (Resolver.steady resolver.hasResource resolver.openResource) model
          resource () = _ := askParent_steady resolver resource
      simp only [Parent.steady, present, Option.map_some, lookup_steady, described]
      cases resolver.hasResource resource with
      | false => exact tail
      | true =>
          match resolver.openResource resource with
          | none => rfl
          | some (.imageStream _) => rfl
          | some .other => exact tail
          | some (.zipVolume _ _) => exact tail

private theorem resolveLine_steady (described : parent.rdfModel = some (storedIn model))
    (unknownOverride : Option Stream) (line : Bytes) :
    resolveLine (Parent.steady parent model) unknownOverride line () =
      (Aff4Lite.Stream.resolveLine parent unknownOverride line).map
        fun stream => (stream, ()) := by
  unfold resolveLine Aff4Lite.Stream.resolveLine
  rw [queryResolver_steady described]
  change (match (if line = lexiconUnknown ∧ unknownOverride.isSome then unknownOverride
    else parent.getImageStream line) with | some found => _ | none => _) = _
  dsimp only
  cases (if line = lexiconUnknown ∧ unknownOverride.isSome then unknownOverride
    else parent.getImageStream line) with
  | some found => rfl
  | none =>
      match Aff4Lite.Stream.queryResolver parent line with
      | .error _ => rfl
      | .ok (some _) => rfl
      | .ok none => rfl

private theorem resolveLines_steady (described : parent.rdfModel = some (storedIn model))
    (unknownOverride : Option Stream) (lines : List Bytes) :
    resolveLines (Parent.steady parent model) unknownOverride lines () =
      (lines.mapM (Aff4Lite.Stream.resolveLine parent unknownOverride)).map
        fun streams => (streams, ()) := by
  induction lines with
  | nil => rfl
  | cons line lines ih =>
      rw [List.mapM_cons]
      have head := resolveLine_steady described unknownOverride line
      cases resolved : Aff4Lite.Stream.resolveLine parent unknownOverride line with
      | error fault =>
          rw [resolved] at head
          rw [resolveLines, head]
          rfl
      | ok stream =>
          rw [resolved] at head
          rw [resolveLines_cons head, ih]
          cases lines.mapM (Aff4Lite.Stream.resolveLine parent unknownOverride) <;> rfl

/-- `initStreamVector` as `MapStream` has it, for a resolver without a state. -/
theorem initStreamVector_steady (described : parent.rdfModel = some (storedIn model))
    (unknownOverride : Option Stream) (resource : Bytes) :
    initStreamVector (Parent.steady parent model) unknownOverride resource () =
      (Aff4Lite.Stream.initStreamVector parent resource unknownOverride).map
        fun streams => (streams, ()) := by
  unfold initStreamVector idxLines Aff4Lite.Stream.initStreamVector
  change resolveLines _ _ (match parent.getSegment (resource ++ text "/idx") with
    | none => []
    | some idx => nonEmptyLines idx.bytes) () = _
  cases parent.getSegment (resource ++ text "/idx") with
  | none => rfl
  | some idx => exact resolveLines_steady described unknownOverride (nonEmptyLines idx.bytes)

end Steady

/-! ## A volume that has vanished -/

section Light

open Aff4Lite.Resolver

/-- A `LightResolver` as the resolver of a container; `contents` is what the containers that it
opens answer. A call that does not come back finds nothing. -/
def lightResolver {Stream : Type} (self : LightResolver)
    (contents : Container → Resolver State Stream) : Resolver State Stream where
  hasResource resource state :=
    match self.hasResource state.files resource state.volumes with
    | none => (false, state)
    | some (found, volumes) => (found, { state with volumes := volumes })
  openResource resource state :=
    match self.openResource state.files resource state.volumes with
    | none => (none, state)
    | some (container, volumes) =>
        (container.map fun opened => .zipVolume (contents opened),
          { state with volumes := volumes })

/-- The recorded file is gone or does not open any more. -/
theorem lightResolver_vanished {Stream : Type} {self : LightResolver}
    {contents : Container → Resolver State Stream} {state : State} {resource filename : Bytes}
    (named : resource ≠ []) (recorded : state.volumes.find? resource = some filename)
    (unopened : openContainer state.files filename = some none) :
    ¬(lightResolver self contents).Truthful resource state := by
  have announced : self.hasResource state.files resource state.volumes =
      some (true, state.volumes) := by
    simp [LightResolver.hasResource, named, recorded]
  have opened : ∃ volumes,
      self.openResource state.files resource state.volumes = some (none, volumes) := by
    by_cases present : state.files.fileExists filename
    · exact ⟨state.volumes, by
        simp [LightResolver.openResource, announced, recorded, present, unopened]⟩
    · exact ⟨state.volumes.erase resource, by
        simp [LightResolver.openResource, announced, recorded, present]⟩
  obtain ⟨volumes, opened⟩ := opened
  simp [Directory.Truthful, Directory.lookup, lightResolver, announced, opened]

def evidenceFiles : FileSystem :=
  ⟨[(text "d", .directory (some [text "v.aff4"])),
    (text "d/v.aff4", .file ⟨some (text "aff4://v"), some true, true⟩)]⟩

def emptiedFiles : FileSystem := ⟨[(text "d", .directory (some []))]⟩

/-- A map `aff4://m` over the stream `aff4://s`, which the model places in `aff4://v`. -/
def mapOverVolume : Parent State Bytes where
  getSegment name :=
    if name = text "aff4://m/idx" then some ⟨9, text "aff4://s\n", by decide, by decide⟩
    else none
  getImageStream _ := none
  resolver := some (lightResolver ⟨text "d", false⟩ fun _ =>
    ⟨fun _ state => (false, state), fun _ state => (none, state)⟩)
  rdfModel := OrderedMap.empty.insert (text "aff4://s")
    (OrderedMap.empty.insert .aff4Stored [.typed .resource .aff4Stored (text "aff4://v")])
  createUnknownStreamFor line := line

/-- The resolver still has the volume on record when the map is opened. -/
theorem vanished_volume_dereferenced :
    ∃ state, LightResolver.create ⟨text "d", false⟩ evidenceFiles = some state ∧
      (wantedStreams mapOverVolume none (idxLines mapOverVolume (text "aff4://m"))
        { state with files := emptiedFiles }).1 = [text "aff4://s"] ∧
      initStreamVector mapOverVolume none (text "aff4://m")
        { state with files := emptiedFiles } = .error .nullDereference ∧
      ∀ streams after, initStreamVector mapOverVolume none (text "aff4://m")
        { state with files := emptiedFiles } ≠ .ok (streams, after) := by
  refine ⟨_, rfl, rfl, rfl, ?_⟩
  intro streams after filled
  cases filled

end Light

end Aff4Lite.Stream.Live
