import Aff4Lite.Containers.Volume
import Aff4Lite.Stream.BevvyWriter

/-!
# Calls with the streams that they construct

A container hands a stream out by what its constructor is given. Here a call runs the
constructors, and that of an image stream divides the size of the chunk cache by the chunk size
of its description. All calls come back exactly where no image stream of the container divides
by zero.
-/

set_option autoImplicit false

namespace Aff4Lite.Map

open Containers

/-- The streams that the map has from its container. -/
def AFF4Map.streams (map : AFF4Map) : List ContainerStream :=
  map.unknownOverride.toList ++ map.mapGapStreamOverride.toList

end Aff4Lite.Map

namespace Aff4Lite.Containers

open Lib Rdf Zip Codec Aff4Lite.Stream Aff4Lite.Map

/-- What ends the process in a call. -/
inductive CallFault where
  | absentModel
  | divideByZero
  deriving DecidableEq, Repr

def OpenedResource.streams : OpenedResource → List ContainerStream
  | .image _ => []
  | .map found => found.streams
  | .stream found => [found]
  | .segment _ => []

/-! ## Constructors -/

section Source

variable (libraries : Libraries) (chunkCacheSize : U64)

/-- The constructor of a stream of the container. -/
def ContainerStream.construct (zip : ZipContainer) (model : Option Model) :
    ContainerStream → Except CallFault Unit
  | .image resource =>
      match model with
      | none => .error .absentModel
      | some model =>
          match ImageStream.create libraries zip model resource chunkCacheSize with
          | none => .error .divideByZero
          | some _ => .ok ()
  | _ => .ok ()

namespace ContainerObject

/-- The streams whose constructors a call runs. -/
def constructed (self : ContainerObject) :
    ContainerCall → Except ModelFault (List ContainerStream)
  | .getMap resource => do
      let map ← self.getMap resource
      return map.elim [] AFF4Map.streams
  | .getImageStream resource => do
      let stream ← self.getImageStream resource
      return stream.toList
  | .hasResource resource => do
      let (opened, _) ← self.openResource resource
      return opened.elim [] OpenedResource.streams
  | .openResource resource => do
      let (opened, _) ← self.openResource resource
      return opened.elim [] OpenedResource.streams
  | _ => return []

/-- A call with the constructors that it runs. -/
def stepWithStreams (self : ContainerObject) (call : ContainerCall) :
    Except CallFault (ContainerAnswer × ContainerObject) :=
  match self.constructed call, self.step call with
  | .ok streams, .ok outcome => do
      streams.forM (·.construct libraries chunkCacheSize self.zip self.model)
      return outcome
  | _, _ => .error .absentModel

def answersWithStreams (self : ContainerObject) :
    List ContainerCall → Except CallFault (List ContainerAnswer)
  | [] => .ok []
  | call :: calls => do
      let (answer, self) ← self.stepWithStreams libraries chunkCacheSize call
      let answers ← answersWithStreams self calls
      return answer :: answers

end ContainerObject

end Source

/-! ## Streams that can be constructed -/

/-- The image streams of the container have chunks, or a codec that the library does not know. -/
def UsableStreams (zip : ZipContainer) (stof : Bytes → Bool)
    (statements : List RaptorStatement) : Prop :=
  ∀ resource, HasStream zip stof statements resource (.image resource) →
    DeviceStream.codecOf (modelOf stof statements) resource = none ∨
      DeviceStream.chunkSizeOf (modelOf stof statements) resource ≠ 0

theorem usableStreams_of_listed {zip : ZipContainer} {stof : Bytes → Bool}
    {statements : List RaptorStatement}
    (listed : ∀ resource ∈ (modelOf stof statements).getResourcesOfType .aff4ImagestreamType,
      DeviceStream.codecOf (modelOf stof statements) resource = none ∨
        DeviceStream.chunkSizeOf (modelOf stof statements) resource ≠ 0) :
    UsableStreams zip stof statements := by
  intro resource has
  exact listed resource ((declared_iff (by decide) resource).mpr has.declared)

section Constructors

variable {libraries : Libraries} {chunkCacheSize : U64} {zip : ZipContainer} {stof : Bytes → Bool}
  {statements : List RaptorStatement}

private theorem forM_ok {Fault Item : Type} {run : Item → Except Fault Unit} {items : List Item}
    (runs : ∀ item ∈ items, run item = .ok ()) : items.forM run = .ok () := by
  induction items with
  | nil => rfl
  | cons item items ih =>
      have others := ih fun other member => runs other (List.mem_cons_of_mem _ member)
      unfold List.forM
      rw [runs item List.mem_cons_self]
      exact others

private theorem construct_image_iff {model : Model} {resource : Bytes} :
    (ContainerStream.image resource).construct libraries chunkCacheSize zip (some model) =
        .ok () ↔
      DeviceStream.codecOf model resource = none ∨
        DeviceStream.chunkSizeOf model resource ≠ 0 := by
  unfold ContainerStream.construct ImageStream.create
  dsimp only
  cases DeviceStream.codecOf model resource with
  | none => simp
  | some codec =>
      by_cases undivided : DeviceStream.chunkSizeOf model resource = 0
      · simp only [undivided, if_true]
        exact iff_of_false nofun (by simp)
      · simp only [if_neg undivided]
        exact iff_of_true trivial (.inr undivided)

theorem HasStream.constructs (usable : UsableStreams zip stof statements) {name : Bytes}
    {stream : ContainerStream} (has : HasStream zip stof statements name stream) :
    stream.construct libraries chunkCacheSize zip (some (modelOf stof statements)) = .ok () := by
  cases has with
  | zero => rfl
  | unknown => rfl
  | unreadable => rfl
  | symbolic rest =>
      unfold createSymbolicStream
      dsimp only
      split
      · split <;> rfl
      · rfl
  | image named plain declared stored =>
      exact construct_image_iff.mpr (usable name (.image named plain declared stored))

theorem IsMap.constructs (usable : UsableStreams zip stof statements) {name : Bytes}
    {map : AFF4Map} (isMap : IsMap zip stof statements name map) :
    ∀ stream ∈ map.streams,
      stream.construct libraries chunkCacheSize zip (some (modelOf stof statements)) = .ok () := by
  obtain ⟨_, rfl⟩ := isMap
  intro stream member
  have unset : (AFF4Map.create ⟨zip, modelOf stof statements⟩ name).unknownOverride = none := rfl
  rw [AFF4Map.streams, unset, AFF4Map.create_override] at member
  simp only [Option.toList_none, Option.toList_some, List.nil_append, List.mem_singleton] at member
  subst member
  cases given : AFF4Map.namedGapStream ⟨zip, modelOf stof statements⟩
      (getProperty ((modelOf stof statements).getObjectInformation name) .aff4MapGapStream) with
  | none => rfl
  | some stream =>
      rw [AFF4Map.namedGapStream_head] at given
      obtain ⟨value, _, found⟩ := Option.bind_eq_some_iff.mp given
      split at found
      · exact (getImageStream_iff.mp found).constructs usable
      · exact (getImageStream_iff.mp found).constructs usable

theorem Opens.constructs (usable : UsableStreams zip stof statements) {name : Bytes}
    {opened : OpenedResource} (opens : Opens zip stof statements name opened) :
    ∀ stream ∈ opened.streams,
      stream.construct libraries chunkCacheSize zip (some (modelOf stof statements)) = .ok () := by
  intro stream member
  cases opens with
  | image _ => cases member
  | map _ isMap => exact isMap.constructs usable stream member
  | stream _ _ has =>
      rw [List.mem_singleton.mp member]
      exact has.constructs usable
  | segment _ _ _ _ => cases member

/-! ## Calls -/

section Calls

variable {container : ContainerObject} (warm : Warm zip stof statements container)

include warm

theorem Warm.constructed (call : ContainerCall) : ∃ streams,
    container.constructed call = .ok streams ∧ (UsableStreams zip stof statements →
      ∀ stream ∈ streams, stream.construct libraries chunkCacheSize zip
        (some (modelOf stof statements)) = .ok ()) := by
  have opens : ∀ resource, ∃ answer after, container.openResource resource = .ok (answer, after) ∧
      (UsableStreams zip stof statements → ∀ stream ∈ answer.elim [] OpenedResource.streams,
        stream.construct libraries chunkCacheSize zip
          (some (modelOf stof statements)) = .ok ()) := by
    intro resource
    obtain ⟨answer, after, ran, _, meets⟩ := warm.openResource resource
    refine ⟨answer, after, ran, fun usable => ?_⟩
    cases answer with
    | none => simp
    | some opened => exact ((meets opened).mp rfl).2.constructs usable
  cases call with
  | getImages => exact ⟨[], rfl, by simp⟩
  | getImage resource => exact ⟨[], rfl, by simp⟩
  | getSegment segmentName => exact ⟨[], rfl, by simp⟩
  | getMap resource =>
      obtain ⟨answer, ran, meets⟩ := warm.getMap resource
      refine ⟨answer.elim [] AFF4Map.streams, ?_, fun usable => ?_⟩
      · rw [ContainerObject.constructed, ran]
        rfl
      · cases answer with
        | none => simp
        | some map => exact ((meets map).mp rfl).constructs usable
  | getImageStream resource =>
      obtain ⟨answer, ran, meets⟩ := warm.getImageStream resource
      refine ⟨answer.toList, ?_, fun usable stream member => ?_⟩
      · rw [ContainerObject.constructed, ran]
        rfl
      · exact ((meets stream).mp (Option.mem_toList.mp member)).constructs usable
  | hasResource resource =>
      obtain ⟨answer, after, ran, constructs⟩ := opens resource
      refine ⟨_, ?_, constructs⟩
      rw [ContainerObject.constructed, ran]
      rfl
  | openResource resource =>
      obtain ⟨answer, after, ran, constructs⟩ := opens resource
      refine ⟨_, ?_, constructs⟩
      rw [ContainerObject.constructed, ran]
      rfl

/-- A call comes back if the streams can be constructed, and only with the answer that it has
without the constructors. -/
theorem Warm.stepWithStreams (call : ContainerCall) : ∃ answer after,
    Warm zip stof statements after ∧ Meets zip stof statements call answer ∧
      (UsableStreams zip stof statements →
        container.stepWithStreams libraries chunkCacheSize call = .ok (answer, after)) ∧
      ∀ outcome, container.stepWithStreams libraries chunkCacheSize call = .ok outcome →
        outcome = (answer, after) := by
  obtain ⟨streams, ran, constructs⟩ :=
    @Warm.constructed libraries chunkCacheSize zip stof statements container warm call
  obtain ⟨answer, after, stepped, kept, meets⟩ := warm.step call
  have both : container.stepWithStreams libraries chunkCacheSize call = (do
      streams.forM (·.construct libraries chunkCacheSize zip (some (modelOf stof statements)))
      return (answer, after)) := by
    unfold ContainerObject.stepWithStreams
    rw [ran, stepped, warm.zip, warm.model]
  refine ⟨answer, after, kept, meets, fun usable => ?_, fun outcome came => ?_⟩
  · rw [both, forM_ok (constructs usable)]
    rfl
  · rw [both] at came
    cases made : streams.forM
        (·.construct libraries chunkCacheSize zip (some (modelOf stof statements))) with
    | error fault =>
        rw [made] at came
        cases came
    | ok _ =>
        rw [made] at came
        cases came
        rfl

private theorem Warm.usable_of_stepped {resource : Bytes}
    (has : HasStream zip stof statements resource (.image resource))
    {outcome : ContainerAnswer × ContainerObject}
    (stepped : container.stepWithStreams libraries chunkCacheSize (.getImageStream resource) =
      .ok outcome) :
    DeviceStream.codecOf (modelOf stof statements) resource = none ∨
      DeviceStream.chunkSizeOf (modelOf stof statements) resource ≠ 0 := by
  obtain ⟨stream, ran, isStream⟩ := warm.getImageStream resource
  rw [(isStream _).mpr has] at ran
  have constructed : container.constructed (.getImageStream resource) =
      .ok [.image resource] := by
    rw [ContainerObject.constructed, ran]
    rfl
  obtain ⟨answer, after, answered, _⟩ := warm.step (.getImageStream resource)
  unfold ContainerObject.stepWithStreams at stepped
  rw [constructed, answered, warm.zip, warm.model] at stepped
  dsimp only [List.forM] at stepped
  cases made : (ContainerStream.image resource).construct libraries chunkCacheSize zip
      (some (modelOf stof statements)) with
  | error fault =>
      rw [made] at stepped
      cases stepped
  | ok _ => exact construct_image_iff.mp made

end Calls

theorem Warm.answersWithStreams {container : ContainerObject}
    (warm : Warm zip stof statements container) (calls : List ContainerCall) : ∃ given,
      List.Forall₂ (Meets zip stof statements) calls given ∧
        (UsableStreams zip stof statements →
          container.answersWithStreams libraries chunkCacheSize calls = .ok given) ∧
        ∀ others, container.answersWithStreams libraries chunkCacheSize calls = .ok others →
          others = given := by
  induction calls generalizing container with
  | nil =>
      refine ⟨[], .nil, fun _ => rfl, fun others came => ?_⟩
      cases came
      rfl
  | cons call calls ih =>
      obtain ⟨answer, after, kept, meets, comes, only⟩ :=
        @Warm.stepWithStreams libraries chunkCacheSize zip stof statements container warm call
      obtain ⟨given, rest, comeAfter, onlyAfter⟩ := ih kept
      refine ⟨answer :: given, .cons meets rest, fun usable => ?_, fun others came => ?_⟩
      · unfold ContainerObject.answersWithStreams
        rw [comes usable]
        dsimp only [bind, Except.bind]
        rw [comeAfter usable]
        rfl
      · unfold ContainerObject.answersWithStreams at came
        cases stepped : container.stepWithStreams libraries chunkCacheSize call with
        | error fault =>
            rw [stepped] at came
            cases came
        | ok outcome =>
            rw [stepped, only outcome stepped] at came
            dsimp only [bind, Except.bind] at came
            cases answered : after.answersWithStreams libraries chunkCacheSize calls with
            | error fault =>
                rw [answered] at came
                cases came
            | ok answers =>
                rw [answered, onlyAfter answers answered] at came
                cases came
                rfl

/-- All calls come back exactly where no image stream of the container divides by zero. -/
theorem Warm.answersWithStreams_iff {container : ContainerObject}
    (warm : Warm zip stof statements container) :
    (∀ calls, ∃ given, container.answersWithStreams libraries chunkCacheSize calls = .ok given) ↔
      UsableStreams zip stof statements := by
  constructor
  · intro comeBack resource has
    obtain ⟨given, came⟩ := comeBack [.getImageStream resource]
    unfold ContainerObject.answersWithStreams at came
    cases stepped : container.stepWithStreams libraries chunkCacheSize
        (.getImageStream resource) with
    | error fault =>
        rw [stepped] at came
        cases came
    | ok outcome => exact warm.usable_of_stepped has stepped
  · intro usable calls
    obtain ⟨given, _, comes, _⟩ :=
      @Warm.answersWithStreams libraries chunkCacheSize zip stof statements container warm calls
    exact ⟨given, comes usable⟩

end Constructors

/-! ## Answers -/

/-- Calls come back with the answers of the statements and the archive, and all of them do exactly
where no image stream of the container divides by zero. -/
structure AnswersBy (libraries : Libraries) (chunkCacheSize : U64) (container : ContainerObject)
    (zip : ZipContainer) (stof : Bytes → Bool) (statements : List RaptorStatement) : Prop where
  comesBack : (∀ calls, ∃ given,
      container.answersWithStreams libraries chunkCacheSize calls = .ok given) ↔
    UsableStreams zip stof statements
  meets : ∀ calls given, container.answersWithStreams libraries chunkCacheSize calls = .ok given →
    List.Forall₂ (Meets zip stof statements) calls given

theorem Warm.answersBy {zip : ZipContainer} {stof : Bytes → Bool}
    {statements : List RaptorStatement} {container : ContainerObject}
    (warm : Warm zip stof statements container) (libraries : Libraries) (chunkCacheSize : U64) :
    AnswersBy libraries chunkCacheSize container zip stof statements where
  comesBack := warm.answersWithStreams_iff
  meets calls given came := by
    obtain ⟨others, meets, _, only⟩ :=
      @Warm.answersWithStreams libraries chunkCacheSize zip stof statements container warm calls
    rw [only given came]
    exact meets

end Aff4Lite.Containers
