import Aff4Lite.Map.AFF4Map

/-!
# `aff4:dependentStream`

Where the RDF model names no dependent streams, the constructor of `AFF4Map` collects them from
the lines of `idx`. The tests for symbolic streams look at the name of the map instead of the
line.
-/

set_option autoImplicit false

namespace Aff4Lite.Map

open Lib Rdf Containers Aff4Lite.Stream

/-- The streams that every container has. -/
def isSymbolicStream (resource : Bytes) : Bool :=
  resource = getLexiconString .aff4ImagestreamZero ||
    resource = getLexiconString .aff4ImagestreamUnknown ||
    resource = getLexiconString .aff4ImagestreamUnreadable ||
    hasPrefix resource (getLexiconString .aff4ImagestreamSymbolicPrefix)

def dependentStream (line : Bytes) : RDFValue := .typed .resource .aff4DependentStream line

namespace AFF4Map

/-- The loop over the lines of `idx`. -/
def dependentStreams (resource idx : Bytes) : List RDFValue :=
  (nonEmptyLines idx).filterMap fun line =>
    if isSymbolicStream resource then none else some (dependentStream line)

/-- What the read of `idx` gives; a missing segment and a failed read leave nothing. -/
def idxContent (parent : Parent ContainerStream) (resource : Bytes) : Bytes :=
  match parent.getSegment (resource ++ text "/idx") with
  | none => []
  | some segment => segment.bytes

/-- The properties of the map when its constructor returns. -/
def propertiesOf (model : Model) (parent : Parent ContainerStream) (resource : Bytes) :
    Properties :=
  let elements := model.getObjectInformation resource
  if getProperty elements .aff4DependentStream ≠ [] then elements
  else
    match dependentStreams resource (idxContent parent resource) with
    | [] => elements
    | streams => elements.insert .aff4DependentStream streams

/-- The lines of `idx` that name streams of the evidence. -/
def evidenceLines (idx : Bytes) : List Bytes :=
  (nonEmptyLines idx).filter fun line => !isSymbolicStream line

/-- The property lists these lines, and is absent when there are none. -/
def ListsEvidence (properties : Properties) (idx : Bytes) : Prop :=
  properties.find? .aff4DependentStream =
    if evidenceLines idx = [] then none else some ((evidenceLines idx).map dependentStream)

private theorem dependentStreams_eq (resource idx : Bytes) :
    dependentStreams resource idx =
      if isSymbolicStream resource then [] else (nonEmptyLines idx).map dependentStream := by
  unfold dependentStreams
  cases isSymbolicStream resource with
  | true => exact List.filterMap_eq_nil_iff.mpr fun _ _ => rfl
  | false => exact congrFun (List.filterMap_eq_map (f := dependentStream)) _

private theorem find?_propertiesOf {model : Model} {resource : Bytes}
    (absent : (model.getObjectInformation resource).find? .aff4DependentStream = none)
    (parent : Parent ContainerStream) :
    (propertiesOf model parent resource).find? .aff4DependentStream =
      if dependentStreams resource (idxContent parent resource) = [] then none
      else some (dependentStreams resource (idxContent parent resource)) := by
  have missing : getProperty (model.getObjectInformation resource) .aff4DependentStream = [] := by
    rw [getProperty, absent]
    rfl
  unfold propertiesOf
  dsimp only
  rw [if_neg (not_not_intro missing)]
  cases dependentStreams resource (idxContent parent resource) with
  | nil => exact absent
  | cons stream streams => rw [OrderedMap.find?_insert, if_pos rfl, if_neg (List.cons_ne_nil _ _)]

private theorem dependentStream_injective : Function.Injective dependentStream := by
  intro left right same
  exact congrArg RDFValue.valueLiteral same

/-- The listed lines are the evidence exactly if the map's name is symbolic like all of them or
like none. -/
theorem dependentStreams_evidence_iff (resource idx : Bytes) :
    dependentStreams resource idx = (evidenceLines idx).map dependentStream ↔
      ∀ line ∈ nonEmptyLines idx, isSymbolicStream line = isSymbolicStream resource := by
  rw [dependentStreams_eq]
  unfold evidenceLines
  cases isSymbolicStream resource with
  | true =>
      rw [if_pos rfl, eq_comm, List.map_eq_nil_iff, List.filter_eq_nil_iff]
      simp
  | false =>
      rw [if_neg (by decide), List.map_inj_right fun _ _ same => dependentStream_injective same,
        eq_comm, List.filter_eq_self]
      simp

theorem listsEvidence_iff {model : Model} {resource : Bytes}
    (absent : (model.getObjectInformation resource).find? .aff4DependentStream = none)
    (parent : Parent ContainerStream) :
    ListsEvidence (propertiesOf model parent resource) (idxContent parent resource) ↔
      ∀ line ∈ nonEmptyLines (idxContent parent resource),
        isSymbolicStream line = isSymbolicStream resource := by
  rw [← dependentStreams_evidence_iff]
  unfold ListsEvidence
  rw [find?_propertiesOf absent]
  generalize dependentStreams resource (idxContent parent resource) = listed
  cases evidenceLines (idxContent parent resource) <;> cases listed <;> simp

/-- A volume with one map whose `idx` names the zero stream. -/
def zeroParent : Parent ContainerStream where
  getSegment name :=
    if name = text "aff4://m/idx" then some (.full (baseUri ++ text "Zero") (by decide +kernel))
    else none
  getImageStream _ := none
  resolver := none
  rdfModel := none
  createUnknownStream := Containers.createUnknownStream
  createUnknownStreamFor := Containers.createUnknownStreamFor

/-- The zero stream is listed as evidence. -/
theorem zero_listed :
    ¬∀ (model : Model) (parent : Parent ContainerStream) (resource : Bytes),
      (model.getObjectInformation resource).find? .aff4DependentStream = none →
        ListsEvidence (propertiesOf model parent resource) (idxContent parent resource) := by
  intro every
  have lists := every .empty zeroParent (text "aff4://m") rfl
  unfold ListsEvidence at lists
  exact absurd lists (by decide +kernel)

theorem listsEvidence_iff_zero :
    ListsEvidence (propertiesOf .empty zeroParent (text "aff4://m"))
        (idxContent zeroParent (text "aff4://m")) ↔
      ∀ line ∈ nonEmptyLines (idxContent zeroParent (text "aff4://m")),
        isSymbolicStream line = isSymbolicStream (text "aff4://m") :=
  listsEvidence_iff rfl zeroParent

end AFF4Map

end Aff4Lite.Map
