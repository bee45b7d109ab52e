import Aff4Lite.Rdf.TypedLiteral

/-!
# What the RDF model collects

The objects of `Model` after any sequence of statements, and the lookups by type that a
container makes in it.
-/

set_option autoImplicit false

namespace Aff4Lite.Rdf.Model

open Lib Aff4Lite.Stream

/-! ## Stored lists -/

/-- Every stored property is one of the lexicon and has a value. -/
def Filled (model : Model) : Prop :=
  ∀ resource property values, (model.getObjectInformation resource).find? property = some values →
    property ≠ .unknown ∧ values ≠ []

private theorem filled_empty : Filled .empty := by
  intro resource property values found
  cases found

section Statements

variable {typedLiteral : CString → Bytes → Option RDFValue}

private theorem statementHandler_filled {model : Model} (filled : model.Filled)
    (statement : RaptorStatement) : (statementHandler typedLiteral model statement).Filled := by
  obtain ⟨subject, predicate, object⟩ := statement
  cases subject with
  | literal datatype string => exact filled
  | blank => exact filled
  | uri subject =>
      cases predicate with
      | literal datatype string => exact filled
      | blank => exact filled
      | uri predicate =>
          unfold statementHandler
          dsimp only
          split
          · rename_i known
            cases getValueFromRaptorTerm typedLiteral (getLexicon predicate.bytes) object with
            | none => exact filled
            | some value =>
                intro resource property values found
                dsimp only at found
                rw [getObjectInformation_insert] at found
                split at found
                · rw [OrderedMap.find?_insert] at found
                  split at found
                  · rename_i same
                    cases found
                    exact ⟨same ▸ known, by simp⟩
                  · exact filled _ _ _ found
                · exact filled _ _ _ found
          · exact filled

private theorem foldl_filled {model : Model} (filled : model.Filled)
    (statements : List RaptorStatement) :
    (statements.foldl (statementHandler typedLiteral) model).Filled := by
  induction statements generalizing model with
  | nil => exact filled
  | cons statement statements ih => exact ih (statementHandler_filled filled statement)

/-- The converted objects of the statements about `resource` with `property`, in their order. -/
def collected (typedLiteral : CString → Bytes → Option RDFValue)
    (statements : List RaptorStatement) (resource : Bytes) (property : Lexicon) :
    List RDFValue :=
  (objects statements resource property).filterMap (getValueFromRaptorTerm typedLiteral property)

private theorem getProperty_find? {properties : Properties} {property : Lexicon}
    (filled : ∀ values, properties.find? property = some values → values ≠ []) :
    properties.find? property =
      if getProperty properties property = [] then none
      else some (getProperty properties property) := by
  unfold getProperty
  cases found : properties.find? property with
  | none => rfl
  | some values => simp [filled values found]

theorem parse_find? (statements : List RaptorStatement) (resource : Bytes) (property : Lexicon) :
    ((parse typedLiteral statements).getObjectInformation resource).find? property =
      if property = .unknown ∨ collected typedLiteral statements resource property = [] then none
      else some (collected typedLiteral statements resource property) := by
  have filled : (parse typedLiteral statements).Filled := foldl_filled filled_empty statements
  by_cases known : property = .unknown
  · rw [if_pos (.inl known)]
    cases found : ((parse typedLiteral statements).getObjectInformation resource).find?
        property with
    | none => rfl
    | some values => exact absurd known (filled _ _ _ found).1
  · rw [getProperty_find? fun values found => (filled _ _ _ found).2,
      parse_values typedLiteral statements resource known]
    simp only [known, false_or]
    rfl

end Statements

/-! ## Lookups by type -/

/-- The classes that `getImages`, `getMap`, `getImageStream` and an `AFF4Image` look up. -/
def lookedUp : List Lexicon :=
  [.aff4ImageType, .aff4MapType, .aff4ImagestreamType, .aff4CaseDetails]

/-- The statement gives `resource` the class `type`. -/
def GivesType (statement : RaptorStatement) (resource : Bytes) (type : Lexicon) : Prop :=
  ∃ subject predicate object : CString,
    statement = ⟨.uri subject, .uri predicate, .uri object⟩ ∧ subject.bytes = resource ∧
      predicate.bytes = rdfPrefix ++ text "type" ∧ object.bytes = getLexiconString type

private theorem getLexicon_eq_iff {term : Lexicon} (known : term ≠ .unknown)
    (own : getLexicon (getLexiconString term) = term) (uri : CString) :
    getLexicon uri.bytes = term ↔ uri.bytes = getLexiconString term := by
  constructor
  · rintro rfl
    exact (getLexiconString_getLexicon uri.terminated known).symm
  · intro same
    rw [same, own]

private theorem lookedUp_own {type : Lexicon} (member : type ∈ lookedUp) :
    getLexicon (getLexiconString type) = type ∧ type ≠ .unknown ∧ type ≠ .aff4Type ∧
      type ∉ aff4Mappings.map (·.2) := by
  have all : ∀ type ∈ lookedUp, getLexicon (getLexiconString type) = type ∧ type ≠ .unknown ∧
      type ≠ .aff4Type ∧ type ∉ aff4Mappings.map (·.2) := by
    decide +kernel
  exact all type member

private theorem getAFF4Type_mem (type : Bytes) :
    getAFF4Type type = .unknown ∨ getAFF4Type type ∈ aff4Mappings.map (·.2) := by
  unfold getAFF4Type
  split
  · exact .inl rfl
  · cases found : aff4Mappings.find? fun row => row.1 = type with
    | none => exact .inl rfl
    | some row => exact .inr (List.mem_map_of_mem (List.mem_of_find?_eq_some found))

private theorem typedLiteral_type {stof : Bytes → Bool} {datatype : CString} {string : Bytes}
    {value : RDFValue} (converted : typedLiteral stof datatype string = some value) :
    value.rdfType = .unknown ∨ value.rdfType ∈ aff4Mappings.map (·.2) := by
  unfold typedLiteral at converted
  split at converted
  · cases converted
    exact .inl rfl
  · split at converted
    · cases converted
      exact .inl rfl
    · obtain ⟨_, _, rfl⟩ := Option.map_eq_some_iff.mp converted
      exact .inl rfl
  · obtain ⟨_, _, rfl⟩ := Option.map_eq_some_iff.mp converted
    exact .inl rfl
  · split at converted
    · cases converted
      exact .inl rfl
    · cases converted
  · cases converted
    exact getAFF4Type_mem datatype.bytes
  · cases converted
    exact .inl rfl
  · cases converted
    exact .inl rfl
  · cases converted
  · cases converted

private theorem value_ofType_iff {stof : Bytes → Bool} {type : Lexicon} (member : type ∈ lookedUp)
    (object : RaptorTerm) :
    (∃ value, getValueFromRaptorTerm (typedLiteral stof) .aff4Type object = some value ∧
        value.rdfType = type) ↔
      ∃ uri : CString, object = .uri uri ∧ uri.bytes = getLexiconString type := by
  obtain ⟨own, known, notType, notLiteral⟩ := lookedUp_own member
  constructor
  · rintro ⟨value, converted, rfl⟩
    cases object with
    | uri uri =>
        refine ⟨uri, rfl, ?_⟩
        unfold getValueFromRaptorTerm at converted
        dsimp only at converted
        split at converted
        · cases converted
          exact (getLexicon_eq_iff known own uri).mp rfl
        · cases converted
          exact absurd rfl notType
    | literal datatype string =>
        cases datatype with
        | some datatype =>
            rcases typedLiteral_type converted with unknown | literal
            · exact absurd unknown known
            · exact absurd literal notLiteral
        | none =>
            cases converted
            exact absurd rfl known
    | blank => cases converted
  · rintro ⟨uri, rfl, isClass⟩
    have term := (getLexicon_eq_iff known own uri).mpr isClass
    refine ⟨.ofType type, ?_, rfl⟩
    unfold getValueFromRaptorTerm
    dsimp only
    rw [term, if_pos known]

private theorem mem_objects {statements : List RaptorStatement} {resource : Bytes}
    {property : Lexicon}
    {object : RaptorTerm} :
    object ∈ objects statements resource property ↔
      ∃ subject predicate : CString, ⟨.uri subject, .uri predicate, object⟩ ∈ statements ∧
        subject.bytes = resource ∧ getLexicon predicate.bytes = property := by
  unfold objects
  rw [List.mem_filterMap]
  constructor
  · rintro ⟨⟨subject, predicate, found⟩, member, selected⟩
    cases subject with
    | literal datatype string => cases selected
    | blank => cases selected
    | uri subject =>
        cases predicate with
        | literal datatype string => cases selected
        | blank => cases selected
        | uri predicate =>
            dsimp only at selected
            split at selected
            · rename_i both
              cases selected
              exact ⟨subject, predicate, member, both⟩
            · cases selected
  · rintro ⟨subject, predicate, member, both⟩
    exact ⟨_, member, if_pos both⟩

private theorem mem_getResourcesOfType {model : Model} {type : Lexicon} {resource : Bytes} :
    resource ∈ model.getResourcesOfType type ↔
      ∃ value ∈ getProperty (model.getObjectInformation resource) .aff4Type,
        value.rdfType = type := by
  unfold getResourcesOfType
  constructor
  · intro member
    obtain ⟨⟨own, properties⟩, selected, rfl⟩ := List.mem_map.mp member
    obtain ⟨stored, found⟩ := List.mem_filter.mp selected
    obtain ⟨⟨property, values⟩, listed, matching⟩ := List.any_eq_true.mp found
    rw [Bool.and_eq_true, decide_eq_true_eq, List.any_eq_true] at matching
    obtain ⟨isType, value, has, isClass⟩ := matching
    change property = .aff4Type at isType
    subst isType
    have information : model.getObjectInformation own = properties := by
      rw [getObjectInformation, OrderedMap.find?_eq_some_iff.mpr stored]
      rfl
    have typed : getProperty properties .aff4Type = values := by
      rw [getProperty, OrderedMap.find?_eq_some_iff.mpr listed]
      rfl
    exact ⟨value, by rw [information, typed]; exact has, of_decide_eq_true isClass⟩
  · rintro ⟨value, has, isClass⟩
    unfold getObjectInformation getProperty at has
    cases stored : model.find? resource with
    | none =>
        rw [stored] at has
        cases has
    | some properties =>
        rw [stored, Option.getD_some] at has
        cases typed : properties.find? .aff4Type with
        | none =>
            rw [typed] at has
            cases has
        | some values =>
            rw [typed, Option.getD_some] at has
            refine List.mem_map.mpr ⟨(resource, properties), List.mem_filter.mpr
              ⟨OrderedMap.find?_eq_some_iff.mp stored, ?_⟩, rfl⟩
            refine List.any_eq_true.mpr ⟨_, OrderedMap.find?_eq_some_iff.mp typed, ?_⟩
            rw [Bool.and_eq_true, decide_eq_true_eq, List.any_eq_true]
            exact ⟨rfl, value, has, decide_eq_true isClass⟩

theorem getResourcesOfType_ascending (model : Model) (type : Lexicon) :
    (model.getResourcesOfType type).Pairwise (· < ·) :=
  List.pairwise_map.mpr (model.sorted.filter _)

theorem mem_getResourcesOfType_parse {stof : Bytes → Bool} (statements : List RaptorStatement)
    {type : Lexicon} (member : type ∈ lookedUp) (resource : Bytes) :
    resource ∈ (parse (typedLiteral stof) statements).getResourcesOfType type ↔
      ∃ statement ∈ statements, GivesType statement resource type := by
  have typeUri : getLexiconString .aff4Type = rdfPrefix ++ text "type" := by decide +kernel
  have typeOwn : getLexicon (getLexiconString .aff4Type) = .aff4Type := by decide +kernel
  rw [mem_getResourcesOfType, parse_values _ statements resource (by decide)]
  simp only [List.mem_filterMap]
  constructor
  · rintro ⟨value, ⟨object, listed, converted⟩, isClass⟩
    obtain ⟨uri, rfl, classUri⟩ := (value_ofType_iff member object).mp ⟨value, converted, isClass⟩
    obtain ⟨subject, predicate, stands, rfl, isType⟩ := mem_objects.mp listed
    rw [getLexicon_eq_iff (by decide) typeOwn, typeUri] at isType
    exact ⟨_, stands, subject, predicate, uri, rfl, rfl, isType, classUri⟩
  · rintro ⟨_, stands, subject, predicate, uri, rfl, rfl, isType, classUri⟩
    obtain ⟨value, converted, isClass⟩ :=
      (@value_ofType_iff stof type member (.uri uri)).mpr ⟨uri, rfl, classUri⟩
    rw [← typeUri, ← getLexicon_eq_iff (by decide) typeOwn] at isType
    exact ⟨value, ⟨.uri uri, mem_objects.mpr ⟨subject, predicate, stands, rfl, isType⟩,
      converted⟩, isClass⟩

/-- After any sequence of statements an object has exactly the converted objects of the
statements about it, and a class that is looked up has exactly the resources that were given
it. -/
theorem parse_collects (stof : Bytes → Bool) (statements : List RaptorStatement) :
    (∀ resource property,
      ((parse (typedLiteral stof) statements).getObjectInformation resource).find? property =
        if property = .unknown ∨
            collected (typedLiteral stof) statements resource property = [] then none
        else some (collected (typedLiteral stof) statements resource property)) ∧
    ∀ type ∈ lookedUp,
      ((parse (typedLiteral stof) statements).getResourcesOfType type).Pairwise (· < ·) ∧
      ∀ resource, resource ∈ (parse (typedLiteral stof) statements).getResourcesOfType type ↔
        ∃ statement ∈ statements, GivesType statement resource type :=
  ⟨parse_find? statements, fun _ member =>
    ⟨getResourcesOfType_ascending _ _, mem_getResourcesOfType_parse statements member⟩⟩

end Aff4Lite.Rdf.Model
