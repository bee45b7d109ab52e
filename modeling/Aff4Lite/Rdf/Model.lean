import Aff4Lite.Lib.OrderedMap
import Aff4Lite.Lib.Strings
import Aff4Lite.Rdf.Lexicon

/-!
# `aff4::rdf::Model`

The statements of `information.turtle`, as raptor hands them over, and the map of objects
that they are collected into. What a literal with a data type converts to is a parameter.
-/

set_option autoImplicit false

namespace Aff4Lite.Rdf

open Lib

inductive XSDType where
  | unknown
  | string
  | int
  | long
  | float
  | xsdDateTime
  | boolean
  | literal
  | resource
  deriving DecidableEq, Repr

/-- `RDFValue`, as far as its members are read. -/
structure RDFValue where
  xsdType : XSDType
  rdfType : Lexicon
  valueInt : BitVec 32
  valueLong : U64
  valueLiteral : Bytes
  deriving DecidableEq, Repr

namespace RDFValue

/-- Create a typed resource. (String value). -/
def typed (xsdType : XSDType) (type : Lexicon) (literal : Bytes) : RDFValue :=
  ⟨xsdType, type, 0, 0, literal⟩

/-- Create a resource property, type only. -/
def ofType (type : Lexicon) : RDFValue := ⟨.resource, type, 0, 0, []⟩

/-- Create a string type. -/
def ofString (value : Bytes) : RDFValue := ⟨.string, .unknown, 0, 0, value⟩

end RDFValue

/-- `raptor_term` -/
inductive RaptorTerm where
  | uri (uri : CString)
  | literal (datatype : Option CString) (string : Bytes)
  | blank
  deriving DecidableEq

/-- `raptor_statement` -/
structure RaptorStatement where
  subject : RaptorTerm
  predicate : RaptorTerm
  object : RaptorTerm

abbrev Properties := OrderedMap Lexicon (List RDFValue)

abbrev Model := OrderedMap Bytes Properties

/-- `AFF4Resource::getProperty` -/
def getProperty (properties : Properties) (resource : Lexicon) : List RDFValue :=
  (properties.find? resource).getD []

namespace Model

def getObjectInformation (model : Model) (resource : Bytes) : Properties :=
  (model.find? resource).getD .empty

def getResourcesOfType (model : Model) (type : Lexicon) : List Bytes :=
  (model.entries.filter fun object => object.2.entries.any fun property =>
    property.1 = .aff4Type && property.2.any fun value => value.rdfType = type).map (·.1)

section Statements

variable (typedLiteral : CString → Bytes → Option RDFValue)

def getValueFromRaptorTerm (property : Lexicon) : RaptorTerm → Option RDFValue
  | .uri uri =>
      let type := getLexicon uri.bytes
      if type ≠ .unknown then some (.ofType type)
      else some (.typed .resource property uri.bytes)
  | .literal (some datatype) string => typedLiteral datatype string
  | .literal none string => some (.ofString string)
  | .blank => none

def statementHandler (model : Model) (statement : RaptorStatement) : Model :=
  match statement.subject, statement.predicate with
  | .uri subject, .uri predicate =>
      let property := getLexicon predicate.bytes
      if property ≠ .unknown then
        match getValueFromRaptorTerm typedLiteral property statement.object with
        | none => model
        | some value =>
            let properties := model.getObjectInformation subject.bytes
            let values := getProperty properties property
            model.insert subject.bytes (properties.insert property (values ++ [value]))
      else model
  | _, _ => model

/-- `parse`, as the statements that raptor finds. -/
def parse (statements : List RaptorStatement) : Model :=
  statements.foldl (statementHandler typedLiteral) .empty

/-! ## Properties -/

/-- The objects of `property` that the statements about `resource` give, in their order. -/
def objects (statements : List RaptorStatement) (resource : Bytes) (property : Lexicon) :
    List RaptorTerm :=
  statements.filterMap fun statement =>
    match statement.subject, statement.predicate with
    | .uri subject, .uri predicate =>
        if subject.bytes = resource ∧ getLexicon predicate.bytes = property then
          some statement.object
        else none
    | _, _ => none

private theorem getProperty_insert (properties : Properties) (property other : Lexicon)
    (values : List RDFValue) :
    getProperty (properties.insert property values) other =
      if other = property then values else getProperty properties other := by
  unfold getProperty
  rw [OrderedMap.find?_insert]
  split <;> rfl

theorem getObjectInformation_insert (model : Model) (subject resource : Bytes)
    (properties : Properties) :
    getObjectInformation (model.insert subject properties) resource =
      if resource = subject then properties else model.getObjectInformation resource := by
  unfold getObjectInformation
  rw [OrderedMap.find?_insert]
  split <;> rfl

private theorem statementHandler_values (model : Model) (statement : RaptorStatement)
    (resource : Bytes)
    {property : Lexicon} (known : property ≠ .unknown) :
    getProperty ((statementHandler typedLiteral model statement).getObjectInformation resource)
        property =
      getProperty (model.getObjectInformation resource) property ++
        (objects [statement] resource property).filterMap
          (getValueFromRaptorTerm typedLiteral property) := by
  obtain ⟨subject, predicate, object⟩ := statement
  cases subject with
  | literal datatype string => simp [statementHandler, objects]
  | blank => simp [statementHandler, objects]
  | uri subject =>
      cases predicate with
      | literal datatype string => simp [statementHandler, objects]
      | blank => simp [statementHandler, objects]
      | uri predicate =>
          simp only [statementHandler, objects, List.filterMap_cons, List.filterMap_nil]
          by_cases same : subject.bytes = resource ∧ getLexicon predicate.bytes = property
          · obtain ⟨rfl, rfl⟩ := same
            cases converted : getValueFromRaptorTerm typedLiteral (getLexicon predicate.bytes)
                object with
            | none => simp [converted, known]
            | some value =>
                simp [converted, known, getObjectInformation_insert, getProperty_insert]
          · rw [if_neg same]
            split
            · cases converted : getValueFromRaptorTerm typedLiteral
                  (getLexicon predicate.bytes) object with
              | none => simp
              | some value =>
                  by_cases subjectSame : resource = subject.bytes
                  · have different : property ≠ getLexicon predicate.bytes :=
                      fun propertySame => same ⟨subjectSame.symm, propertySame.symm⟩
                    simp [getObjectInformation_insert, getProperty_insert, subjectSame, different]
                  · simp [getObjectInformation_insert, subjectSame]
            · simp

private theorem foldl_values (model : Model) (statements : List RaptorStatement) (resource : Bytes)
    {property : Lexicon} (known : property ≠ .unknown) :
    getProperty ((statements.foldl (statementHandler typedLiteral) model).getObjectInformation
        resource) property =
      getProperty (model.getObjectInformation resource) property ++
        (objects statements resource property).filterMap
          (getValueFromRaptorTerm typedLiteral property) := by
  induction statements generalizing model with
  | nil => simp [objects]
  | cons statement statements ih =>
      have split : objects (statement :: statements) resource property =
          objects [statement] resource property ++ objects statements resource property :=
        List.filterMap_append (l := [statement])
      rw [List.foldl_cons, ih, statementHandler_values typedLiteral model statement resource known,
        split, List.filterMap_append, List.append_assoc]

/-- The values of a property are its converted objects, in the order of the statements. -/
theorem parse_values (statements : List RaptorStatement) (resource : Bytes) {property : Lexicon}
    (known : property ≠ .unknown) :
    getProperty ((parse typedLiteral statements).getObjectInformation resource) property =
      (objects statements resource property).filterMap
        (getValueFromRaptorTerm typedLiteral property) :=
  foldl_values typedLiteral .empty statements resource known

/-- The first object of a property that has a value. -/
def givenObject (statements : List RaptorStatement) (resource : Bytes) (property : Lexicon) :
    Option RaptorTerm :=
  (objects statements resource property).find? fun object =>
    (getValueFromRaptorTerm typedLiteral property object).isSome

theorem head?_values (statements : List RaptorStatement) (resource : Bytes) {property : Lexicon}
    (known : property ≠ .unknown) :
    (getProperty ((parse typedLiteral statements).getObjectInformation resource) property).head? =
      (givenObject typedLiteral statements resource property).bind
        (getValueFromRaptorTerm typedLiteral property) := by
  rw [parse_values typedLiteral statements resource known]
  unfold givenObject
  induction objects statements resource property with
  | nil => rfl
  | cons object objects ih =>
      cases converted : getValueFromRaptorTerm typedLiteral property object with
      | none => simp [converted, ih]
      | some value => simp [converted]

end Statements

end Model

end Aff4Lite.Rdf
