import Aff4Lite.Containers.ImageStreams
import Aff4Lite.Stream.MapStreamGap

/-!
# `aff4::map::AFF4Map`

The constructor, as far as the length and the gap stream go, and `getStream`. The gap stream
of a map that the RDF model describes is the stream that its `aff4:mapGapDefaultStream` names
whenever that URI is a term of the lexicon.
-/

set_option autoImplicit false

namespace Aff4Lite.Map

open Lib Rdf Containers Aff4Lite.Stream

/-- The members of `AFF4Map` that `getStream` hands on. -/
structure AFF4Map where
  resource : Bytes
  length : U64
  unknownOverride : Option ContainerStream
  mapGapStreamOverride : Option ContainerStream

namespace AFF4Map

/-- The length of the map according to the RDF model. -/
def lengthOf (values : List RDFValue) : U64 :=
  match values with
  | [] => 0
  | value :: _ =>
      match value.xsdType with
      | .long => value.valueLong
      | .int => value.valueInt.signExtend 64
      | .string =>
          match stoll value.valueLiteral with
          | some length => BitVec.ofInt 64 length
          | none => 0
      | _ => 0

/-- The map GapStream instance, `none` for the null pointer. -/
def namedGapStream (container : AFF4ZipContainer) (values : List RDFValue) :
    Option ContainerStream :=
  match values with
  | [] => none
  | value :: _ =>
      if value.rdfType ≠ .unknown then
        container.getImageStream (getLexiconString value.rdfType)
      else container.getImageStream value.valueLiteral

/-- The constructor. -/
def create (container : AFF4ZipContainer) (resource : Bytes) : AFF4Map :=
  let properties := container.model.getObjectInformation resource
  { resource := resource
    length := lengthOf (getProperty properties .aff4Size)
    unknownOverride := none
    mapGapStreamOverride :=
      -- Set system default if nothing provided in the model.
      match namedGapStream container (getProperty properties .aff4MapGapStream) with
      | some stream => some stream
      | none => some createZeroStream }

def size (map : AFF4Map) : U64 := map.length

def getStream (map : AFF4Map) (parent : Parent ContainerStream) (order : PointSort)
    (heap : Nat → UInt8) : Except Fault (MapStream ContainerStream) :=
  MapStream.create parent map.resource map.length map.unknownOverride map.mapGapStreamOverride
    order heap

/-! ## The gap stream -/

/-- The gap stream of the map is `gap`, and what no record covers is read from it. -/
structure FillsGapsWith (map : AFF4Map) (gap : ContainerStream) : Prop where
  override : map.mapGapStreamOverride = some gap
  reads : ∀ parent order heap segment self,
    parent.getSegment (map.resource ++ text "/map") = some segment →
      map.getStream parent order heap = .ok self → self.ReadsGap (segment.records heap) gap

private theorem fillsGapsWith_iff (map : AFF4Map) (gap : ContainerStream) :
    map.FillsGapsWith gap ↔ map.mapGapStreamOverride = some gap := by
  constructor
  · exact fun fills => fills.override
  · intro override
    refine ⟨override, ?_⟩
    intro parent order heap segment self present created
    unfold getStream at created
    rw [override] at created
    exact create_readsGap present created

/-- The stream that `uri` resolves to, or the zero stream where there is none. -/
def gapFor (container : AFF4ZipContainer) (uri : Bytes) : ContainerStream :=
  (container.getImageStream uri).getD createZeroStream

theorem create_override (container : AFF4ZipContainer) (resource : Bytes) :
    (create container resource).mapGapStreamOverride =
      some ((namedGapStream container
        (getProperty (container.model.getObjectInformation resource) .aff4MapGapStream)).getD
          createZeroStream) := by
  unfold create
  dsimp only
  cases namedGapStream container
    (getProperty (container.model.getObjectInformation resource) .aff4MapGapStream) <;> rfl

section Parsed

variable (typedLiteral : CString → Bytes → Option RDFValue)

/-- The first `aff4:mapGapDefaultStream` of `resource` that has a value. -/
def givenGap (statements : List RaptorStatement) (resource : Bytes) : Option RaptorTerm :=
  (Model.objects statements resource .aff4MapGapStream).find? fun object =>
    (Model.getValueFromRaptorTerm typedLiteral .aff4MapGapStream object).isSome

theorem head?_values (statements : List RaptorStatement) (resource : Bytes) :
    (getProperty ((Model.parse typedLiteral statements).getObjectInformation resource)
        .aff4MapGapStream).head? =
      (givenGap typedLiteral statements resource).bind
        (Model.getValueFromRaptorTerm typedLiteral .aff4MapGapStream) :=
  Model.head?_values typedLiteral statements resource (by decide)

theorem namedGapStream_head (container : AFF4ZipContainer) (values : List RDFValue) :
    namedGapStream container values = values.head?.bind fun value =>
      if value.rdfType ≠ .unknown then
        container.getImageStream (getLexiconString value.rdfType)
      else container.getImageStream value.valueLiteral := by
  cases values <;> rfl

/-- The string that is looked up for a URI: the URI of a known term, or else that of the
property itself. -/
theorem namedGapStream_uri (container : AFF4ZipContainer) (uri : CString) :
    ((Model.getValueFromRaptorTerm typedLiteral .aff4MapGapStream (.uri uri)).bind fun value =>
        if value.rdfType ≠ .unknown then
          container.getImageStream (getLexiconString value.rdfType)
        else container.getImageStream value.valueLiteral) =
      if getLexicon uri.bytes ≠ .unknown then container.getImageStream uri.bytes
      else container.getImageStream (getLexiconString .aff4MapGapStream) := by
  unfold Model.getValueFromRaptorTerm
  by_cases known : getLexicon uri.bytes ≠ .unknown
  · simp [known, RDFValue.ofType, getLexiconString_getLexicon uri.terminated known]
  · simp [not_not.mp known, RDFValue.typed]

/-- A map fills its gaps from the stream that its `aff4:mapGapDefaultStream` names exactly when
that URI is in the lexicon, or leads to the same stream as the name of the property does. -/
theorem gap_stream_iff {statements : List RaptorStatement} {resource : Bytes}
    {given : Option CString}
    (isGiven : givenGap typedLiteral statements resource = given.map .uri) (zip : ZipContainer) :
    let container : AFF4ZipContainer := ⟨zip, Model.parse typedLiteral statements⟩
    (create container resource).FillsGapsWith
        ((given.map fun uri => gapFor container uri.bytes).getD createZeroStream) ↔
      ∀ uri ∈ given, getLexicon uri.bytes ≠ .unknown ∨
        gapFor container uri.bytes =
          gapFor container (getLexiconString .aff4MapGapStream) := by
  intro container
  rw [fillsGapsWith_iff, create_override, namedGapStream_head, head?_values, isGiven,
    Option.some.injEq]
  cases given with
  | none => simp
  | some uri =>
      have found := namedGapStream_uri typedLiteral container uri
      simp only [Option.map_some, Option.bind_some, found, Option.getD_some, Option.mem_def,
        Option.some.injEq, forall_eq']
      by_cases known : getLexicon uri.bytes ≠ .unknown
      · simp [known, gapFor]
      · simp only [known, false_or]
        exact eq_comm

end Parsed

def emptyZip : ZipContainer where
  file := ⟨[], by decide⟩
  entries := []
  resourceID := text "aff4://c"
  inflate := fun _ _ => none

def symbolicGap : CString := ⟨baseUri ++ text "SymbolicStreamFF", by decide⟩

/-- A map whose gaps are filled with the byte 0xff. -/
def gapStatements : List RaptorStatement :=
  [⟨.uri ⟨text "aff4://m", by decide⟩, .uri ⟨baseUri ++ text "mapGapDefaultStream", by decide⟩,
    .uri symbolicGap⟩]

def gapContainer : AFF4ZipContainer := ⟨emptyZip, Model.parse (fun _ _ => none) gapStatements⟩

private theorem symbolic_gap_given :
    givenGap (fun _ _ => none) gapStatements (text "aff4://m") = some (.uri symbolicGap) := by
  decide +kernel

private theorem symbolic_gap_resolves :
    gapContainer.getImageStream symbolicGap.bytes = some (.symbolic symbolicGap.bytes 0xff) := by
  decide +kernel

private theorem symbolic_gap_override :
    (create gapContainer (text "aff4://m")).mapGapStreamOverride = some createZeroStream := by
  decide +kernel

theorem symbolic_gap_reads_zero :
    givenGap (fun _ _ => none) gapStatements (text "aff4://m") = some (.uri symbolicGap) ∧
      gapContainer.getImageStream symbolicGap.bytes = some (.symbolic symbolicGap.bytes 0xff) ∧
      (create gapContainer (text "aff4://m")).FillsGapsWith createZeroStream ∧
      ¬(create gapContainer (text "aff4://m")).FillsGapsWith
        (gapFor gapContainer symbolicGap.bytes) := by
  refine ⟨symbolic_gap_given, symbolic_gap_resolves, ?_, ?_⟩
  · exact (fillsGapsWith_iff _ _).mpr symbolic_gap_override
  · intro fills
    have same := symbolic_gap_override.symm.trans fills.override
    rw [gapFor, symbolic_gap_resolves, createZeroStream, Option.getD_some, Option.some.injEq,
      ContainerStream.symbolic.injEq] at same
    exact absurd same.2 (by decide)

theorem gap_stream_iff_symbolicGap :
    (create gapContainer (text "aff4://m")).FillsGapsWith
        (gapFor gapContainer symbolicGap.bytes) ↔
      ∀ uri ∈ some symbolicGap, getLexicon uri.bytes ≠ .unknown ∨
        gapFor gapContainer uri.bytes =
          gapFor gapContainer (getLexiconString .aff4MapGapStream) :=
  gap_stream_iff (fun _ _ => none)
    (show givenGap _ gapStatements (text "aff4://m") = (some symbolicGap).map .uri from
      symbolic_gap_given) emptyZip

end AFF4Map

end Aff4Lite.Map
