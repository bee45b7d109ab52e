import Aff4Lite.Containers.AbsentModel
import Aff4Lite.Map.DependentStreams
import Aff4Lite.Rdf.ModelProperties

/-!
# What a container says of its resources

The properties of an image and the answers of a container in any run of calls, by the statements
of `information.turtle` and the entries of the archive. The list of images that a container
keeps does not show.
-/

set_option autoImplicit false

namespace Aff4Lite.Containers

open Lib Rdf Zip Aff4Lite.Stream Aff4Lite.Map Aff4Lite.Map.AFF4Map
open Model (collected typedLiteral)

section Statements

variable (stof : Bytes → Bool) (statements : List RaptorStatement)

def Declared (resource : Bytes) (type : Lexicon) : Prop :=
  ∃ statement ∈ statements, Model.GivesType statement resource type

/-! ## Properties of an image -/

/-- An `aff4:CaseDetails` that has the image for its target and gives the property. -/
structure CaseDetails (image : Bytes) (property : Lexicon) (res : Bytes) : Prop where
  declared : Declared statements res .aff4CaseDetails
  target : ∃ value ∈ collected (typedLiteral stof) statements res .aff4Target,
    value.xsdType = .resource ∧ value.valueLiteral = image
  given : collected (typedLiteral stof) statements res property ≠ []

end Statements

namespace AFF4Image

/-- The fold writes what `res` gives over what was there. -/
def Overrides (model : Model) (resource : Bytes) (property : Lexicon) (res : Bytes) : Prop :=
  property ∈ caseTerms ∧
    ((getProperty (model.getObjectInformation res) .aff4Target).any fun value =>
      value.xsdType = .resource && value.valueLiteral = resource) ∧
    ((model.getObjectInformation res).find? property).isSome

private theorem addCaseDetails_overrides {model : Model} {resource res : Bytes} {property : Lexicon}
    (overrides : Overrides model resource property res) (properties : Properties) :
    (addCaseDetails model resource properties res).find? property =
      (model.getObjectInformation res).find? property := by
  obtain ⟨wanted, target, given⟩ := overrides
  obtain ⟨values, found⟩ := Option.isSome_iff_exists.mp given
  have merged := OrderedMap.find?_foldl_entries (fun term => term ∈ caseTerms)
    (model.getObjectInformation res) properties property
  rw [if_pos wanted, found] at merged
  unfold addCaseDetails
  dsimp only
  rw [if_pos target, found]
  exact merged

private theorem addCaseDetails_keeps {model : Model} {resource res : Bytes} {property : Lexicon}
    (keeps : ¬Overrides model resource property res) (properties : Properties) :
    (addCaseDetails model resource properties res).find? property =
      properties.find? property := by
  unfold addCaseDetails
  dsimp only
  split
  · rename_i target
    refine (OrderedMap.find?_foldl_entries (fun term => term ∈ caseTerms)
      (model.getObjectInformation res) properties property).trans ?_
    split
    · rename_i wanted
      have absent : (model.getObjectInformation res).find? property = none := by
        by_contra given
        exact keeps ⟨wanted, target, Option.isSome_iff_ne_none.mpr given⟩
      rw [absent, Option.none_or]
    · rfl
  · rfl

theorem foldl_keeps {model : Model} {resource : Bytes} {property : Lexicon} {resources : List Bytes}
    (keep : ∀ res ∈ resources, ¬Overrides model resource property res) (properties : Properties) :
    (resources.foldl (addCaseDetails model resource) properties).find? property =
      properties.find? property := by
  induction resources generalizing properties with
  | nil => rfl
  | cons res resources ih =>
      rw [List.foldl_cons, ih fun other member => keep other (List.mem_cons_of_mem _ member),
        addCaseDetails_keeps (keep res List.mem_cons_self)]

/-- In an ascending list the greatest resource that overrides comes last. -/
theorem foldl_greatest {model : Model} {resource : Bytes} {property : Lexicon}
    {resources : List Bytes} (ascending : resources.Pairwise (· < ·)) {res : Bytes}
    (member : res ∈ resources) (overrides : Overrides model resource property res)
    (greatest : ∀ other ∈ resources, Overrides model resource property other → other ≤ res)
    (properties : Properties) :
    (resources.foldl (addCaseDetails model resource) properties).find? property =
      (model.getObjectInformation res).find? property := by
  obtain ⟨front, back, rfl⟩ := List.append_of_mem member
  have later := (List.pairwise_cons.mp (List.pairwise_append.mp ascending).2.1).1
  rw [List.foldl_append, List.foldl_cons, foldl_keeps, addCaseDetails_overrides overrides]
  intro other behind overridesToo
  exact absurd (greatest other (by simp [behind]) overridesToo) (not_le.mpr (later other behind))

private theorem overrides_parse_iff {stof : Bytes → Bool} {statements : List RaptorStatement}
    {image res : Bytes} {property : Lexicon} (known : property ≠ .unknown) :
    Overrides (Model.parse (typedLiteral stof) statements) image property res ↔
      property ∈ caseTerms ∧
        (∃ value ∈ collected (typedLiteral stof) statements res .aff4Target,
          value.xsdType = .resource ∧ value.valueLiteral = image) ∧
        collected (typedLiteral stof) statements res property ≠ [] := by
  unfold Overrides
  rw [Model.parse_find?, Model.parse_values _ statements res (show Lexicon.aff4Target ≠ .unknown by
    decide), List.any_eq_true]
  simp only [Bool.and_eq_true, decide_eq_true_eq, known, false_or]
  by_cases given : collected (typedLiteral stof) statements res property = []
  · rw [if_pos given]
    simp [given]
  · rw [if_neg given]
    simp only [Option.isSome_some, and_true, ne_eq, given, not_false_iff]
    rfl

theorem find?_addProperties_empty (elements : Properties) (property : Lexicon) :
    (addProperties .empty elements).find? property = elements.find? property := by
  have merged := OrderedMap.find?_foldl_entries (fun _ : Lexicon => True) elements .empty property
  simp only [if_true] at merged
  rw [OrderedMap.find?_empty, Option.or_none] at merged
  exact merged

/-- An image has the properties of its own statements. A case term is taken from the greatest
resource among the `aff4:CaseDetails` that have the image for their target and give the term. -/
theorem image_properties (stof : Bytes → Bool) (statements : List RaptorStatement)
    (resource : Bytes) :
    ∃ image, create (some (Model.parse (typedLiteral stof) statements)) resource = .ok image ∧
      image.resource = resource ∧
      ∀ property,
        (∀ res, property ∈ caseTerms → CaseDetails stof statements resource property res →
          (∀ other, CaseDetails stof statements resource property other → other ≤ res) →
            getProperty image.properties property =
              collected (typedLiteral stof) statements res property) ∧
        ((property ∉ caseTerms ∨ ∀ res, ¬CaseDetails stof statements resource property res) →
          getProperty image.properties property =
            if property = .unknown then []
            else collected (typedLiteral stof) statements resource property) := by
  have ascending := Model.getResourcesOfType_ascending
    (Model.parse (typedLiteral stof) statements) .aff4CaseDetails
  have listed := fun res => @Model.mem_getResourcesOfType_parse stof statements
    .aff4CaseDetails (by decide) res
  refine ⟨_, rfl, rfl, ?_⟩
  intro property
  dsimp only
  refine ⟨?_, ?_⟩
  · intro res wanted details greatest
    have known : property ≠ .unknown := by
      rintro rfl
      exact absurd wanted (by decide)
    have qualifies : ∀ other, Declared statements other .aff4CaseDetails →
        Overrides (Model.parse (typedLiteral stof) statements) resource property other →
          CaseDetails stof statements resource property other := by
      intro other declared overrides
      obtain ⟨_, target, given⟩ := (overrides_parse_iff known).mp overrides
      exact ⟨declared, target, given⟩
    have last := foldl_greatest ascending ((listed res).mpr details.declared)
      ((overrides_parse_iff known).mpr ⟨wanted, details.target, details.given⟩)
      (fun other member overrides => greatest other
        (qualifies other ((listed other).mp member) overrides))
      (addProperties .empty
        ((Model.parse (typedLiteral stof) statements).getObjectInformation resource))
    rw [getProperty, last, Model.parse_find?, if_neg (by
      rintro (unknown | nothing)
      · exact known unknown
      · exact details.given nothing)]
    rfl
  · intro absent
    have keep : ∀ res ∈ (Model.parse (typedLiteral stof) statements).getResourcesOfType
        .aff4CaseDetails,
          ¬Overrides (Model.parse (typedLiteral stof) statements) resource property res := by
      intro res member overrides
      have wanted := overrides.1
      have known : property ≠ .unknown := by
        rintro rfl
        exact absurd wanted (by decide)
      obtain ⟨_, target, given⟩ := (overrides_parse_iff known).mp overrides
      rcases absent with unwanted | absent
      · exact unwanted wanted
      · exact absent res ⟨(listed res).mp member, target, given⟩
    rw [getProperty, foldl_keeps keep, find?_addProperties_empty, Model.parse_find?]
    by_cases unknown : property = .unknown
    · rw [if_pos (.inl unknown), if_pos unknown]
      rfl
    · rw [if_neg unknown]
      by_cases nothing : collected (typedLiteral stof) statements resource property = []
      · rw [if_pos (.inr nothing), nothing]
        rfl
      · rw [if_neg (not_or.mpr ⟨unknown, nothing⟩)]
        rfl

end AFF4Image

/-! ## Answers of a container -/

section Answers

variable (zip : ZipContainer) (stof : Bytes → Bool) (statements : List RaptorStatement)

/-- The statements say that the stream is stored in the container. Where they say nothing of it,
the archive has its first index. -/
def StoredHere (resource : Bytes) : Prop :=
  if collected (typedLiteral stof) statements resource .aff4Stored = [] then
    ∃ entry ∈ zip.entries,
      entry.segmentName = zip.sanitizeResource (resource ++ text "/00000000.index")
  else ∃ value ∈ collected (typedLiteral stof) statements resource .aff4Stored,
    value.xsdType = .resource ∧ value.valueLiteral = zip.resourceID

/-- The stream that the container has under a name, by what its constructor is given. -/
inductive HasStream : Bytes → ContainerStream → Prop where
  | zero : HasStream (getLexiconString .aff4ImagestreamZero) createZeroStream
  | unknown : HasStream (getLexiconString .aff4ImagestreamUnknown) createUnknownStream
  | unreadable : HasStream (getLexiconString .aff4ImagestreamUnreadable) createUnreadableStream
  | symbolic (rest : Bytes) :
      HasStream (getLexiconString .aff4ImagestreamSymbolicPrefix ++ rest)
        (createSymbolicStream (getLexiconString .aff4ImagestreamSymbolicPrefix ++ rest))
  | image {resource : Bytes} : resource ≠ [] → isSymbolicStream resource = false →
      Declared statements resource .aff4ImagestreamType →
      StoredHere zip stof statements resource → HasStream resource (.image resource)

/-- The model that the container has of the statements. -/
def modelOf : Model := Model.parse (typedLiteral stof) statements

def IsImage (resource : Bytes) (image : AFF4Image) : Prop :=
  Declared statements resource .aff4ImageType ∧
    AFF4Image.create (some (modelOf stof statements)) resource = .ok image

def IsMap (resource : Bytes) (map : AFF4Map) : Prop :=
  Declared statements resource .aff4MapType ∧
    map = .create ⟨zip, modelOf stof statements⟩ resource

/-- What `open` gives for a name: an image goes before a map, a map before a stream, and a segment
comes last. -/
inductive Opens (resource : Bytes) : OpenedResource → Prop where
  | image {image : AFF4Image} :
      IsImage stof statements resource image → Opens resource (.image image)
  | map {map : AFF4Map} : ¬Declared statements resource .aff4ImageType →
      IsMap zip stof statements resource map → Opens resource (.map map)
  | stream {stream : ContainerStream} : ¬Declared statements resource .aff4ImageType →
      ¬Declared statements resource .aff4MapType →
      HasStream zip stof statements resource stream → Opens resource (.stream stream)
  | segment {entry : ZipEntry} : ¬Declared statements resource .aff4ImageType →
      ¬Declared statements resource .aff4MapType →
      (∀ stream, ¬HasStream zip stof statements resource stream) →
      zip.getSegment resource = some entry → Opens resource (.segment entry)

/-- The answer that the statements and the archive give to a call. -/
def Meets : ContainerCall → ContainerAnswer → Prop
  | .getImages, .images images =>
      images.Pairwise (fun earlier later => earlier.resource < later.resource) ∧
        ∀ image, image ∈ images ↔ IsImage stof statements image.resource image
  | .getImage resource, .image answer =>
      ∀ image, answer = some image ↔ IsImage stof statements resource image
  | .getMap resource, .map answer =>
      ∀ map, answer = some map ↔ IsMap zip stof statements resource map
  | .getImageStream resource, .stream answer =>
      ∀ stream, answer = some stream ↔ HasStream zip stof statements resource stream
  | .getSegment segmentName, .segment answer => answer = zip.getSegment segmentName
  | .openResource resource, .opened answer =>
      ∀ opened, answer = some opened ↔ resource ≠ [] ∧ Opens zip stof statements resource opened
  | .hasResource resource, .known found =>
      found = true ↔ resource ≠ [] ∧ ∃ opened, Opens zip stof statements resource opened
  | _, _ => False

variable {zip stof statements}

theorem declared_iff {type : Lexicon} (member : type ∈ Model.lookedUp) (resource : Bytes) :
    resource ∈ (modelOf stof statements).getResourcesOfType type ↔
      Declared statements resource type :=
  Model.mem_getResourcesOfType_parse statements member resource

/-! ### Images -/

def imageOf (model : Model) (resource : Bytes) : AFF4Image where
  resource := resource
  properties := (model.getResourcesOfType .aff4CaseDetails).foldl
    (AFF4Image.addCaseDetails model resource)
    (addProperties .empty (model.getObjectInformation resource))

private theorem create_imageOf (model : Model) (resource : Bytes) :
    AFF4Image.create (some model) resource = .ok (imageOf model resource) :=
  rfl

theorem isImage_iff {resource : Bytes} {image : AFF4Image} :
    IsImage stof statements resource image ↔ Declared statements resource .aff4ImageType ∧
      image = imageOf (modelOf stof statements) resource := by
  unfold IsImage
  rw [create_imageOf, Except.ok.injEq]
  exact and_congr_right fun _ => eq_comm

private theorem mapM_create (model : Model) (resources : List Bytes) :
    resources.mapM (AFF4Image.create (some model)) = .ok (resources.map (imageOf model)) := by
  induction resources with
  | nil => rfl
  | cons resource resources ih =>
      rw [List.mapM_cons, create_imageOf, ih]
      rfl

variable (stof statements) in
def listedImages : List AFF4Image :=
  ((modelOf stof statements).getResourcesOfType .aff4ImageType).map
    (imageOf (modelOf stof statements))

private theorem mem_listedImages {image : AFF4Image} : image ∈ listedImages stof statements ↔
    IsImage stof statements image.resource image := by
  unfold listedImages
  rw [List.mem_map, isImage_iff]
  constructor
  · rintro ⟨resource, member, rfl⟩
    exact ⟨(declared_iff (by decide) resource).mp member, rfl⟩
  · rintro ⟨declared, same⟩
    exact ⟨image.resource, (declared_iff (by decide) _).mpr declared, same.symm⟩

private theorem listedImages_ascending : (listedImages stof statements).Pairwise
    fun earlier later => earlier.resource < later.resource :=
  List.pairwise_map.mpr (Model.getResourcesOfType_ascending _ _)

private theorem find?_listedImages {resource : Bytes} {image : AFF4Image} :
    (listedImages stof statements).find? (fun image => image.resource = resource) = some image ↔
      IsImage stof statements resource image := by
  constructor
  · intro found
    have member := mem_listedImages.mp (List.mem_of_find?_eq_some found)
    have named : image.resource = resource := by simpa using List.find?_some found
    exact named ▸ member
  · intro isImage
    have own := (isImage_iff.mp isImage).2
    have named : image.resource = resource := by rw [own]; rfl
    cases found : (listedImages stof statements).find? (fun image => image.resource = resource) with
    | none =>
        have missing := List.find?_eq_none.mp found image (mem_listedImages.mpr (named ▸ isImage))
        exact absurd (decide_eq_true named) missing
    | some other =>
        have member := mem_listedImages.mp (List.mem_of_find?_eq_some found)
        have otherNamed : other.resource = resource := by simpa using List.find?_some found
        rw [(isImage_iff.mp member).2, otherNamed, own]

/-! ### Streams -/

theorem if_some_iff {α : Type} {condition : Prop} [Decidable condition] {value other : α} :
    (if condition then some value else none) = some other ↔ other = value ∧ condition := by
  by_cases holds : condition
  · rw [if_pos holds, Option.some.injEq, eq_comm]
    exact (and_iff_left holds).symm
  · rw [if_neg holds]
    exact ⟨nofun, fun both => absurd both.2 holds⟩

private theorem openImageStream_iff {resource streamID : Bytes} {stream : ContainerStream} :
    (AFF4ZipContainer.mk zip (modelOf stof statements)).openImageStream resource streamID =
        some stream ↔
      streamID = resource ∧ stream = .image resource ∧
        StoredHere zip stof statements resource := by
  unfold AFF4ZipContainer.openImageStream StoredHere modelOf
  dsimp only
  rw [Model.parse_find?]
  simp only [show Lexicon.aff4Stored ≠ .unknown by decide, false_or]
  by_cases same : streamID = resource
  · rw [if_pos same]
    by_cases silent : collected (typedLiteral stof) statements resource .aff4Stored = []
    · rw [if_pos silent, if_pos silent]
      simp only [if_some_iff, same, true_and, AFF4ZipContainer.hasEntry, List.any_eq_true,
        decide_eq_true_eq]
    · rw [if_neg silent, if_neg silent]
      simp only [if_some_iff, same, true_and, List.any_eq_true, Bool.and_eq_true,
        decide_eq_true_eq]
      rfl
  · rw [if_neg same]
    exact ⟨nofun, fun all => absurd all.1 same⟩

/-- No stream but those with the prefix has a name of the factory twice. -/
theorem symbolic_apart (rest : Bytes) :
    getLexiconString .aff4ImagestreamSymbolicPrefix ++ rest ≠
        getLexiconString .aff4ImagestreamZero ∧
      getLexiconString .aff4ImagestreamSymbolicPrefix ++ rest ≠
        getLexiconString .aff4ImagestreamUnknown ∧
      getLexiconString .aff4ImagestreamSymbolicPrefix ++ rest ≠
        getLexiconString .aff4ImagestreamUnreadable := by
  have apart : ∀ term ∈ [Lexicon.aff4ImagestreamZero, .aff4ImagestreamUnknown,
      .aff4ImagestreamUnreadable],
        hasPrefix (getLexiconString term) (getLexiconString .aff4ImagestreamSymbolicPrefix) =
          false := by
    decide +kernel
  have differs : ∀ term ∈ [Lexicon.aff4ImagestreamZero, .aff4ImagestreamUnknown,
      .aff4ImagestreamUnreadable],
        getLexiconString .aff4ImagestreamSymbolicPrefix ++ rest ≠ getLexiconString term := by
    intro term member same
    have without := apart term member
    rw [← same, hasPrefix, List.take_left' rfl, decide_eq_false_iff_not] at without
    exact without rfl
  exact ⟨differs _ (by simp), differs _ (by simp), differs _ (by simp)⟩

theorem getImageStream_iff {resource : Bytes} {stream : ContainerStream} :
    (AFF4ZipContainer.mk zip (modelOf stof statements)).getImageStream resource = some stream ↔
      HasStream zip stof statements resource stream := by
  constructor
  · intro found
    unfold AFF4ZipContainer.getImageStream at found
    by_cases nameless : resource = []
    · rw [if_pos nameless] at found
      cases found
    rw [if_neg nameless] at found
    by_cases zero : resource = getLexiconString .aff4ImagestreamZero
    · rw [if_pos zero, Option.some.injEq] at found
      exact found ▸ zero ▸ .zero
    rw [if_neg zero] at found
    by_cases unknown : resource = getLexiconString .aff4ImagestreamUnknown
    · rw [if_pos unknown, Option.some.injEq] at found
      exact found ▸ unknown ▸ .unknown
    rw [if_neg unknown] at found
    by_cases unreadable : resource = getLexiconString .aff4ImagestreamUnreadable
    · rw [if_pos unreadable, Option.some.injEq] at found
      exact found ▸ unreadable ▸ .unreadable
    rw [if_neg unreadable] at found
    by_cases symbolic : hasPrefix resource (getLexiconString .aff4ImagestreamSymbolicPrefix)
    · rw [if_pos symbolic, Option.some.injEq] at found
      have parts := List.take_append_drop
        (getLexiconString .aff4ImagestreamSymbolicPrefix).length resource
      rw [of_decide_eq_true symbolic] at parts
      rw [← found, ← parts]
      exact .symbolic _
    rw [if_neg symbolic] at found
    obtain ⟨streamID, member, opened⟩ := List.exists_of_findSome?_eq_some found
    obtain ⟨rfl, rfl, stored⟩ := openImageStream_iff.mp opened
    refine .image nameless ?_ ((declared_iff (by decide) _).mp member) stored
    simp [isSymbolicStream, zero, unknown, unreadable, symbolic]
  · intro has
    unfold AFF4ZipContainer.getImageStream
    cases has with
    | zero => rfl
    | unknown => rfl
    | unreadable => rfl
    | symbolic rest =>
        obtain ⟨notZero, notUnknown, notUnreadable⟩ := symbolic_apart rest
        have named : getLexiconString .aff4ImagestreamSymbolicPrefix ++ rest ≠ [] := by
          simp [show getLexiconString .aff4ImagestreamSymbolicPrefix ≠ [] by decide +kernel]
        have begins : hasPrefix (getLexiconString .aff4ImagestreamSymbolicPrefix ++ rest)
            (getLexiconString .aff4ImagestreamSymbolicPrefix) = true := by
          rw [hasPrefix, List.take_left' rfl]
          exact decide_eq_true rfl
        rw [if_neg named, if_neg notZero, if_neg notUnknown, if_neg notUnreadable, if_pos begins]
    | image named plain declared stored =>
        simp only [isSymbolicStream, Bool.or_eq_false_iff, decide_eq_false_iff_not] at plain
        obtain ⟨⟨⟨notZero, notUnknown⟩, notUnreadable⟩, notSymbolic⟩ := plain
        rw [if_neg named, if_neg notZero, if_neg notUnknown, if_neg notUnreadable,
          if_neg (by rw [notSymbolic]; decide)]
        cases found : List.findSome? ((AFF4ZipContainer.mk zip
            (modelOf stof statements)).openImageStream resource)
              ((modelOf stof statements).getResourcesOfType .aff4ImagestreamType) with
        | none =>
            have missing := List.findSome?_eq_none_iff.mp found resource
              ((declared_iff (by decide) _).mpr declared)
            rw [openImageStream_iff.mpr ⟨rfl, rfl, stored⟩] at missing
            cases missing
        | some other =>
            obtain ⟨streamID, member, opened⟩ := List.exists_of_findSome?_eq_some found
            rw [(openImageStream_iff.mp opened).2.1]

private theorem createSymbolicStream_ne (name resource : Bytes) :
    createSymbolicStream name ≠ .image resource := by
  unfold createSymbolicStream
  dsimp only
  split
  · split
    · exact nofun
    · exact nofun
  · exact nofun

/-- Only the streams that the statements declare are image streams. -/
theorem HasStream.declared {name resource : Bytes}
    (has : HasStream zip stof statements name (.image resource)) :
    Declared statements resource .aff4ImagestreamType := by
  generalize same : ContainerStream.image resource = stream at has
  cases has with
  | zero => cases same
  | unknown => cases same
  | unreadable => cases same
  | symbolic rest => exact absurd same.symm (createSymbolicStream_ne _ _)
  | image _ _ declared _ =>
      cases same
      exact declared

/-! ### Names -/

/-- The lookups in their order. -/
def firstOf (image : Option AFF4Image) (map : Option AFF4Map) (stream : Option ContainerStream)
    (entry : Option ZipEntry) : Option OpenedResource :=
  (image.map .image).or ((map.map .map).or ((stream.map .stream).or (entry.map .segment)))

private theorem firstOf_iff {resource : Bytes} {image : Option AFF4Image} {map : Option AFF4Map}
    {stream : Option ContainerStream}
    (isImage : ∀ found, image = some found ↔ IsImage stof statements resource found)
    (isMap : ∀ found, map = some found ↔ IsMap zip stof statements resource found)
    (hasStream : ∀ found, stream = some found ↔ HasStream zip stof statements resource found)
    (opened : OpenedResource) :
    firstOf image map stream (zip.getSegment resource) = some opened ↔
      Opens zip stof statements resource opened := by
  have noImage : image = none → ¬Declared statements resource .aff4ImageType := by
    rintro rfl declared
    cases (isImage _).mpr ⟨declared, create_imageOf _ _⟩
  have noMap : map = none → ¬Declared statements resource .aff4MapType := by
    rintro rfl declared
    cases (isMap _).mpr ⟨declared, rfl⟩
  constructor
  · intro found
    cases image with
    | some image =>
        cases found
        exact .image ((isImage image).mp rfl)
    | none =>
        cases map with
        | some map =>
            cases found
            exact .map (noImage rfl) ((isMap map).mp rfl)
        | none =>
            cases stream with
            | some stream =>
                cases found
                exact .stream (noImage rfl) (noMap rfl) ((hasStream stream).mp rfl)
            | none =>
                obtain ⟨entry, stored, rfl⟩ := Option.map_eq_some_iff.mp found
                refine .segment (noImage rfl) (noMap rfl) (fun stream has => ?_) stored
                cases (hasStream stream).mpr has
  · intro opens
    have imageAbsent : ¬Declared statements resource .aff4ImageType → image = none := by
      intro absent
      rw [Option.eq_none_iff_forall_ne_some]
      exact fun found same => absent ((isImage found).mp same).1
    have mapAbsent : ¬Declared statements resource .aff4MapType → map = none := by
      intro absent
      rw [Option.eq_none_iff_forall_ne_some]
      exact fun found same => absent ((isMap found).mp same).1
    cases opens with
    | image own =>
        rw [(isImage _).mpr own]
        rfl
    | map noneImage own =>
        rw [imageAbsent noneImage, (isMap _).mpr own]
        rfl
    | stream noneImage noneMap own =>
        rw [imageAbsent noneImage, mapAbsent noneMap, (hasStream _).mpr own]
        rfl
    | segment noneImage noneMap noneStream own =>
        have streamAbsent : stream = none := by
          rw [Option.eq_none_iff_forall_ne_some]
          exact fun found same => noneStream found ((hasStream found).mp same)
        rw [imageAbsent noneImage, mapAbsent noneMap, streamAbsent, own]
        rfl

/-! ### Runs -/

variable (zip stof statements) in
/-- The images are not listed yet, or they are those of the statements. -/
structure Warm (container : ContainerObject) : Prop where
  zip : container.zip = zip
  model : container.model = some (modelOf stof statements)
  images : container.images = [] ∨ container.images = listedImages stof statements

section Steps

variable {container : ContainerObject} (warm : Warm zip stof statements container)

include warm

theorem Warm.getImages : ∃ after,
    container.getImages = .ok (listedImages stof statements, after) ∧
      Warm zip stof statements after := by
  unfold ContainerObject.getImages
  cases empty : container.images.isEmpty with
  | true =>
      refine ⟨{ container with images := listedImages stof statements }, ?_,
        ⟨warm.zip, warm.model, .inr rfl⟩⟩
      rw [warm.model]
      dsimp only [dereference, bind, Except.bind]
      rw [mapM_create]
      rfl
  | false =>
      refine ⟨container, ?_, warm⟩
      rcases warm.images with absent | listed
      · rw [absent] at empty
        cases empty
      · rw [listed]
        rfl

theorem Warm.getImage (resource : Bytes) : ∃ answer after,
    container.getImage resource = .ok (answer, after) ∧ Warm zip stof statements after ∧
      ∀ image, answer = some image ↔ IsImage stof statements resource image := by
  obtain ⟨after, found, kept⟩ := warm.getImages
  refine ⟨_, after, ?_, kept, fun image => find?_listedImages⟩
  rw [ContainerObject.getImage, found]
  rfl

theorem Warm.getMap (resource : Bytes) : ∃ answer,
    container.getMap resource = .ok answer ∧
      ∀ map, answer = some map ↔ IsMap zip stof statements resource map := by
  unfold ContainerObject.getMap ContainerObject.createMap IsMap
  rw [warm.model, warm.zip]
  by_cases declared : Declared statements resource .aff4MapType
  · refine ⟨_, if_pos ((declared_iff (by decide) _).mpr declared), fun map => ?_⟩
    rw [Option.some.injEq, eq_comm]
    exact (and_iff_right declared).symm
  · refine ⟨none, if_neg fun listed => declared ((declared_iff (by decide) _).mp listed),
      fun map => ?_⟩
    exact ⟨nofun, fun both => absurd both.1 declared⟩

theorem Warm.getImageStream (resource : Bytes) : ∃ answer,
    container.getImageStream resource = .ok answer ∧
      ∀ stream, answer = some stream ↔ HasStream zip stof statements resource stream := by
  refine ⟨_, ContainerObject.getImageStream_ok warm.model resource, fun stream => ?_⟩
  rw [warm.zip]
  exact getImageStream_iff

theorem Warm.openResource (resource : Bytes) : ∃ answer after,
    container.openResource resource = .ok (answer, after) ∧ Warm zip stof statements after ∧
      ∀ opened, answer = some opened ↔
        resource ≠ [] ∧ Opens zip stof statements resource opened := by
  by_cases nameless : resource = []
  · exact ⟨none, container, if_pos nameless, warm,
      fun opened => ⟨nofun, fun both => absurd nameless both.1⟩⟩
  obtain ⟨image, after, foundImage, kept, isImage⟩ := warm.getImage resource
  obtain ⟨map, foundMap, isMap⟩ := kept.getMap resource
  obtain ⟨stream, foundStream, hasStream⟩ := kept.getImageStream resource
  refine ⟨firstOf image map stream (zip.getSegment resource), after, ?_, kept, fun opened => ?_⟩
  · unfold ContainerObject.openResource ContainerObject.getSegment
    simp only [if_neg nameless, foundImage, foundMap, foundStream, kept.zip, bind, Except.bind]
    cases image <;> cases map <;> cases stream <;> rfl
  · rw [firstOf_iff isImage isMap hasStream]
    exact (and_iff_right nameless).symm

/-- One call of any kind. -/
theorem Warm.step (call : ContainerCall) : ∃ answer after,
    container.step call = .ok (answer, after) ∧ Warm zip stof statements after ∧
      Meets zip stof statements call answer := by
  cases call with
  | getImages =>
      obtain ⟨after, found, kept⟩ := warm.getImages
      refine ⟨.images (listedImages stof statements), after, ?_, kept, listedImages_ascending,
        fun image => mem_listedImages⟩
      rw [ContainerObject.step, found]
      rfl
  | getImage resource =>
      obtain ⟨answer, after, found, kept, meets⟩ := warm.getImage resource
      refine ⟨.image answer, after, ?_, kept, meets⟩
      rw [ContainerObject.step, found]
      rfl
  | getMap resource =>
      obtain ⟨answer, found, meets⟩ := warm.getMap resource
      refine ⟨.map answer, container, ?_, warm, meets⟩
      rw [ContainerObject.step, found]
      rfl
  | getImageStream resource =>
      obtain ⟨answer, found, meets⟩ := warm.getImageStream resource
      refine ⟨.stream answer, container, ?_, warm, meets⟩
      rw [ContainerObject.step, found]
      rfl
  | getSegment segmentName =>
      refine ⟨_, container, rfl, warm, ?_⟩
      rw [ContainerObject.getSegment, warm.zip]
      rfl
  | hasResource resource =>
      obtain ⟨answer, after, found, kept, meets⟩ := warm.openResource resource
      refine ⟨.known answer.isSome, after, ?_, kept, ?_⟩
      · rw [ContainerObject.step, ContainerObject.hasResource, found]
        rfl
      · change answer.isSome = true ↔ _
        rw [Option.isSome_iff_exists]
        simp only [meets, exists_and_left]
  | openResource resource =>
      obtain ⟨answer, after, found, kept, meets⟩ := warm.openResource resource
      refine ⟨.opened answer, after, ?_, kept, meets⟩
      rw [ContainerObject.step, found]
      rfl

end Steps

theorem Warm.run {container : ContainerObject} (warm : Warm zip stof statements container)
    (calls : List ContainerCall) : ∃ given after, container.run calls = .ok (given, after) ∧
      Warm zip stof statements after ∧ List.Forall₂ (Meets zip stof statements) calls given := by
  induction calls generalizing container with
  | nil => exact ⟨[], container, rfl, warm, .nil⟩
  | cons call calls ih =>
      obtain ⟨answer, middle, stepped, kept, meets⟩ := warm.step call
      obtain ⟨given, after, ran, keptAfter, rest⟩ := ih kept
      refine ⟨answer :: given, after, ?_, keptAfter, .cons meets rest⟩
      rw [ContainerObject.run, stepped]
      dsimp only [bind, Except.bind]
      rw [ran]
      rfl

theorem Warm.answers {container : ContainerObject} (warm : Warm zip stof statements container)
    (calls : List ContainerCall) : ∃ given, container.answers calls = .ok given ∧
      List.Forall₂ (Meets zip stof statements) calls given := by
  obtain ⟨given, after, ran, _, meets⟩ := warm.run calls
  refine ⟨given, ?_, meets⟩
  rw [ContainerObject.answers, ran]
  rfl

end Answers

/-! ## Opened containers -/

namespace ContainerFile

/-- The statements that raptor finds in `information.turtle`. -/
def statements (self : ContainerFile) (entries : List ZipEntry) : List RaptorStatement :=
  match getStream entries informationTurtle with
  | some entry =>
      let read := self.readWhole entry
      if read.res > 0 then self.raptor read.bytes else []
  | none => []

theorem loadModel_statements {self : ContainerFile} {entries : List ZipEntry} {model : Model}
    (loaded : self.loadModel entries = some model) :
    model = modelOf self.stof (self.statements entries) := by
  unfold loadModel at loaded
  unfold statements modelOf
  cases found : getStream entries informationTurtle with
  | none =>
      rw [found] at loaded
      cases loaded
  | some entry =>
      rw [found] at loaded
      dsimp only at loaded ⊢
      split at loaded
      · rename_i readable
        rw [if_pos readable]
        exact (Option.some.inj loaded).symm
      · rename_i unreadable
        rw [if_neg unreadable]
        exact (Option.some.inj loaded).symm

/-- Where `openContainer` gives a container, its constructor ran on what the file has. -/
theorem openContainer_some {self : ContainerFile} {fuel : Nat} {container : ContainerObject}
    (opened : self.openContainer fuel = some (.returned (some container))) :
    ∃ resource zipFile, self.Finds fuel resource zipFile ∧
      self.create resource zipFile = .ok container := by
  unfold openContainer at opened
  split at opened
  · cases opened
  rename_i isFile
  split at opened
  · cases opened
  rename_i isAFF4
  split at opened
  · cases opened
  · cases opened
  rename_i resource resourceID
  split at opened
  · cases opened
  rename_i named
  split at opened
  · cases opened
  · cases opened
  rename_i zipFile parsed
  split at opened
  · cases opened
  rename_i someEntry
  split at opened
  · cases opened
  · rename_i created
    cases opened
    exact ⟨resource, zipFile, ⟨by simpa using isFile, by simpa using isAFF4, resourceID, named,
      parsed, someEntry⟩, created⟩

theorem create_warm {self : ContainerFile} {resource : Bytes} {zipFile : Parsed}
    {container : ContainerObject} (created : self.create resource zipFile = .ok container) :
    container.zip = ⟨self.file, zipFile.entries, resource, self.inflate⟩ ∧
      Warm container.zip self.stof (self.statements zipFile.entries) container := by
  cases loaded : self.loadModel zipFile.entries with
  | none =>
      rw [create_of_missing loaded] at created
      cases created
  | some model =>
      unfold create at created
      rw [loaded] at created
      cases created
      exact ⟨rfl, ⟨rfl, congrArg some (loadModel_statements loaded), .inl rfl⟩⟩

end ContainerFile

end Aff4Lite.Containers
