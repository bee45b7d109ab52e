import Aff4Lite.Containers.ZipContainer

/-!
# `AFF4ZipContainer::sanitizeResource`

The names of one segment. The container's own ID is taken off after the leading slashes and
before the URN prefix is encoded; the slashes behind it come off last, and uncover a URN
prefix that nobody encodes any more.
-/

set_option autoImplicit false

namespace Aff4Lite.Containers

open Lib Aff4Lite.Stream

/-- `AFF4_URN_PREFIX` -/
def urnPrefix : Bytes := text "aff4://"

def encodedUrnPrefix : Bytes := text "aff4%3A%2F%2F"

/-! ## Prefixes and slashes -/

theorem hasPrefix_iff {value pre : Bytes} : hasPrefix value pre = true ↔ pre <+: value := by
  unfold hasPrefix
  rw [decide_eq_true_iff, List.prefix_iff_eq_take, eq_comm]

private theorem hasPrefix_append (pre rest : Bytes) : hasPrefix (pre ++ rest) pre = true :=
  hasPrefix_iff.mpr (List.prefix_append pre rest)

private theorem stripSlashes_head (res : Bytes) : (stripSlashes res).head? ≠ some 0x2f := by
  intro slash
  have stopped := List.head?_dropWhile_not (fun byte : UInt8 => byte = 0x2f) res
  rw [show (res.dropWhile fun byte => decide (byte = 0x2f)).head? = some 0x2f from slash] at stopped
  exact absurd stopped (by decide)

private theorem stripSlashes_of_head {res : Bytes} (first : res.head? ≠ some 0x2f) :
    stripSlashes res = res := by
  cases res with
  | nil => rfl
  | cons byte rest =>
      have other : ¬byte = 0x2f := fun same => first (congrArg some same)
      simp [stripSlashes, other]

private theorem stripSlashes_replicate (count : Nat) (res : Bytes) :
    stripSlashes (List.replicate count 0x2f ++ res) = stripSlashes res :=
  List.dropWhile_append_of_pos fun _ member => by simpa using List.eq_of_mem_replicate member

private theorem head_of_urn {value : Bytes} (urn : hasPrefix value urnPrefix = true) :
    value.head? = some 0x61 := by
  obtain ⟨rest, rfl⟩ := hasPrefix_iff.mp urn
  rfl

/-! ## One segment, many names -/

/-- Begins neither with a slash nor with `aff4://`. -/
structure CleanName (name : Bytes) : Prop where
  slash : name.head? ≠ some 0x2f
  urn : hasPrefix name urnPrefix = false

namespace ZipContainer

section Names

variable {container : ZipContainer}

/-- The spellings of a segment name that are to lead to one name, which is clean and stays as
it is. -/
structure NamesAgree (container : ZipContainer) (resource : Bytes) : Prop where
  clean : CleanName (container.sanitizeResource resource)
  again : container.sanitizeResource (container.sanitizeResource resource) =
    container.sanitizeResource resource
  slashes : ∀ count, container.sanitizeResource (List.replicate count 0x2f ++ resource) =
    container.sanitizeResource resource
  own : ∀ count, container.sanitizeResource
      (container.resourceID ++ (List.replicate (count + 1) 0x2f ++ resource)) =
    container.sanitizeResource resource
  encoded : ∀ rest, resource = urnPrefix ++ rest →
    container.sanitizeResource (encodedUrnPrefix ++ rest) = container.sanitizeResource resource

private theorem sanitizeResource_slashes (count : Nat) (resource : Bytes) :
    container.sanitizeResource (List.replicate count 0x2f ++ resource) =
      container.sanitizeResource resource := by
  unfold sanitizeResource
  rw [stripSlashes_replicate]

private theorem sanitizeResource_plain (isUrn : hasPrefix container.resourceID urnPrefix = true)
    {resource : Bytes} (plain : hasPrefix (stripSlashes resource) urnPrefix = false) :
    container.sanitizeResource resource = stripSlashes resource := by
  have foreign : ¬hasPrefix (stripSlashes resource) container.resourceID = true := by
    intro own
    have urn := (hasPrefix_iff.mp isUrn).trans (hasPrefix_iff.mp own)
    rw [hasPrefix_iff.mpr urn] at plain
    cases plain
  have same : nameCodecEncode (stripSlashes resource) = stripSlashes resource :=
    if_neg (ne_true_of_eq_false plain)
  unfold sanitizeResource
  dsimp only
  rw [if_neg foreign, same, stripSlashes_of_head (stripSlashes_head resource)]

/-- Behind the container's ID and a slash a name only loses its leading slashes, whatever
stands behind them. -/
theorem sanitizeResource_own (isUrn : hasPrefix container.resourceID urnPrefix = true)
    (count : Nat) (resource : Bytes) :
    container.sanitizeResource
        (container.resourceID ++ (List.replicate (count + 1) 0x2f ++ resource)) =
      stripSlashes resource := by
  have letter : (container.resourceID ++ (List.replicate (count + 1) 0x2f ++ resource)).head? ≠
      some 0x2f := by
    rw [head_of_urn (hasPrefix_iff.mpr ((hasPrefix_iff.mp isUrn).trans (List.prefix_append _ _)))]
    decide
  have slash : ¬hasPrefix (List.replicate (count + 1) 0x2f ++ resource) urnPrefix = true := by
    intro urn
    have first := head_of_urn urn
    rw [List.replicate_succ, List.cons_append, List.head?_cons] at first
    exact absurd first (by decide)
  unfold sanitizeResource
  dsimp only
  rw [stripSlashes_of_head letter, if_pos (hasPrefix_append _ _), List.drop_left,
    nameCodecEncode, ← urnPrefix, if_neg slash, stripSlashes_replicate]

/-- The spellings of a name agree exactly when it is no URN, slashes aside. -/
theorem namesAgree_iff (isUrn : hasPrefix container.resourceID urnPrefix = true)
    (resource : Bytes) :
    container.NamesAgree resource ↔ hasPrefix (stripSlashes resource) urnPrefix = false := by
  constructor
  · intro agree
    have raw := agree.own 0
    rw [sanitizeResource_own isUrn] at raw
    rw [raw]
    exact agree.clean.urn
  · intro plain
    have name := sanitizeResource_plain isUrn plain
    have stripped := stripSlashes_of_head (stripSlashes_head resource)
    refine ⟨?_, ?_, fun count => sanitizeResource_slashes count resource, ?_, ?_⟩
    · rw [name]
      exact ⟨stripSlashes_head resource, plain⟩
    · rw [name, sanitizeResource_plain isUrn (by rw [stripped]; exact plain), stripped]
    · intro count
      rw [sanitizeResource_own isUrn, name]
    · rintro rest rfl
      have urn := hasPrefix_append urnPrefix rest
      rw [stripSlashes_of_head (by rw [head_of_urn urn]; decide), urn] at plain
      cases plain

end Names

/-- An archive without segments. -/
def empty (resourceID : Bytes) : ZipContainer where
  file := ⟨[], Nat.two_pow_pos 63⟩
  entries := []
  resourceID := resourceID
  inflate := fun _ _ => none

theorem uncovered_urn :
    (empty (text "aff4://c")).sanitizeResource (text "aff4://c//aff4://x") = text "aff4://x" ∧
      (empty (text "aff4://c")).sanitizeResource (text "aff4://x") = text "aff4%3A%2F%2Fx" ∧
      ¬(empty (text "aff4://c")).NamesAgree (text "aff4://x") := by
  refine ⟨by decide, by decide, ?_⟩
  intro agree
  exact absurd (agree.own 0) (by decide)

theorem namesAgree_iff_description :
    (empty (text "aff4://c")).NamesAgree (text "/container.description") ↔
      hasPrefix (stripSlashes (text "/container.description")) urnPrefix = false :=
  namesAgree_iff (by decide) _

end ZipContainer

end Aff4Lite.Containers
