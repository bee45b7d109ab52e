import Mathlib

/-!
# Ordered maps

`std::map` as a strictly sorted list of entries, with the iterator operations that
lookups by position use: `lower_bound`, the step back before an iterator, and the last
entry. Stepping back from `lower_bound` finds the greatest key at or below a position,
`floor?`; a map whose spans are chained covers every position below its limit.
-/

set_option autoImplicit false

namespace Aff4Lite.Lib

structure OrderedMap (Key Value : Type) [LinearOrder Key] where
  entries : List (Key × Value)
  sorted : entries.Pairwise fun left right => left.1 < right.1

namespace OrderedMap

variable {Key Value : Type} [LinearOrder Key]

def empty : OrderedMap Key Value := ⟨[], .nil⟩

def assign (key : Key) (value : Value) : List (Key × Value) → List (Key × Value)
  | [] => [(key, value)]
  | entry :: rest =>
      if key < entry.1 then (key, value) :: entry :: rest
      else if key = entry.1 then (key, value) :: rest
      else entry :: assign key value rest

theorem mem_assign {key : Key} {value : Value} {entries : List (Key × Value)}
    (sorted : entries.Pairwise fun left right => left.1 < right.1) {entry : Key × Value} :
    entry ∈ assign key value entries ↔
      entry = (key, value) ∨ entry ∈ entries ∧ entry.1 ≠ key := by
  induction entries with
  | nil => simp [assign]
  | cons head tail ih =>
      obtain ⟨headBelow, tailSorted⟩ := List.pairwise_cons.mp sorted
      rw [assign]
      split
      · rename_i before
        have others : ∀ other ∈ head :: tail, other.1 ≠ key := by
          intro other member
          rcases List.mem_cons.mp member with rfl | inTail
          · exact ne_of_gt before
          · exact ne_of_gt (before.trans (headBelow other inTail))
        rw [List.mem_cons]
        exact or_congr_right ⟨fun member => ⟨member, others _ member⟩, fun found => found.1⟩
      · split
        · rename_i _ same
          subst same
          have others : ∀ other ∈ tail, other.1 ≠ head.1 :=
            fun other member => ne_of_gt (headBelow other member)
          rw [List.mem_cons]
          refine or_congr_right ⟨fun member => ⟨.tail _ member, others _ member⟩, ?_⟩
          rintro ⟨member, different⟩
          rcases List.mem_cons.mp member with rfl | inTail
          · exact absurd rfl different
          · exact inTail
        · rename_i _ different
          rw [List.mem_cons, ih tailSorted, List.mem_cons]
          constructor
          · rintro (rfl | rfl | ⟨member, other⟩)
            · exact .inr ⟨.inl rfl, Ne.symm different⟩
            · exact .inl rfl
            · exact .inr ⟨.inr member, other⟩
          · rintro (rfl | ⟨rfl | member, other⟩)
            · exact .inr (.inl rfl)
            · exact .inl rfl
            · exact .inr (.inr ⟨member, other⟩)

theorem assign_sorted {key : Key} {value : Value} {entries : List (Key × Value)}
    (sorted : entries.Pairwise fun left right => left.1 < right.1) :
    (assign key value entries).Pairwise fun left right => left.1 < right.1 := by
  induction entries with
  | nil => simp [assign]
  | cons head tail ih =>
      obtain ⟨headBelow, tailSorted⟩ := List.pairwise_cons.mp sorted
      rw [assign]
      split
      · rename_i before
        refine List.pairwise_cons.mpr ⟨?_, sorted⟩
        intro other member
        rcases List.mem_cons.mp member with rfl | inTail
        · exact before
        · exact before.trans (headBelow other inTail)
      · split
        · rename_i _ same
          exact List.pairwise_cons.mpr
            ⟨fun other member => same ▸ headBelow other member, tailSorted⟩
        · rename_i notBefore different
          refine List.pairwise_cons.mpr ⟨?_, ih tailSorted⟩
          intro other member
          rcases (mem_assign tailSorted).mp member with rfl | ⟨inTail, _⟩
          · exact lt_of_le_of_ne (not_lt.mp notBefore) (Ne.symm different)
          · exact headBelow other inTail

/-- `map[key] = value` -/
def insert (map : OrderedMap Key Value) (key : Key) (value : Value) : OrderedMap Key Value :=
  ⟨assign key value map.entries, assign_sorted map.sorted⟩

@[simp] theorem entries_empty : (empty : OrderedMap Key Value).entries = [] := rfl

@[simp] theorem mem_insert {map : OrderedMap Key Value} {key : Key} {value : Value}
    {entry : Key × Value} :
    entry ∈ (map.insert key value).entries ↔
      entry = (key, value) ∨ entry ∈ map.entries ∧ entry.1 ≠ key :=
  mem_assign map.sorted

def HasKey (map : OrderedMap Key Value) (key : Key) : Prop :=
  ∃ value, (key, value) ∈ map.entries

@[simp] theorem hasKey_insert {map : OrderedMap Key Value} {key other : Key} {value : Value} :
    (map.insert key value).HasKey other ↔ other = key ∨ map.HasKey other := by
  simp only [HasKey, mem_insert, Prod.mk.injEq]
  constructor
  · rintro ⟨found, ⟨rfl, _⟩ | ⟨member, _⟩⟩
    · exact .inl rfl
    · exact .inr ⟨found, member⟩
  · rintro (rfl | ⟨found, member⟩)
    · exact ⟨value, .inl ⟨rfl, rfl⟩⟩
    · by_cases same : other = key
      · exact ⟨value, .inl ⟨same, rfl⟩⟩
      · exact ⟨found, .inr ⟨member, same⟩⟩

theorem keys_nodup (map : OrderedMap Key Value) : (map.entries.map (·.1)).Nodup :=
  List.pairwise_map.mpr (map.sorted.imp ne_of_lt)

theorem entry_unique (map : OrderedMap Key Value) {left right : Key × Value}
    (leftMember : left ∈ map.entries) (rightMember : right ∈ map.entries)
    (same : left.1 = right.1) : left = right :=
  List.inj_on_of_nodup_map map.keys_nodup leftMember rightMember same

/-- `find`, as the value that the iterator stands at. -/
def find? (map : OrderedMap Key Value) (key : Key) : Option Value :=
  (map.entries.find? fun entry => entry.1 = key).map (·.2)

@[simp] theorem find?_empty (key : Key) : (empty : OrderedMap Key Value).find? key = none := rfl

theorem find?_assign (key other : Key) (value : Value) (entries : List (Key × Value)) :
    ((assign key value entries).find? fun entry => entry.1 = other).map (·.2) =
      if other = key then some value
      else (entries.find? fun entry => entry.1 = other).map (·.2) := by
  induction entries with
  | nil => by_cases same : key = other <;> simp [assign, same, eq_comm]
  | cons head tail ih =>
      rw [assign]
      split
      · by_cases same : key = other <;> simp [same, eq_comm]
      · split
        · rename_i _ here
          by_cases same : key = other
          · simp [same]
          · have elsewhere : head.1 ≠ other := fun found => same (here.trans found)
            simp [same, elsewhere, Ne.symm same]
        · rename_i _ different
          by_cases found : head.1 = other
          · have unequal : other ≠ key := fun same => different (same.symm.trans found.symm)
            simp [found, unequal]
          · simpa [found] using ih

@[simp] theorem find?_insert (map : OrderedMap Key Value) (key other : Key) (value : Value) :
    (map.insert key value).find? other = if other = key then some value else map.find? other :=
  find?_assign key other value map.entries

theorem find?_eq_some_iff {map : OrderedMap Key Value} {key : Key} {value : Value} :
    map.find? key = some value ↔ (key, value) ∈ map.entries := by
  unfold find?
  constructor
  · intro found
    cases search : map.entries.find? fun entry => entry.1 = key with
    | none => simp [search] at found
    | some entry =>
        have member := List.mem_of_find?_eq_some search
        have same : entry.1 = key := by simpa using List.find?_some search
        simp only [search, Option.map_some, Option.some.injEq] at found
        rwa [← same, ← found]
  · intro member
    cases search : map.entries.find? fun entry => entry.1 = key with
    | none => simpa using List.find?_eq_none.mp search (key, value) member
    | some entry =>
        have same : entry.1 = key := by simpa using List.find?_some search
        rw [map.entry_unique (List.mem_of_find?_eq_some search) member same]
        rfl

private theorem find?_foldl_insert (wanted : Key → Prop) [DecidablePred wanted]
    {entries : List (Key × Value)} (distinct : (entries.map (·.1)).Nodup)
    (map : OrderedMap Key Value) (key : Key) :
    (entries.foldl (fun added entry =>
        if wanted entry.1 then added.insert entry.1 entry.2 else added) map).find? key =
      if wanted key then ((entries.find? fun entry => entry.1 = key).map (·.2)).or (map.find? key)
      else map.find? key := by
  induction entries generalizing map with
  | nil => simp
  | cons entry entries ih =>
      obtain ⟨fresh, distinct⟩ := List.nodup_cons.mp distinct
      rw [List.foldl_cons, ih distinct]
      by_cases same : entry.1 = key
      · have absent : entries.find? (fun other => other.1 = key) = none := by
          refine List.find?_eq_none.mpr ?_
          intro other member found
          have sameKey : other.1 = key := by simpa using found
          exact fresh (List.mem_map.mpr ⟨other, member, sameKey.trans same.symm⟩)
        rw [absent]
        subst same
        by_cases kept : wanted entry.1 <;> simp [kept]
      · by_cases kept : wanted entry.1
        · simp [kept, same, Ne.symm same]
        · simp [kept, same]

/-- The entries of `source`, inserted as far as their keys are wanted. -/
theorem find?_foldl_entries (wanted : Key → Prop) [DecidablePred wanted]
    (source map : OrderedMap Key Value) (key : Key) :
    (source.entries.foldl (fun added entry =>
        if wanted entry.1 then added.insert entry.1 entry.2 else added) map).find? key =
      if wanted key then (source.find? key).or (map.find? key) else map.find? key :=
  find?_foldl_insert wanted source.keys_nodup map key

/-- `erase(key)` -/
def erase (map : OrderedMap Key Value) (key : Key) : OrderedMap Key Value :=
  ⟨map.entries.filter fun entry => entry.1 ≠ key, map.sorted.filter _⟩

@[simp] theorem mem_erase {map : OrderedMap Key Value} {key : Key} {entry : Key × Value} :
    entry ∈ (map.erase key).entries ↔ entry ∈ map.entries ∧ entry.1 ≠ key := by
  simp [erase]

@[simp] theorem find?_erase (map : OrderedMap Key Value) (key other : Key) :
    (map.erase key).find? other = if other = key then none else map.find? other := by
  ext value
  rw [find?_eq_some_iff, mem_erase]
  by_cases same : other = key
  · simp [same]
  · simp [same, find?_eq_some_iff]

/-! ## Positions -/

/-- `lower_bound`: the first entry whose key is not below `position`. -/
def lowerBound (map : OrderedMap Key Value) (position : Key) : Option (Key × Value) :=
  map.entries.find? fun entry => position ≤ entry.1

/-- The entry before an iterator that stands at `key`. -/
def stepBack (map : OrderedMap Key Value) (key : Key) : Option (Key × Value) :=
  (map.entries.filter fun entry => entry.1 < key).getLast?

def last? (map : OrderedMap Key Value) : Option (Key × Value) := map.entries.getLast?

/-- The entry with the greatest key at or below `position`. -/
def floor? (map : OrderedMap Key Value) (position : Key) : Option (Key × Value) :=
  (map.entries.filter fun entry => entry.1 ≤ position).getLast?

private theorem getLast?_greatest {entries : List (Key × Value)}
    (sorted : entries.Pairwise fun left right => left.1 < right.1) {entry : Key × Value}
    (last : entries.getLast? = some entry) : ∀ other ∈ entries, other.1 ≤ entry.1 := by
  obtain ⟨front, rfl⟩ := List.getLast?_eq_some_iff.mp last
  intro other member
  rcases List.mem_append.mp member with inFront | isLast
  · exact le_of_lt ((List.pairwise_append.mp sorted).2.2 other inFront entry (by simp))
  · exact le_of_eq (congrArg Prod.fst (List.mem_singleton.mp isLast))

theorem floor?_some {map : OrderedMap Key Value} {position : Key} {entry : Key × Value}
    (found : map.floor? position = some entry) :
    entry ∈ map.entries ∧ entry.1 ≤ position ∧
      ∀ other ∈ map.entries, other.1 ≤ position → other.1 ≤ entry.1 := by
  have member := List.mem_filter.mp (List.mem_of_getLast? found)
  refine ⟨member.1, of_decide_eq_true member.2, ?_⟩
  intro other otherMember below
  exact getLast?_greatest (map.sorted.filter _) found other
    (List.mem_filter.mpr ⟨otherMember, decide_eq_true below⟩)

theorem floor?_of_greatest {map : OrderedMap Key Value} {position : Key} {entry : Key × Value}
    (member : entry ∈ map.entries) (below : entry.1 ≤ position)
    (greatest : ∀ other ∈ map.entries, other.1 ≤ position → other.1 ≤ entry.1) :
    map.floor? position = some entry := by
  cases found : map.floor? position with
  | none =>
      have excluded := List.filter_eq_nil_iff.mp (List.getLast?_eq_none_iff.mp found) entry member
      exact absurd (decide_eq_true below) excluded
  | some other =>
      obtain ⟨otherMember, otherBelow, otherGreatest⟩ := floor?_some found
      have same := le_antisymm (greatest other otherMember otherBelow)
        (otherGreatest entry member below)
      rw [map.entry_unique otherMember member same]

theorem exists_floor? {map : OrderedMap Key Value} {position : Key} {entry : Key × Value}
    (member : entry ∈ map.entries) (below : entry.1 ≤ position) :
    ∃ found, map.floor? position = some found := by
  cases result : map.floor? position with
  | some found => exact ⟨found, rfl⟩
  | none =>
      have excluded := List.filter_eq_nil_iff.mp (List.getLast?_eq_none_iff.mp result) entry member
      exact absurd (decide_eq_true below) excluded

theorem lowerBound_some {map : OrderedMap Key Value} {position : Key} {entry : Key × Value}
    (found : map.lowerBound position = some entry) :
    entry ∈ map.entries ∧ position ≤ entry.1 ∧
      ∀ other ∈ map.entries, other.1 < entry.1 → other.1 < position := by
  obtain ⟨reaches, front, back, split, below⟩ := List.find?_eq_some_iff_append.mp found
  have sorted := map.sorted
  rw [split] at sorted
  refine ⟨split ▸ (by simp), of_decide_eq_true reaches, ?_⟩
  intro other member less
  rw [split] at member
  rcases List.mem_append.mp member with inFront | inBack
  · simpa using below other inFront
  · rcases List.mem_cons.mp inBack with rfl | later
    · exact absurd less (lt_irrefl _)
    · have greater := (List.pairwise_cons.mp (List.pairwise_append.mp sorted).2.1).1 other later
      exact absurd less (not_lt_of_gt greater)

theorem floor?_of_lowerBound_eq {map : OrderedMap Key Value} {entry : Key × Value}
    (found : map.lowerBound entry.1 = some entry) : map.floor? entry.1 = some entry :=
  floor?_of_greatest (lowerBound_some found).1 le_rfl fun _ _ below => below

/-- `lower_bound` went one entry too far; the entry before it is the floor. -/
theorem stepBack_of_lowerBound {map : OrderedMap Key Value} {position : Key}
    {entry : Key × Value} (found : map.lowerBound position = some entry)
    (above : position < entry.1) : map.stepBack entry.1 = map.floor? position := by
  obtain ⟨_, _, gap⟩ := lowerBound_some found
  have same : (map.entries.filter fun other => other.1 < entry.1) =
      map.entries.filter fun other => other.1 ≤ position := by
    apply List.filter_congr
    intro other member
    exact decide_eq_decide.mpr
      ⟨fun less => le_of_lt (gap other member less), fun below => lt_of_le_of_lt below above⟩
  rw [stepBack, floor?, same]

theorem last?_of_lowerBound_none {map : OrderedMap Key Value} {position : Key}
    (missing : map.lowerBound position = none) : map.last? = map.floor? position := by
  have all : (map.entries.filter fun entry => entry.1 ≤ position) = map.entries := by
    apply List.filter_eq_self.mpr
    intro entry member
    have below := List.find?_eq_none.mp missing entry member
    simp only [decide_eq_true_eq, not_le] at below
    exact decide_eq_true (le_of_lt below)
  rw [last?, floor?, all]

/-! ## Chained spans -/

/-- Every entry below `limit` spans at least one position, and where its span ends there
is another key or the limit. -/
structure Chained {Value : Type} (map : OrderedMap Nat Value) (span : Value → Nat)
    (limit : Nat) : Prop where
  origin : map.HasKey 0
  positive : ∀ entry ∈ map.entries, entry.1 < limit → 0 < span entry.2
  linked : ∀ entry ∈ map.entries, entry.1 < limit →
    map.HasKey (entry.1 + span entry.2) ∨ limit ≤ entry.1 + span entry.2

/-- In a chained map the floor of every position below the limit spans it. -/
theorem Chained.floor {Value : Type} {map : OrderedMap Nat Value} {span : Value → Nat}
    {limit position : Nat} (chained : map.Chained span limit) (inside : position < limit) :
    ∃ entry, map.floor? position = some entry ∧ entry ∈ map.entries ∧ entry.1 ≤ position ∧
      position < entry.1 + span entry.2 := by
  obtain ⟨value, origin⟩ := chained.origin
  obtain ⟨entry, found⟩ := exists_floor? origin (Nat.zero_le position)
  obtain ⟨member, below, greatest⟩ := floor?_some found
  have entryInside : entry.1 < limit := by omega
  refine ⟨entry, found, member, below, ?_⟩
  by_contra ended
  rcases chained.linked entry member entryInside with ⟨next, nextMember⟩ | past
  · have nextBelow := greatest _ nextMember (by dsimp only; omega)
    have positive := chained.positive entry member entryInside
    dsimp only at nextBelow
    omega
  · omega

end OrderedMap

end Aff4Lite.Lib
