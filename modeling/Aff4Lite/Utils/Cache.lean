import Aff4Lite.Lib.Word

/-!
# `aff4::util::cache`

The LRU cache with a loader function. `items` is `cacheItems`, most recently used first;
`cacheMap` only points into it. The loader may change the state of the world, and has no
result where it runs into undefined behaviour.
-/

set_option autoImplicit false

namespace Aff4Lite.Utils

open Lib

structure Cache (Key Value : Type) where
  maxSize : U64
  items : List (Key × Value)

namespace Cache

variable {Key Value World : Type} [DecidableEq Key]

def empty (maxSize : U64) : Cache Key Value := ⟨maxSize, []⟩

def find (cache : Cache Key Value) (key : Key) : Option Value :=
  (cache.items.find? fun item => item.1 = key).map Prod.snd

/-- The list with `key` in front and nowhere else. -/
def front (cache : Cache Key Value) (key : Key) (value : Value) : List (Key × Value) :=
  (key, value) :: cache.items.filter fun item => item.1 ≠ key

/-- `splice` of a cached element to the front. -/
def touch (cache : Cache Key Value) (key : Key) (value : Value) : Cache Key Value :=
  { cache with items := cache.front key value }

def put (cache : Cache Key Value) (key : Key) (value : Value) : Cache Key Value :=
  let items := cache.front key value
  { cache with items := if items.length > cache.maxSize.toNat then items.dropLast else items }

/-- `none` where the loader has no result, and where the new element was evicted at once and
an iterator behind the end is dereferenced. -/
def get (cache : Cache Key Value) (key : Key) (loader : World → Option (Value × World))
    (world : World) : Option (Value × Cache Key Value × World) :=
  match cache.find key with
  | some value => some (value, cache.touch key value, world)
  | none =>
      match loader world with
      | none => none
      | some (loaded, world) =>
          let cache := cache.put key loaded
          match cache.find key with
          | none => none
          | some value => some (value, cache.touch key value, world)

/-! ## Properties -/

/-- Every cached value is good for its key. -/
def All (good : Key → Value → Prop) (cache : Cache Key Value) : Prop :=
  ∀ item ∈ cache.items, good item.1 item.2

variable {good : Key → Value → Prop} {cache : Cache Key Value} {key : Key} {value : Value}

theorem All.find (all : All good cache) (found : cache.find key = some value) : good key value := by
  obtain ⟨item, first, rfl⟩ := Option.map_eq_some_iff.mp found
  have same : item.1 = key := by simpa using List.find?_some first
  rw [← same]
  exact all item (List.mem_of_find?_eq_some first)

theorem All.front (all : All good cache) (fits : good key value) :
    ∀ item ∈ cache.front key value, good item.1 item.2 := by
  intro item member
  rcases List.mem_cons.mp member with rfl | other
  · exact fits
  · exact all item (List.mem_filter.mp other).1

theorem All.put (all : All good cache) (fits : good key value) :
    All good (cache.put key value) := by
  intro item member
  unfold Cache.put at member
  dsimp only at member
  split at member
  · exact all.front fits item (List.dropLast_subset _ member)
  · exact all.front fits item member

theorem get_preserves {loader : World → Option (Value × World)} {holds : World → Prop}
    {world : World} (all : All good cache) (before : holds world)
    (loads : ∀ loaded after, loader world = some (loaded, after) → good key loaded ∧ holds after)
    {result : Value × Cache Key Value × World} (got : cache.get key loader world = some result) :
    good key result.1 ∧ All good result.2.1 ∧ result.2.1.maxSize = cache.maxSize ∧
      holds result.2.2 := by
  cases present : cache.find key with
  | some value =>
      simp only [get, present] at got
      cases got
      have fits := all.find present
      exact ⟨fits, all.front fits, rfl, before⟩
  | none =>
      cases ran : loader world with
      | none => simp [get, present, ran] at got
      | some loaded =>
          obtain ⟨fits, after⟩ := loads loaded.1 loaded.2 ran
          cases stored : (cache.put key loaded.1).find key with
          | none => simp [get, present, ran, stored] at got
          | some value =>
              simp only [get, present, ran, stored] at got
              cases got
              have kept := (all.put fits).find stored
              exact ⟨kept, (all.put fits).front kept, rfl, after⟩

theorem get_keeps {loader : World → Option (Value × World)} {holds : World → Prop} {world : World}
    (before : holds world)
    (loads : ∀ loaded after, loader world = some (loaded, after) → holds after)
    {result : Value × Cache Key Value × World} (got : cache.get key loader world = some result) :
    holds result.2.2 := by
  have all : All (fun _ _ => True) cache := fun _ _ => trivial
  have kept := get_preserves all before (fun loaded after ran => ⟨trivial, loads loaded after ran⟩)
    got
  exact kept.2.2.2

private theorem find_put (capacity : 0 < cache.maxSize.toNat) (value : Value) :
    (cache.put key value).find key = some value := by
  have first : ∃ rest, (cache.put key value).items = (key, value) :: rest := by
    unfold Cache.put Cache.front
    dsimp only
    split
    · rename_i full
      rw [List.length_cons] at full
      refine ⟨_, List.dropLast_cons_of_ne_nil ?_⟩
      exact List.ne_nil_of_length_pos (by omega)
    · exact ⟨_, rfl⟩
  obtain ⟨rest, items⟩ := first
  unfold Cache.find
  rw [items, List.find?_cons_of_pos (by simp)]
  rfl

theorem get_total {loader : World → Option (Value × World)} {world : World}
    (capacity : 0 < cache.maxSize.toNat) (loads : ∃ loaded, loader world = some loaded) :
    ∃ result, cache.get key loader world = some result := by
  obtain ⟨loaded, ran⟩ := loads
  cases present : cache.find key with
  | some value => simp [get, present]
  | none => simp [get, present, ran, find_put capacity]

/-- A cache without room loses what was loaded. -/
theorem get_empty_none {loader : World → Option (Value × World)} {world : World}
    {loaded : Value × World} (ran : loader world = some loaded) :
    (empty 0 : Cache Key Value).get key loader world = none := by
  have evicted : ((empty 0 : Cache Key Value).put key loaded.1).find key = none := rfl
  unfold get
  rw [show (empty 0 : Cache Key Value).find key = none from rfl, ran]
  dsimp only
  rw [evicted]

theorem get_empty_some {loader : World → Option (Value × World)} {world : World}
    {loaded : Value × World} {maxSize : U64} (capacity : 0 < maxSize.toNat)
    (ran : loader world = some loaded) :
    ∃ cache, (empty maxSize : Cache Key Value).get key loader world =
      some (loaded.1, cache, loaded.2) := by
  have found : ((empty maxSize : Cache Key Value).put key loaded.1).find key = some loaded.1 :=
    find_put capacity loaded.1
  unfold get
  rw [show (empty maxSize : Cache Key Value).find key = none from rfl, ran]
  dsimp only
  rw [found]
  exact ⟨_, rfl⟩

/-! ## Two caches -/

section Related

variable {Other World' : Type} {related : Value → Other → Prop} {worlds : World → World' → Prop}
  {left : Cache Key Value} {right : Cache Key Other}

/-- Caches of the same keys in the same order, with related values. -/
structure Rel (related : Value → Other → Prop) (left : Cache Key Value)
    (right : Cache Key Other) : Prop where
  maxSize : left.maxSize = right.maxSize
  items : List.Forall₂ (fun item other => item.1 = other.1 ∧ related item.2 other.2)
    left.items right.items

theorem Rel.find (rel : Rel related left right) (key : Key) :
    Option.Rel related (left.find key) (right.find key) := by
  unfold Cache.find
  have items := rel.items
  generalize left.items = first at items ⊢
  generalize right.items = second at items ⊢
  induction items with
  | nil => exact .none
  | @cons item other items others same _ ih =>
      by_cases here : item.1 = key
      · rw [List.find?_cons_of_pos (by simpa using here),
          List.find?_cons_of_pos (by simpa [← same.1] using here)]
        exact .some same.2
      · rw [List.find?_cons_of_neg (by simpa using here),
          List.find?_cons_of_neg (by simpa [← same.1] using here)]
        exact ih

theorem Rel.front (rel : Rel related left right) (key : Key) {value : Value} {other : Other}
    (fits : related value other) :
    List.Forall₂ (fun item other => item.1 = other.1 ∧ related item.2 other.2)
      (left.front key value) (right.front key other) := by
  refine .cons ⟨rfl, fits⟩ ?_
  have items := rel.items
  generalize left.items = first at items ⊢
  generalize right.items = second at items ⊢
  induction items with
  | nil => exact .nil
  | @cons item other items others same _ ih =>
      by_cases here : item.1 = key
      · rw [List.filter_cons_of_neg (by simpa using here),
          List.filter_cons_of_neg (by simpa [← same.1] using here)]
        exact ih
      · rw [List.filter_cons_of_pos (by simpa using here),
          List.filter_cons_of_pos (by simpa [← same.1] using here)]
        exact .cons same ih

theorem Rel.touch (rel : Rel related left right) (key : Key) {value : Value} {other : Other}
    (fits : related value other) : Rel related (left.touch key value) (right.touch key other) :=
  ⟨rel.maxSize, rel.front key fits⟩

theorem Rel.put (rel : Rel related left right) (key : Key) {value : Value} {other : Other}
    (fits : related value other) : Rel related (left.put key value) (right.put key other) := by
  have front := rel.front key fits
  refine ⟨rel.maxSize, ?_⟩
  unfold Cache.put
  dsimp only
  rw [front.length_eq, rel.maxSize]
  split
  · rw [List.dropLast_eq_take, List.dropLast_eq_take, front.length_eq]
    exact List.forall₂_take _ front
  · exact front

theorem Rel.get (rel : Rel related left right) (key : Key) {loader : World → Option (Value × World)}
    {other : World' → Option (Other × World')} {world : World} {world' : World'}
    (together : worlds world world')
    (loads : Option.Rel (fun loaded loaded' => related loaded.1 loaded'.1 ∧
      worlds loaded.2 loaded'.2) (loader world) (other world')) :
    Option.Rel (fun result result' => related result.1 result'.1 ∧
        Rel related result.2.1 result'.2.1 ∧ worlds result.2.2 result'.2.2)
      (left.get key loader world) (right.get key other world') := by
  have found := rel.find key
  unfold Cache.get
  generalize left.find key = first at found ⊢
  generalize right.find key = second at found ⊢
  cases found with
  | some fits => exact .some ⟨fits, rel.touch key fits, together⟩
  | none =>
      dsimp only
      generalize loader world = ran at loads ⊢
      generalize other world' = again at loads ⊢
      cases loads with
      | none => exact .none
      | @some loaded loaded' fits =>
          have stored := rel.put key fits.1
          have refound := stored.find key
          dsimp only
          generalize (left.put key loaded.1).find key = kept at refound ⊢
          generalize (right.put key loaded'.1).find key = keptToo at refound ⊢
          cases refound with
          | none => exact .none
          | some value => exact .some ⟨value, stored.touch key value, fits.2⟩

end Related

end Cache

end Aff4Lite.Utils
