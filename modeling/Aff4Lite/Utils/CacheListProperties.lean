import Aff4Lite.Utils.Cache
import Aff4Lite.Utils.CacheList

/-!
The list and the map of a cache stay in one-to-one correspondence through every call, nested
ones included. With a loader that does not call the cache, the list holds the keys in the
order in which they were last asked for.
-/

set_option autoImplicit false

namespace Aff4Lite.Utils

open Lib

namespace CacheList

variable {Key Value : Type}

def keys (cache : CacheList Key Value) : List Key := cache.cacheItems.map Node.key

/-- The entry of `cacheMap` for a node. -/
def entry (node : Node Key Value) : Key × Nat := (node.key, node.id)

/-- Every node has one entry that points to it, and no key stands twice. -/
structure Linked (cache : CacheList Key Value) : Prop where
  keys : cache.keys.Nodup
  ids : (cache.cacheItems.map Node.id).Nodup
  fresh : ∀ node ∈ cache.cacheItems, node.id < cache.nextId
  mapped : cache.cacheMap.Perm (cache.cacheItems.map entry)

section Linked

variable {cache : CacheList Key Value} {node other : Node Key Value}

private theorem empty_linked (maxSize : U64) : (empty maxSize : CacheList Key Value).Linked :=
  ⟨.nil, .nil, by simp [empty], .nil⟩

theorem Linked.size (linked : cache.Linked) : cache.size = cache.cacheItems.length := by
  rw [CacheList.size, linked.mapped.length_eq, List.length_map]

private theorem Linked.node_of_key (linked : cache.Linked) (left : node ∈ cache.cacheItems)
    (right : other ∈ cache.cacheItems) (same : node.key = other.key) : node = other :=
  List.inj_on_of_nodup_map linked.keys left right same

private theorem Linked.node_of_id (linked : cache.Linked) (left : node ∈ cache.cacheItems)
    (right : other ∈ cache.cacheItems) (same : node.id = other.id) : node = other :=
  List.inj_on_of_nodup_map linked.ids left right same

private theorem Linked.of_perm (linked : cache.Linked) {items : List (Node Key Value)}
    (perm : items.Perm cache.cacheItems) : { cache with cacheItems := items }.Linked := by
  refine ⟨?_, ?_, ?_, ?_⟩
  · exact (perm.map Node.key).nodup_iff.mpr linked.keys
  · exact (perm.map Node.id).nodup_iff.mpr linked.ids
  · exact fun node member => linked.fresh node (perm.mem_iff.mp member)
  · exact linked.mapped.trans (perm.map entry).symm

variable [DecidableEq Key]

private theorem Linked.find_some (linked : cache.Linked) {key : Key} {it : Nat}
    (found : cache.find key = some it) :
    ∃ node ∈ cache.cacheItems, node.key = key ∧ node.id = it := by
  obtain ⟨mapEntry, first, rfl⟩ := Option.map_eq_some_iff.mp found
  have same : mapEntry.1 = key := by simpa using List.find?_some first
  obtain ⟨node, member, rfl⟩ :=
    List.mem_map.mp (linked.mapped.mem_iff.mp (List.mem_of_find?_eq_some first))
  exact ⟨node, member, same, rfl⟩

private theorem Linked.find_none (linked : cache.Linked) {key : Key}
    (missing : cache.find key = none) :
    ∀ node ∈ cache.cacheItems, node.key ≠ key := by
  intro node member same
  have absent := List.find?_eq_none.mp (Option.map_eq_none_iff.mp missing) (entry node)
    (linked.mapped.mem_iff.mpr (List.mem_map_of_mem member))
  simp [entry, same] at absent

private theorem Linked.find_node (linked : cache.Linked) (member : node ∈ cache.cacheItems) :
    cache.find node.key = some node.id := by
  cases found : cache.find node.key with
  | none => exact absurd rfl (linked.find_none found node member)
  | some it =>
      obtain ⟨other, otherMember, sameKey, rfl⟩ := linked.find_some found
      rw [linked.node_of_key otherMember member sameKey]

private theorem Linked.filter_id (linked : cache.Linked) (member : node ∈ cache.cacheItems) :
    (cache.cacheItems.filter fun other => other.id ≠ node.id) =
      cache.cacheItems.filter fun other => other.key ≠ node.key := by
  apply List.filter_congr
  intro other otherMember
  have iff : other.id = node.id ↔ other.key = node.key := by
    constructor
    · intro same
      rw [linked.node_of_id otherMember member same]
    · intro same
      rw [linked.node_of_key otherMember member same]
  simp [iff]

private theorem Linked.front_perm (linked : cache.Linked) (member : node ∈ cache.cacheItems) :
    (node :: cache.cacheItems.filter fun other => other.key ≠ node.key).Perm cache.cacheItems := by
  have nodup : cache.cacheItems.Nodup := linked.keys.of_map
  have apart : (node :: cache.cacheItems.filter fun other => other.key ≠ node.key).Nodup :=
    List.nodup_cons.mpr ⟨by simp, nodup.filter _⟩
  refine (List.perm_ext_iff_of_nodup apart nodup).mpr fun other => ?_
  by_cases same : other.key = node.key
  · constructor
    · intro listed
      obtain rfl | late := List.mem_cons.mp listed
      · exact member
      · exact (List.mem_filter.mp late).1
    · intro listed
      rw [linked.node_of_key listed member same]
      exact List.mem_cons_self
  · have different : other ≠ node := fun equal => same (congrArg Node.key equal)
    simp [same, different]

theorem Linked.splice (linked : cache.Linked) (member : node ∈ cache.cacheItems) :
    cache.splice node.id = some (node, { cache with
      cacheItems := node :: cache.cacheItems.filter fun other => other.key ≠ node.key }) := by
  unfold CacheList.splice
  cases found : cache.cacheItems.find? fun other => other.id = node.id with
  | none =>
      have absent := List.find?_eq_none.mp found node member
      simp at absent
  | some other =>
      have same : other.id = node.id := by simpa using List.find?_some found
      rw [linked.node_of_id (List.mem_of_find?_eq_some found) member same, linked.filter_id member]

private theorem erase_perm {cacheMap : List (Key × Nat)} {items : List (Node Key Value)}
    (mapped : cacheMap.Perm (items.map entry)) (key : Key) :
    (erase cacheMap key).Perm ((items.filter fun node => node.key ≠ key).map entry) := by
  unfold erase
  refine (mapped.filter fun pair => pair.1 ≠ key).trans (.of_eq ?_)
  rw [List.filter_map]
  rfl

/-- The new node in front, and no other node with its key. -/
def stored (cache : CacheList Key Value) (key : Key) (value : Value) : CacheList Key Value :=
  { cache with
    cacheItems := ⟨cache.nextId, key, value⟩ :: cache.cacheItems.filter fun node => node.key ≠ key
    cacheMap := (key, cache.nextId) :: erase cache.cacheMap key
    nextId := cache.nextId + 1 }

theorem Linked.stored (linked : cache.Linked) (key : Key) (value : Value) :
    (cache.stored key value).Linked := by
  unfold CacheList.stored
  refine ⟨?_, ?_, ?_, ?_⟩
  · refine List.nodup_cons.mpr ⟨by simp, ?_⟩
    exact linked.keys.sublist (List.filter_sublist.map Node.key)
  · refine List.nodup_cons.mpr ⟨?_, linked.ids.sublist (List.filter_sublist.map Node.id)⟩
    intro member
    obtain ⟨node, listed, same⟩ := List.mem_map.mp member
    have old := linked.fresh node (List.mem_filter.mp listed).1
    exact absurd same (Nat.ne_of_lt old)
  · intro node member
    obtain rfl | late := List.mem_cons.mp member
    · exact Nat.lt_succ_self _
    · exact Nat.lt_succ_of_lt (linked.fresh node (List.mem_filter.mp late).1)
  · exact (erase_perm linked.mapped key).cons _

private theorem erase_erase (cacheMap : List (Key × Nat)) (key : Key) :
    erase (erase cacheMap key) key = erase cacheMap key := by
  simp [erase]

/-- The three steps of `put` before the eviction. -/
theorem Linked.put_stored (linked : cache.Linked) (key : Key) (value : Value) :
    cache.put key value = (cache.stored key value).evict := by
  unfold put
  cases found : cache.find key with
  | none =>
      have absent := linked.find_none found
      have same : (cache.cacheItems.filter fun node => node.key ≠ key) = cache.cacheItems :=
        List.filter_eq_self.mpr fun node member => by simpa using absent node member
      simp only [eraseOld, pushFront, mapFront, List.head?_cons, Option.map_some, Option.bind_some,
        CacheList.stored, same]
  | some old =>
      obtain ⟨node, member, rfl, rfl⟩ := linked.find_some found
      have different : cache.nextId ≠ node.id := (Nat.ne_of_lt (linked.fresh node member)).symm
      have kept := linked.filter_id member
      simp only [eraseOld, pushFront, mapFront, ne_eq, different, not_false_eq_true, decide_true,
        List.filter_cons_of_pos, List.head?_cons, Option.map_some, Option.bind_some, erase_erase,
        CacheList.stored] at kept ⊢
      rw [kept]

theorem Linked.dropLast (linked : cache.Linked) {last : Node Key Value}
    (isLast : cache.cacheItems.getLast? = some last) :
    { cache with
      cacheItems := cache.cacheItems.dropLast
      cacheMap := erase cache.cacheMap last.key }.Linked := by
  obtain ⟨front, split⟩ := List.getLast?_eq_some_iff.mp isLast
  have shorter : cache.cacheItems.dropLast.Sublist cache.cacheItems := List.dropLast_sublist _
  refine ⟨?_, ?_, ?_, ?_⟩
  · exact linked.keys.sublist (shorter.map Node.key)
  · exact linked.ids.sublist (shorter.map Node.id)
  · exact fun node member => linked.fresh node (shorter.subset member)
  · have nodup := linked.keys
    rw [CacheList.keys, split, List.map_append] at nodup
    have apart := (List.nodup_append.mp nodup).2.2
    have others : ∀ node ∈ front, node.key ≠ last.key := by
      intro node member
      exact apart node.key (List.mem_map_of_mem member) last.key (by simp)
    have kept : (cache.cacheItems.filter fun node => node.key ≠ last.key) =
        cache.cacheItems.dropLast := by
      rw [split, List.filter_append, List.dropLast_concat,
        List.filter_eq_self.mpr fun node member => by simpa using others node member]
      simp
    exact kept ▸ erase_perm linked.mapped last.key

/-- `put` keeps the correspondence, and drops the last node where there are too many. -/
theorem Linked.put (linked : cache.Linked) (key : Key) (value : Value) :
    ∃ after, cache.put key value = some after ∧ after.Linked ∧ after.maxSize = cache.maxSize ∧
      after.cacheItems =
        if (cache.stored key value).cacheItems.length > cache.maxSize.toNat then
          (cache.stored key value).cacheItems.dropLast
        else (cache.stored key value).cacheItems := by
  have kept := linked.stored key value
  have size := kept.size
  unfold CacheList.size at size
  rw [linked.put_stored]
  have capacity : (cache.stored key value).maxSize = cache.maxSize := rfl
  unfold evict
  rw [size, capacity]
  by_cases full : (cache.stored key value).cacheItems.length > cache.maxSize.toNat
  · obtain ⟨last, isLast⟩ : ∃ last, (cache.stored key value).cacheItems.getLast? = some last :=
      ⟨_, List.getLast?_eq_some_getLast (List.cons_ne_nil _ _)⟩
    rw [if_pos full, if_pos full, isLast]
    exact ⟨_, rfl, kept.dropLast isLast, rfl, rfl⟩
  · rw [if_neg full, if_neg full]
    exact ⟨_, rfl, kept, rfl, rfl⟩

end Linked

/-- The capacity holds, and every value is the one of its key. -/
structure Holds (cache : CacheList Key Value) (values : Key → Value) : Prop where
  linked : cache.Linked
  bounded : cache.cacheItems.length ≤ cache.maxSize.toNat
  value : ∀ node ∈ cache.cacheItems, node.value = values node.key

end CacheList

namespace CacheRun

open CacheList

variable {Key Value : Type} {values : Key → Value}

/-- What every call of the cache keeps: the cache, and that the loader was only asked for keys
that were not cached. -/
structure Sound (run : CacheRun Key Value) (values : Key → Value) : Prop where
  cache : run.cache.Holds values
  loads : ∀ load ∈ run.loads, load.key ∉ load.before.keys ∧ load.before.Holds values

variable [DecidableEq Key]

private theorem touch_node {run : CacheRun Key Value} (sound : run.Sound values)
    {node : Node Key Value}
    (member : node ∈ run.cache.cacheItems) :
    ∃ after, run.touch node.id = some (node.value, after) ∧ after.Sound values ∧
      after.cache.maxSize = run.cache.maxSize ∧
      after.cache.cacheItems =
        node :: run.cache.cacheItems.filter fun other => other.key ≠ node.key := by
  have perm := sound.cache.linked.front_perm member
  rw [touch, sound.cache.linked.splice member]
  refine ⟨_, rfl, ⟨⟨sound.cache.linked.of_perm perm, ?_, ?_⟩, sound.loads⟩, rfl, rfl⟩
  · rw [perm.length_eq]
    exact sound.cache.bounded
  · exact fun other listed => sound.cache.value other (perm.mem_iff.mp listed)

private theorem keys_filter (cache : CacheList Key Value) (key : Key) :
    (cache.cacheItems.filter fun node => node.key ≠ key).map Node.key =
      cache.keys.filter fun other => other ≠ key := by
  rw [CacheList.keys, List.filter_map]
  rfl

private theorem put_sound {run : CacheRun Key Value} (sound : run.Sound values)
    (capacity : 0 < run.cache.maxSize.toNat) (key : Key) :
    ∃ cache rest, run.cache.put key (values key) = some cache ∧ cache.Holds values ∧
      cache.maxSize = run.cache.maxSize ∧
      cache.cacheItems = ⟨run.cache.nextId, key, values key⟩ :: rest ∧
      (∀ node ∈ rest, node.key ≠ key) ∧
      rest.map Node.key =
        (run.cache.keys.filter fun other => other ≠ key).take (run.cache.maxSize.toNat - 1) := by
  obtain ⟨cache, stored, linked, sameSize, items⟩ := sound.cache.linked.put key (values key)
  obtain ⟨room, size⟩ : ∃ room, run.cache.maxSize.toNat = room + 1 :=
    ⟨run.cache.maxSize.toNat - 1, by omega⟩
  have fewer := (run.cache.cacheItems.length_filter_le fun node => node.key ≠ key).trans
    sound.cache.bounded
  have taken : cache.cacheItems = ⟨run.cache.nextId, key, values key⟩ ::
      (run.cache.cacheItems.filter fun node => node.key ≠ key).take room := by
    rw [items]
    unfold CacheList.stored
    rw [← List.take_succ_cons, ← size]
    split
    · rename_i full
      rw [List.dropLast_eq_take]
      congr 1
      rw [List.length_cons] at full ⊢
      omega
    · rename_i fits
      exact (List.take_of_length_le (not_lt.mp fits)).symm
  refine ⟨cache, _, stored, ⟨linked, ?_, ?_⟩, sameSize, taken, ?_, ?_⟩
  · rw [taken, sameSize, size, List.length_cons, List.length_take]
    omega
  · intro node member
    rw [taken] at member
    obtain rfl | late := List.mem_cons.mp member
    · rfl
    · exact sound.cache.value node (List.mem_filter.mp (List.mem_of_mem_take late)).1
  · intro node member
    simpa using (List.mem_filter.mp (List.mem_of_mem_take member)).2
  · rw [List.map_take, keys_filter, size, Nat.add_sub_cancel]

/-- A key that was stored and touched stands in front of the others, as many as there is room. -/
theorem store_sound {run : CacheRun Key Value} (sound : run.Sound values)
    (capacity : 0 < run.cache.maxSize.toNat) (key : Key) :
    ∃ after, run.store key (values key) = some (values key, after) ∧ after.Sound values ∧
      after.cache.maxSize = run.cache.maxSize ∧
      after.cache.keys =
        (key :: run.cache.keys.filter fun other => other ≠ key).take run.cache.maxSize.toNat := by
  obtain ⟨cache, rest, stored, holds, sameSize, items, others, kept⟩ := put_sound sound capacity key
  have soundAfter : Sound { run with cache := cache } values := ⟨holds, sound.loads⟩
  have member : ⟨run.cache.nextId, key, values key⟩ ∈ cache.cacheItems := by
    rw [items]
    exact List.mem_cons_self
  obtain ⟨after, touched, soundTouched, size, front⟩ := touch_node soundAfter member
  have found : cache.find key = some run.cache.nextId := holds.linked.find_node member
  obtain ⟨room, capacityRoom⟩ : ∃ room, run.cache.maxSize.toNat = room + 1 :=
    ⟨run.cache.maxSize.toNat - 1, by omega⟩
  refine ⟨after, ?_, soundTouched, size.trans sameSize, ?_⟩
  · simp only [store, stored, found]
    exact touched
  · have unchanged : (rest.filter fun node => node.key ≠ key) = rest :=
      List.filter_eq_self.mpr fun node listed => by simpa using others node listed
    rw [CacheList.keys, front]
    dsimp only
    rw [items, List.filter_cons_of_neg (by simp), unchanged, List.map_cons, kept, capacityRoom,
      List.take_succ_cons, Nat.add_sub_cancel]

/-! ## Calls -/

/-- A call for `key` returns its value, with the cache in order, when loads may nest `fuel` deep. -/
def Serves (loader : Key → Script Key Value) (values : Key → Value) (fuel : Nat) (key : Key) :
    Prop :=
  ∀ run : CacheRun Key Value, run.Sound values → 0 < run.cache.maxSize.toNat →
    ∃ after, get loader fuel key run = some (values key, after) ∧ after.Sound values ∧
      after.cache.maxSize = run.cache.maxSize

private theorem load_sound {loader : Key → Script Key Value} (script : Script Key Value)
    (nested : ∀ key ∈ script.requests values, ∃ fuel, ∀ more, fuel ≤ more →
      Serves loader values more key) :
    ∃ fuel, ∀ more, fuel ≤ more → ∀ run : CacheRun Key Value, run.Sound values →
      0 < run.cache.maxSize.toNat →
      ∃ after, load (get loader more) script run = some (script.value values, after) ∧
        after.Sound values ∧ after.cache.maxSize = run.cache.maxSize := by
  induction script with
  | done value => exact ⟨0, fun _ _ run sound _ => ⟨run, rfl, sound, rfl⟩⟩
  | get key next ih =>
      obtain ⟨first, serves⟩ := nested key List.mem_cons_self
      obtain ⟨rest, serveRest⟩ :=
        ih (values key) fun other member => nested other (List.mem_cons_of_mem _ member)
      refine ⟨max first rest, fun more enough run sound capacity => ?_⟩
      obtain ⟨middle, got, middleSound, middleSize⟩ :=
        serves more (le_trans (le_max_left _ _) enough) run sound capacity
      obtain ⟨after, loaded, afterSound, afterSize⟩ :=
        serveRest more (le_trans (le_max_right _ _) enough) middle middleSound
          (by rw [middleSize]; exact capacity)
      refine ⟨after, ?_, afterSound, afterSize.trans middleSize⟩
      simp only [load, got]
      exact loaded

theorem Sound.asked {run : CacheRun Key Value} (sound : run.Sound values) {key : Key}
    (missing : run.cache.find key = none) :
    Sound { run with loads := run.loads ++ [⟨key, run.cache⟩] } values := by
  refine ⟨sound.cache, ?_⟩
  intro load member
  rcases List.mem_append.mp member with early | here
  · exact sound.loads load early
  · obtain rfl := List.mem_singleton.mp here
    refine ⟨?_, sound.cache⟩
    intro cached
    obtain ⟨node, listed, same⟩ := List.mem_map.mp cached
    exact sound.cache.linked.find_none missing node listed same

/-- Every call returns the value of its key, when no key is needed to load itself. -/
theorem get_sound {loader : Key → Script Key Value}
    (agrees : ∀ key, (loader key).value values = values key)
    (founded : WellFounded fun inner outer => inner ∈ (loader outer).requests values) (key : Key) :
    ∃ fuel, ∀ more, fuel ≤ more → Serves loader values more key := by
  induction key using founded.induction with
  | _ key nested =>
      obtain ⟨fuel, loads⟩ := load_sound (loader key) nested
      refine ⟨fuel + 1, fun more enough run sound capacity => ?_⟩
      obtain ⟨depth, rfl⟩ : ∃ depth, more = depth + 1 := ⟨more - 1, by omega⟩
      cases found : run.cache.find key with
      | some it =>
          obtain ⟨node, member, rfl, rfl⟩ := sound.cache.linked.find_some found
          obtain ⟨after, touched, afterSound, size, _⟩ := touch_node sound member
          refine ⟨after, ?_, afterSound, size⟩
          simp only [get, found]
          rw [touched, sound.cache.value node member]
      | none =>
          obtain ⟨middle, loaded, middleSound, middleSize⟩ :=
            loads depth (by omega) _ (sound.asked found) capacity
          have room : 0 < middle.cache.maxSize.toNat := by
            rw [middleSize]
            exact capacity
          obtain ⟨after, stored, afterSound, size, _⟩ := store_sound middleSound room key
          refine ⟨after, ?_, afterSound, size.trans middleSize⟩
          simp only [get, found, loaded, agrees]
          exact stored

/-- The replies that a cache of the given capacity may give. -/
def Answers (values : Key → Value) (maxSize : U64) : Call Key → Reply Value → Prop
  | .get key, .value value => value = values key
  | .contains _, .answer _ => True
  | .size, .count size => size ≤ maxSize.toNat
  | .invalidate, .done => True
  | _, _ => False

omit [DecidableEq Key] in
private theorem invalidate_sound {run : CacheRun Key Value} (sound : run.Sound values) :
    Sound { run with cache := run.cache.invalidate } values :=
  ⟨⟨⟨.nil, .nil, by simp [invalidate], .nil⟩, Nat.zero_le _, by simp [invalidate]⟩, sound.loads⟩

private theorem perform_sound {loader : Key → Script Key Value}
    (agrees : ∀ key, (loader key).value values = values key)
    (founded : WellFounded fun inner outer => inner ∈ (loader outer).requests values)
    (call : Call Key) :
    ∃ fuel, ∀ more, fuel ≤ more → ∀ run : CacheRun Key Value, run.Sound values →
      0 < run.cache.maxSize.toNat →
      ∃ reply after, perform loader more run call = some (reply, after) ∧ after.Sound values ∧
        after.cache.maxSize = run.cache.maxSize ∧ Answers values run.cache.maxSize call reply := by
  cases call with
  | get key =>
      obtain ⟨fuel, serves⟩ := get_sound agrees founded key
      refine ⟨fuel, fun more enough run sound capacity => ?_⟩
      obtain ⟨after, got, afterSound, size⟩ := serves more enough run sound capacity
      exact ⟨.value (values key), after, by simp [perform, got], afterSound, size, rfl⟩
  | contains key =>
      exact ⟨0, fun _ _ run sound _ => ⟨_, run, rfl, sound, rfl, trivial⟩⟩
  | size =>
      refine ⟨0, fun _ _ run sound _ => ⟨_, run, rfl, sound, rfl, ?_⟩⟩
      unfold Answers
      rw [sound.cache.linked.size]
      exact sound.cache.bounded
  | invalidate =>
      exact ⟨0, fun _ _ run sound _ => ⟨_, _, rfl, invalidate_sound sound, rfl, trivial⟩⟩

private theorem performAll_sound {loader : Key → Script Key Value}
    (agrees : ∀ key, (loader key).value values = values key)
    (founded : WellFounded fun inner outer => inner ∈ (loader outer).requests values)
    (calls : List (Call Key)) :
    ∃ fuel, ∀ more, fuel ≤ more → ∀ run : CacheRun Key Value, run.Sound values →
      0 < run.cache.maxSize.toNat →
      ∃ replies after, performAll loader more calls run = some (replies, after) ∧
        after.Sound values ∧ after.cache.maxSize = run.cache.maxSize ∧
        List.Forall₂ (Answers values run.cache.maxSize) calls replies := by
  induction calls with
  | nil => exact ⟨0, fun _ _ run sound _ => ⟨[], run, rfl, sound, rfl, .nil⟩⟩
  | cons call rest ih =>
      obtain ⟨first, performs⟩ := perform_sound agrees founded call
      obtain ⟨later, performsRest⟩ := ih
      refine ⟨max first later, fun more enough run sound capacity => ?_⟩
      obtain ⟨reply, middle, replied, middleSound, middleSize, answers⟩ :=
        performs more (le_trans (le_max_left _ _) enough) run sound capacity
      obtain ⟨replies, after, others, afterSound, afterSize, allAnswer⟩ :=
        performsRest more (le_trans (le_max_right _ _) enough) middle middleSound
          (by rw [middleSize]; exact capacity)
      refine ⟨reply :: replies, after, ?_, afterSound, afterSize.trans middleSize,
        .cons answers (middleSize ▸ allAnswer)⟩
      simp only [performAll, replied, others, Option.map_some]

/-! ## The order of use -/

/-- The keys of a list, each at its first place. -/
def distinct : List Key → List Key
  | [] => []
  | key :: rest => key :: (distinct rest).filter fun other => other ≠ key

/-- The keys that were asked for since the last `invalidate`, the latest first. -/
def askedSince (asked : List Key) : List (Call Key) → List Key
  | [] => asked
  | .get key :: rest => askedSince (key :: asked) rest
  | .contains _ :: rest => askedSince asked rest
  | .size :: rest => askedSince asked rest
  | .invalidate :: rest => askedSince [] rest

private theorem distinct_nodup (items : List Key) : (distinct items).Nodup := by
  induction items with
  | nil => exact .nil
  | cons key rest ih =>
      rw [distinct, List.nodup_cons]
      exact ⟨by simp, ih.filter _⟩

/-- Moving a key to the front of the first ones, or of all, leaves the same first ones. -/
theorem take_filter_take {items : List Key} (nodup : items.Nodup) (key : Key) (count : Nat) :
    ((items.take (count + 1)).filter fun other => other ≠ key).take count =
      (items.filter fun other => other ≠ key).take count := by
  induction items generalizing count with
  | nil => simp
  | cons head rest ih =>
      obtain ⟨absent, restNodup⟩ := List.nodup_cons.mp nodup
      rw [List.take_succ_cons]
      by_cases same : head = key
      · have others : ∀ other ∈ rest, decide (other ≠ key) = true := by
          intro other member
          rw [← same]
          exact decide_eq_true fun equal => absent (equal ▸ member)
        have kept : ∀ other ∈ rest.take count, decide (other ≠ key) = true :=
          fun other member => others other (List.mem_of_mem_take member)
        rw [List.filter_cons_of_neg (by simp [same]), List.filter_cons_of_neg (by simp [same]),
          List.filter_eq_self.mpr kept, List.filter_eq_self.mpr others, List.take_take,
          Nat.min_self]
      · rw [List.filter_cons_of_pos (by simp [same]), List.filter_cons_of_pos (by simp [same])]
        cases count with
        | zero => rfl
        | succ count => rw [List.take_succ_cons, List.take_succ_cons, ih restNodup]

/-- With a loader that does not call the cache, a call puts its key in front of the others. -/
theorem get_plain {loader : Key → Script Key Value} {run after : CacheRun Key Value} {key : Key}
    {fuel : Nat} {value : Value} (plain : loader key = .done (values key))
    (sound : run.Sound values) (capacity : 0 < run.cache.maxSize.toNat)
    (got : get loader fuel key run = some (value, after)) :
    after.Sound values ∧ after.cache.maxSize = run.cache.maxSize ∧
      after.cache.keys =
        (key :: run.cache.keys.filter fun other => other ≠ key).take run.cache.maxSize.toNat := by
  cases fuel with
  | zero => simp [get] at got
  | succ depth =>
      cases found : run.cache.find key with
      | some it =>
          obtain ⟨node, member, rfl, rfl⟩ := sound.cache.linked.find_some found
          obtain ⟨touched, moved, kept, size, items⟩ := touch_node sound member
          simp only [get, found, moved, Option.some.injEq, Prod.mk.injEq] at got
          obtain ⟨_, rfl⟩ := got
          refine ⟨kept, size, ?_⟩
          have length := (sound.cache.linked.front_perm member).length_eq
          have fits := sound.cache.bounded
          rw [CacheList.keys, items, List.map_cons, keys_filter, List.take_of_length_le]
          rw [List.length_cons] at length ⊢
          rw [← keys_filter, List.length_map]
          omega
      | none =>
          obtain ⟨stored, put, kept, size, keys⟩ := store_sound (sound.asked found) capacity key
          simp only [get, found, plain, load, put, Option.some.injEq, Prod.mk.injEq] at got
          obtain ⟨_, rfl⟩ := got
          exact ⟨kept, size, keys⟩

private theorem performAll_keys {loader : Key → Script Key Value}
    (plain : ∀ key, loader key = .done (values key)) {calls : List (Call Key)} {asked : List Key}
    {fuel : Nat} {run after : CacheRun Key Value} {replies : List (Reply Value)}
    (sound : run.Sound values) (capacity : 0 < run.cache.maxSize.toNat)
    (recent : run.cache.keys = (distinct asked).take run.cache.maxSize.toNat)
    (ran : performAll loader fuel calls run = some (replies, after)) :
    after.cache.keys =
      (distinct (askedSince asked calls)).take run.cache.maxSize.toNat := by
  induction calls generalizing run asked replies with
  | nil =>
      simp only [performAll, Option.some.injEq, Prod.mk.injEq] at ran
      rw [← ran.2]
      exact recent
  | cons call rest ih =>
      cases performed : perform loader fuel run call with
      | none => simp [performAll, performed] at ran
      | some result =>
          cases others : performAll loader fuel rest result.2 with
          | none => simp [performAll, performed, others] at ran
          | some final =>
              simp only [performAll, performed, others, Option.map_some, Option.some.injEq,
                Prod.mk.injEq] at ran
              obtain ⟨_, rfl⟩ := ran
              cases call with
              | get key =>
                  obtain ⟨value, got, rfl⟩ := Option.map_eq_some_iff.mp performed
                  obtain ⟨kept, size, keys⟩ := get_plain (plain key) sound capacity got
                  rw [← size] at capacity ⊢
                  refine ih kept capacity ?_ others
                  obtain ⟨room, full⟩ : ∃ room, value.2.cache.maxSize.toNat = room + 1 :=
                    ⟨value.2.cache.maxSize.toNat - 1, by omega⟩
                  rw [keys, recent, ← size, full, distinct, List.take_succ_cons,
                    List.take_succ_cons, take_filter_take (distinct_nodup asked)]
              | contains key =>
                  cases performed
                  exact ih sound capacity recent others
              | size =>
                  cases performed
                  exact ih sound capacity recent others
              | invalidate =>
                  cases performed
                  have kept := invalidate_sound sound
                  have nothing : run.cache.invalidate.keys =
                      (distinct ([] : List Key)).take run.cache.maxSize.toNat := by
                    rw [distinct, List.take_nil]
                    rfl
                  have latest := ih kept capacity nothing others
                  exact latest

/-- Any calls, from a fresh cache on: they are all answered, the list and the map correspond, the
capacity holds, the loader is only asked for keys that are not cached, and with a loader that does
not call the cache the keys are those asked for last. -/
theorem cache_correct {loader : Key → Script Key Value} {values : Key → Value}
    (agrees : ∀ key, (loader key).value values = values key)
    (founded : WellFounded fun inner outer => inner ∈ (loader outer).requests values)
    {maxSize : U64} (capacity : 0 < maxSize.toNat) (calls : List (Call Key)) :
    ∃ fuel replies run, performAll loader fuel calls (start maxSize) = some (replies, run) ∧
      List.Forall₂ (Answers values maxSize) calls replies ∧
      run.cache.Linked ∧ run.cache.size ≤ maxSize.toNat ∧
      (∀ load ∈ run.loads, load.key ∉ load.before.keys ∧ load.before.Holds values) ∧
      ((∀ key, loader key = .done (values key)) →
        run.cache.keys = (distinct (askedSince [] calls)).take maxSize.toNat) := by
  have fresh : Sound (start maxSize : CacheRun Key Value) values :=
    ⟨⟨empty_linked maxSize, Nat.zero_le _, by simp [start, empty]⟩, by simp [start]⟩
  obtain ⟨fuel, performs⟩ := performAll_sound agrees founded calls
  obtain ⟨replies, run, ran, sound, size, answers⟩ :=
    performs fuel le_rfl (start maxSize) fresh capacity
  refine ⟨fuel, replies, run, ran, answers, sound.cache.linked, ?_, sound.loads, ?_⟩
  · rw [sound.cache.linked.size]
    have bounded := sound.cache.bounded
    rwa [size] at bounded
  · exact fun plain => performAll_keys plain fresh capacity List.take_nil.symm ran

/-- A loader that counts: the value of a key is found from that of the key below it. -/
def countUp : Nat → Script Nat Nat
  | 0 => .done 1
  | key + 1 => .get key fun value => .done (value + 1)

private theorem countUp_below : Subrelation
    (fun inner outer => inner ∈ (countUp outer).requests fun key => key + 1)
    (fun inner outer : Nat => inner < outer) := by
  intro inner outer asked
  cases outer with
  | zero => simp [countUp, Script.requests] at asked
  | succ key =>
      obtain rfl : inner = key := by simpa [countUp, Script.requests] using asked
      exact Nat.lt_succ_self _

theorem cache_correct_countUp :
    ∃ fuel replies run, performAll countUp fuel [.get 3, .size, .contains 0, .get 2, .invalidate]
        (start 2) = some (replies, run) ∧
      List.Forall₂ (Answers (fun key => key + 1) 2)
        [.get 3, .size, .contains 0, .get 2, .invalidate] replies := by
  have agrees : ∀ key, (countUp key).value (fun key => key + 1) = key + 1 := by
    intro key
    cases key <;> rfl
  obtain ⟨fuel, replies, run, ran, answers, _⟩ := cache_correct agrees
    (countUp_below.wf Nat.lt_wfRel.wf) (show 0 < (2 : U64).toNat by decide)
    [.get 3, .size, .contains 0, .get 2, .invalidate]
  exact ⟨fuel, replies, run, ran, answers⟩

example : ((performAll countUp 5 [.get 3, .size, .contains 0, .contains 2, .get 2] (start 2)).map
    fun result => (result.1, result.2.cache.keys, result.2.loads.map (·.key))) =
    some ([.value 4, .count 2, .answer false, .answer true, .value 3], [2, 3], [3, 2, 1, 0]) := by
  decide

end CacheRun

/-! ## The cache as a list of items -/

namespace CacheList

variable {Key Value : Type} {cache : CacheList Key Value}

def item (node : Node Key Value) : Key × Value := (node.key, node.value)

/-- The cache without its map. -/
def abstract (cache : CacheList Key Value) : Cache Key Value :=
  ⟨cache.maxSize, cache.cacheItems.map item⟩

variable [DecidableEq Key]

private theorem abstract_front (cache : CacheList Key Value) (node : Node Key Value) :
    (node :: cache.cacheItems.filter fun other => other.key ≠ node.key).map item =
      cache.abstract.front node.key node.value := by
  rw [Cache.front, abstract, List.map_cons, List.filter_map]
  rfl

private theorem abstract_touch {after : CacheList Key Value} {node : Node Key Value}
    (size : after.maxSize = cache.maxSize)
    (items : after.cacheItems =
      node :: cache.cacheItems.filter fun other => other.key ≠ node.key) :
    after.abstract = cache.abstract.touch node.key node.value := by
  have capacity : cache.abstract.maxSize = after.maxSize := size.symm
  unfold Cache.touch
  rw [← abstract_front, ← items, capacity]
  rfl

private theorem Linked.abstract_find (linked : cache.Linked) {node : Node Key Value}
    (member : node ∈ cache.cacheItems) : cache.abstract.find node.key = some node.value := by
  cases found : cache.abstract.find node.key with
  | none =>
      have absent := List.find?_eq_none.mp (Option.map_eq_none_iff.mp found) (item node)
        (List.mem_map_of_mem member)
      simp [item] at absent
  | some value =>
      obtain ⟨pair, first, rfl⟩ := Option.map_eq_some_iff.mp found
      have same : pair.1 = node.key := by simpa using List.find?_some first
      obtain ⟨other, listed, rfl⟩ := List.mem_map.mp (List.mem_of_find?_eq_some first)
      rw [linked.node_of_key listed member same]
      rfl

private theorem Linked.abstract_find_none (linked : cache.Linked) {key : Key}
    (missing : cache.find key = none) : cache.abstract.find key = none := by
  refine Option.map_eq_none_iff.mpr (List.find?_eq_none.mpr ?_)
  intro pair member
  obtain ⟨node, listed, rfl⟩ := List.mem_map.mp member
  simp [item, linked.find_none missing node listed]

private theorem Linked.abstract_put (linked : cache.Linked) {key : Key} {value : Value}
    {after : CacheList Key Value} (stored : cache.put key value = some after) :
    after.abstract = cache.abstract.put key value := by
  obtain ⟨same, put, _, size, items⟩ := linked.put key value
  cases stored.symm.trans put
  have front : (cache.stored key value).cacheItems.map item = cache.abstract.front key value :=
    cache.abstract_front ⟨cache.nextId, key, value⟩
  have capacity : cache.abstract.maxSize = cache.maxSize := rfl
  unfold Cache.put
  rw [← front, capacity]
  dsimp only
  rw [List.length_map, abstract, items, size]
  congr 1
  split
  · rw [List.map_dropLast]
  · rfl

end CacheList

/-- With a loader that does not call the cache, the list and the map do what the cache does that
is kept as its items only. -/
theorem CacheRun.get_refines {Key Value : Type} [DecidableEq Key] {values : Key → Value}
    {loader : Key → Script Key Value} {run after : CacheRun Key Value} {key : Key} {fuel : Nat}
    {value : Value} (plain : loader key = .done (values key)) (sound : run.Sound values)
    (capacity : 0 < run.cache.maxSize.toNat)
    (got : CacheRun.get loader fuel key run = some (value, after)) :
    run.cache.abstract.get key (fun world : Unit => some (values key, world)) () =
      some (value, after.cache.abstract, ()) := by
  cases fuel with
  | zero => simp [CacheRun.get] at got
  | succ depth =>
      cases found : run.cache.find key with
      | some it =>
          obtain ⟨node, member, rfl, rfl⟩ := sound.cache.linked.find_some found
          obtain ⟨touched, moved, _, size, items⟩ := touch_node sound member
          simp only [CacheRun.get, found, moved, Option.some.injEq, Prod.mk.injEq] at got
          obtain ⟨rfl, rfl⟩ := got
          simp only [Cache.get, sound.cache.linked.abstract_find member,
            CacheList.abstract_touch size items]
      | none =>
          have asked := sound.asked found
          obtain ⟨cache, rest, put, holds, size, items, _, _⟩ := put_sound asked capacity key
          have member : ⟨run.cache.nextId, key, values key⟩ ∈ cache.cacheItems := by
            rw [items]
            exact List.mem_cons_self
          have stored : CacheRun.Sound { run with
              cache := cache
              loads := run.loads ++ [⟨key, run.cache⟩] } values := ⟨holds, asked.loads⟩
          obtain ⟨touched, moved, _, sameSize, front⟩ := touch_node stored member
          have position : cache.find key = some run.cache.nextId := holds.linked.find_node member
          have abstract := sound.cache.linked.abstract_put put
          simp only [CacheRun.get, found, plain, load, store, put, position] at got
          rw [moved] at got
          obtain ⟨rfl, rfl⟩ := Prod.mk.inj (Option.some.inj got)
          simp only [Cache.get, sound.cache.linked.abstract_find_none found, ← abstract,
            holds.linked.abstract_find member, CacheList.abstract_touch sameSize front]

end Aff4Lite.Utils
