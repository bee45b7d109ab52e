import Aff4Lite.Lib.Word

/-!
# The list and the map of `aff4::util::cache`

The cache as it is represented: `cacheItems` is a linked list whose nodes keep their
identity when they are moved, and `cacheMap` holds, for every key, an iterator to a node.
A loader may ask the same cache for other keys before it returns its value.
-/

set_option autoImplicit false

namespace Aff4Lite.Utils

open Lib

/-- A node of `cacheItems`. Iterators name a node by its `id`. -/
structure Node (Key Value : Type) where
  id : Nat
  key : Key
  value : Value
  deriving DecidableEq, Repr

structure CacheList (Key Value : Type) where
  maxSize : U64
  cacheItems : List (Node Key Value)
  cacheMap : List (Key × Nat)
  nextId : Nat
  deriving DecidableEq, Repr

namespace CacheList

variable {Key Value : Type} [DecidableEq Key]

def empty (maxSize : U64) : CacheList Key Value := ⟨maxSize, [], [], 0⟩

/-- `cacheMap.find(key)` -/
def find (cache : CacheList Key Value) (key : Key) : Option Nat :=
  (cache.cacheMap.find? fun entry => entry.1 = key).map Prod.snd

/-- `cacheItems.splice(cacheItems.begin(), cacheItems, it)`; `none` for an iterator to no node. -/
def splice (cache : CacheList Key Value) (it : Nat) :
    Option (Node Key Value × CacheList Key Value) :=
  match cache.cacheItems.find? fun node => node.id = it with
  | none => none
  | some node =>
      some (node,
        { cache with cacheItems := node :: cache.cacheItems.filter fun other => other.id ≠ it })

/-- `cacheMap.erase(key)` -/
def erase (cacheMap : List (Key × Nat)) (key : Key) : List (Key × Nat) :=
  cacheMap.filter fun entry => entry.1 ≠ key

/-- `push_front` of a new node. -/
def pushFront (cache : CacheList Key Value) (key : Key) (value : Value) : CacheList Key Value :=
  { cache with
    cacheItems := ⟨cache.nextId, key, value⟩ :: cache.cacheItems
    nextId := cache.nextId + 1 }

/-- `if (it != cacheMap.end())`: erase the node and the entry of a key that is stored again. -/
def eraseOld (cache : CacheList Key Value) (key : Key) (it : Option Nat) : CacheList Key Value :=
  match it with
  | none => cache
  | some old =>
      { cache with
        cacheItems := cache.cacheItems.filter fun node => node.id ≠ old
        cacheMap := erase cache.cacheMap key }

/-- `cacheMap[key] = cacheItems.begin()`; `none` for an empty list. -/
def mapFront (cache : CacheList Key Value) (key : Key) : Option (CacheList Key Value) :=
  cache.cacheItems.head?.map fun first =>
    { cache with cacheMap := (key, first.id) :: erase cache.cacheMap key }

/-- `if (cacheMap.size() > maxSize)`: drop the last node and its entry. -/
def evict (cache : CacheList Key Value) : Option (CacheList Key Value) :=
  if cache.cacheMap.length > cache.maxSize.toNat then
    cache.cacheItems.getLast?.map fun last =>
      { cache with
        cacheItems := cache.cacheItems.dropLast
        cacheMap := erase cache.cacheMap last.key }
  else some cache

def put (cache : CacheList Key Value) (key : Key) (value : Value) : Option (CacheList Key Value) :=
  (((cache.pushFront key value).eraseOld key (cache.find key)).mapFront key).bind evict

def size (cache : CacheList Key Value) : Nat := cache.cacheMap.length

/-- `exists` -/
def contains (cache : CacheList Key Value) (key : Key) : Bool := (cache.find key).isSome

def invalidate (cache : CacheList Key Value) : CacheList Key Value :=
  { cache with cacheItems := [], cacheMap := [] }

end CacheList

/-- What the loader does for a key: return a value, or ask the cache for another key first. -/
inductive Script (Key Value : Type) where
  | done (value : Value)
  | get (key : Key) (next : Value → Script Key Value)

/-- The value of a script when the cache answers with `values`. -/
def Script.value {Key Value : Type} (values : Key → Value) : Script Key Value → Value
  | .done value => value
  | .get key next => (next (values key)).value values

/-- The keys that a script asks for. -/
def Script.requests {Key Value : Type} (values : Key → Value) : Script Key Value → List Key
  | .done _ => []
  | .get key next => key :: (next (values key)).requests values

/-- A call of the loader, recorded for the statements: the key, and the cache it was not in. -/
structure Load (Key Value : Type) where
  key : Key
  before : CacheList Key Value

/-- The cache, and the loads since its construction. -/
structure CacheRun (Key Value : Type) where
  cache : CacheList Key Value
  loads : List (Load Key Value)

namespace CacheRun

variable {Key Value : Type} [DecidableEq Key]

def start (maxSize : U64) : CacheRun Key Value := ⟨.empty maxSize, []⟩

/-- The loader at work, with `get` for its calls of the cache. -/
def load (get : Key → CacheRun Key Value → Option (Value × CacheRun Key Value)) :
    Script Key Value → CacheRun Key Value → Option (Value × CacheRun Key Value)
  | .done value, run => some (value, run)
  | .get key next, run =>
      match get key run with
      | none => none
      | some (value, after) => load get (next value) after

/-- The element at an iterator, moved to the front. -/
def touch (run : CacheRun Key Value) (it : Nat) : Option (Value × CacheRun Key Value) :=
  (run.cache.splice it).map fun spliced => (spliced.1.value, { run with cache := spliced.2 })

/-- `put`, and the `find` after it. -/
def store (run : CacheRun Key Value) (key : Key) (value : Value) :
    Option (Value × CacheRun Key Value) :=
  match run.cache.put key value with
  | none => none
  | some cache =>
      match cache.find key with
      | none => none
      | some it => touch { run with cache := cache } it

/-- `get`, where loads are nested at most `fuel` deep. There is no result for deeper nesting, and
where a step has no defined behaviour. -/
def get (loader : Key → Script Key Value) :
    Nat → Key → CacheRun Key Value → Option (Value × CacheRun Key Value)
  | 0, _, _ => none
  | fuel + 1, key, run =>
      match run.cache.find key with
      | some it => run.touch it
      | none =>
          match load (get loader fuel) (loader key)
              { run with loads := run.loads ++ [⟨key, run.cache⟩] } with
          | none => none
          | some (value, after) => after.store key value

/-! ## Calls from outside -/

inductive Call (Key : Type) where
  | get (key : Key)
  | contains (key : Key)
  | size
  | invalidate
  deriving DecidableEq, Repr

inductive Reply (Value : Type) where
  | value (value : Value)
  | answer (found : Bool)
  | count (size : Nat)
  | done
  deriving DecidableEq, Repr

def perform (loader : Key → Script Key Value) (fuel : Nat) (run : CacheRun Key Value) :
    Call Key → Option (Reply Value × CacheRun Key Value)
  | .get key => (get loader fuel key run).map fun result => (.value result.1, result.2)
  | .contains key => some (.answer (run.cache.contains key), run)
  | .size => some (.count run.cache.size, run)
  | .invalidate => some (.done, { run with cache := run.cache.invalidate })

def performAll (loader : Key → Script Key Value) (fuel : Nat) :
    List (Call Key) → CacheRun Key Value → Option (List (Reply Value) × CacheRun Key Value)
  | [], run => some ([], run)
  | call :: rest, run =>
      match perform loader fuel run call with
      | none => none
      | some (reply, after) =>
          (performAll loader fuel rest after).map fun result => (reply :: result.1, result.2)

end CacheRun

end Aff4Lite.Utils
