import GraphQuery.Plan.Basic

/-!
# Caches of relationship results

Within one request the result of a relationship of a node is computed once. A `RelationshipCache` holds the results of
one node, a `RequestCache` the caches of all nodes a request has seen. A result that is being computed must not be asked
for: that fails, and the computation goes on.

* `RelationshipCache.get` looks a result up, `RelationshipCache.insertReady` adds one that was computed elsewhere;
* `RelationshipCache.start`, `RelationshipCache.complete` and `RelationshipCache.release` bracket a computation, and
  `Cell.getOrCompute` runs one inside a larger state.
-/

namespace GraphQuery

/-- What identifies a result of a relationship: the relationship, its options and what is wanted below it. -/
structure CacheKey where
  /-- The qualified name of the relationship. -/
  relationship : String
  options : Fingerprint
  selection : Fingerprint
deriving DecidableEq, Inhabited

namespace CacheKey

/-- The key of a plan for a relationship. -/
def ofQuery (relationship : RelationshipDef) (query : Level) : CacheKey :=
  ⟨relationship.qualifiedName, query.options.key, query.selectionKey⟩

/-- A key as messages show it. -/
def text (key : CacheKey) : String := key.relationship ++ "@" ++ key.options.text ++ "/" ++ key.selection.text

end CacheKey

/-- The state of an entry. -/
inductive Slot (ρ : Type) where
  /-- The result is being computed. -/
  | computing
  | ready (result : ρ)
deriving Inhabited

/-- The results of the relationships of one node. -/
structure RelationshipCache (ρ : Type) where
  slots : List (CacheKey × Slot ρ)
  /-- Lookups answered with a ready result. -/
  hits : Nat
  /-- Lookups that started a computation. -/
  misses : Nat
deriving Inhabited

namespace RelationshipCache

variable {ρ : Type}

/-- No entries. -/
def empty : RelationshipCache ρ := ⟨[], 0, 0⟩

/-- The entry of a key. -/
def slot? (cache : RelationshipCache ρ) (key : CacheKey) : Option (Slot ρ) := List.lookup key cache.slots

/-- Replaces the entry of a key, or adds one. -/
def setSlot (slots : List (CacheKey × Slot ρ)) (key : CacheKey) (slot : Slot ρ) : List (CacheKey × Slot ρ) :=
  match slots with
  | [] => [(key, slot)]
  | (k, s) :: rest => if key = k then (key, slot) :: rest else (k, s) :: setSlot rest key slot

/-- Sets the entry of a key. -/
def set (cache : RelationshipCache ρ) (key : CacheKey) (slot : Slot ρ) : RelationshipCache ρ :=
  { cache with slots := setSlot cache.slots key slot }

/-- Removes the entry of a key. -/
def erase (cache : RelationshipCache ρ) (key : CacheKey) : RelationshipCache ρ :=
  { cache with slots := cache.slots.filter fun (k, _) => k ≠ key }

/-- The number of entries. -/
def size (cache : RelationshipCache ρ) : Nat := cache.slots.length

/-- Whether the result of a key is being computed. -/
def isComputing (cache : RelationshipCache ρ) (key : CacheKey) : Bool :=
  match cache.slot? key with
  | some .computing => true
  | _ => false

/-- Looks a result up; nothing is found when there is no entry. -/
def get (cache : RelationshipCache ρ) (key : CacheKey) : Result (Option ρ) × RelationshipCache ρ :=
  match cache.slot? key with
  | some (.ready result) => (.ok (some result), { cache with hits := cache.hits + 1 })
  | some .computing => (.error (.reentrantComputation key.text), cache)
  | none => (.ok none, cache)

/-- Adds a result and gives back the one that counts: an earlier one stays, and while one is being computed the new one
is not kept. -/
def insertReady (cache : RelationshipCache ρ) (key : CacheKey) (result : ρ) : ρ × RelationshipCache ρ :=
  match cache.slot? key with
  | some (.ready earlier) => (earlier, cache)
  | some .computing => (result, cache)
  | none => (result, cache.set key (.ready result))

/-- Looks a result up, and marks it as being computed when there is no entry. -/
def start (cache : RelationshipCache ρ) (key : CacheKey) : Result (Option ρ) × RelationshipCache ρ :=
  match cache.slot? key with
  | some (.ready result) => (.ok (some result), { cache with hits := cache.hits + 1 })
  | some .computing => (.error (.reentrantComputation key.text), cache)
  | none => (.ok none, { cache.set key .computing with misses := cache.misses + 1 })

/-- Ends a computation with its result. -/
def complete (cache : RelationshipCache ρ) (key : CacheKey) (result : ρ) : RelationshipCache ρ :=
  cache.set key (.ready result)

/-- Ends a computation without a result. -/
def release (cache : RelationshipCache ρ) (key : CacheKey) : RelationshipCache ρ :=
  if cache.isComputing key then cache.erase key else cache

end RelationshipCache

/-! ## Caches inside a larger state -/

/-- A relationship cache as a part of a state. -/
structure Cell (σ ρ : Type) where
  get : σ → RelationshipCache ρ
  set : σ → RelationshipCache ρ → σ

/-- A computation that may fail; its changes of the state stay even then. -/
abbrev Run (σ α : Type) := EStateM Error σ α

namespace Cell

variable {σ ρ : Type}

/-- Looks a result up and computes it when there is none. A computation that fails leaves no entry. -/
def getOrCompute (cell : Cell σ ρ) (key : CacheKey) (compute : Run σ ρ) : Run σ ρ := fun state =>
  match (cell.get state).start key with
  | (.error e, cache) => .error e (cell.set state cache)
  | (.ok (some result), cache) => .ok result (cell.set state cache)
  | (.ok none, cache) =>
    match compute (cell.set state cache) with
    | .ok result state => .ok result (cell.set state ((cell.get state).complete key result))
    | .error e state => .error e (cell.set state ((cell.get state).release key))

end Cell

/-! ## Caches of a request -/

/-- The caches of all nodes that a request has seen. -/
structure RequestCache (ρ : Type) where
  /-- The number of the request. -/
  request : Nat
  /-- The caches by concrete type and identifier of the node. -/
  nodes : List ((String × String) × RelationshipCache ρ)
deriving Inhabited

namespace RequestCache

variable {ρ : Type}

/-- The caches of a request that has seen no node. -/
def empty (request : Nat) : RequestCache ρ := ⟨request, []⟩

/-- The number of nodes seen. -/
def size (cache : RequestCache ρ) : Nat := cache.nodes.length

/-- The cache of a node; empty when it was not seen. -/
def forNode (cache : RequestCache ρ) (typeName id : String) : RelationshipCache ρ :=
  (List.lookup (typeName, id) cache.nodes).getD .empty

/-- Replaces the cache of a node, or adds one. -/
def setNode (nodes : List ((String × String) × RelationshipCache ρ)) (identity : String × String)
    (cache : RelationshipCache ρ) : List ((String × String) × RelationshipCache ρ) :=
  match nodes with
  | [] => [(identity, cache)]
  | (i, c) :: rest => if identity = i then (identity, cache) :: rest else (i, c) :: setNode rest identity cache

/-- Sets the cache of a node. -/
def set (cache : RequestCache ρ) (typeName id : String) (node : RelationshipCache ρ) : RequestCache ρ :=
  { cache with nodes := setNode cache.nodes (typeName, id) node }

/-- Notes that a node was seen. -/
def see (cache : RequestCache ρ) (typeName id : String) : RequestCache ρ :=
  cache.set typeName id (cache.forNode typeName id)

/-- The cache of a node inside the caches of its request. -/
def cell (typeName id : String) : Cell (RequestCache ρ) ρ :=
  ⟨fun cache => cache.forNode typeName id, fun cache node => cache.set typeName id node⟩

end RequestCache

end GraphQuery
