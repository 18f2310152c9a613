import GraphQuery.Options

/-!
# Plans

A plan is a tree of levels. A `Level` says which nodes of one type are wanted, and under each result key which related
nodes are wanted for them. A result key has several sub-queries only where fragments ask for different relationships on
different subtypes.

* `Level.depth` is the number of levels below a level;
* `Level.selectionKey` is a fingerprint of everything wanted below a level.
-/

namespace GraphQuery

/-- Related nodes wanted for the nodes of a level. -/
structure SubQuery (ν : Type) where
  relationship : RelationshipDef
  /-- What is wanted of the related nodes. -/
  query : ν
  /-- The concrete types of the nodes it applies to, sorted; all when there is no list. -/
  onlyOnTypes : Option (List String)
deriving Inhabited

/-- Whether a sub-query applies to the nodes of a concrete type. -/
def SubQuery.appliesTo {ν : Type} (sub : SubQuery ν) (typeName : String) : Bool :=
  match sub.onlyOnTypes with
  | none => true
  | some types => types.contains typeName

/-- One level of a plan. -/
structure Level where
  entityType : String
  /-- The options as requested. -/
  options : Options
  /-- The requested filter and the filter of the permission. -/
  condition : Filter
  /-- How many rows to fetch: one more than the page size, so that a following page is noticed. -/
  limit : Option Nat
  cardinality : Cardinality
  /-- The sub-queries by result key. -/
  parts : List (String × List (SubQuery Level))
deriving Inhabited

/-- Restricts a plan to the nodes related to one node. -/
structure Anchor where
  parentType : String
  parentId : Value
  relationship : RelationshipDef
deriving Inhabited

/-- A plan: its topmost level, and the node it starts from, if it starts from one. -/
structure Plan where
  root : Level
  anchor : Option Anchor
deriving Inhabited

/-- The first sub-query that applies to the nodes of a concrete type, with its index. -/
def forType (subs : List (SubQuery Level)) (typeName : String) : Option (Nat × SubQuery Level) :=
  (subs.zipIdx.find? fun (sub, _) => sub.appliesTo typeName).map fun (sub, i) => (i, sub)

namespace Level

/-- The sub-queries under a result key. -/
def part? (level : Level) (resultKey : String) : Option (List (SubQuery Level)) := List.lookup resultKey level.parts

mutual

/-- The number of levels below this one. -/
def depth : Level → Nat
  | ⟨_, _, _, _, _, parts⟩ => depthOfParts parts

/-- The number of levels in several parts. -/
def depthOfParts : List (String × List (SubQuery Level)) → Nat
  | [] => 0
  | (_, subs) :: rest => max (depthOfSubs subs) (depthOfParts rest)

/-- The number of levels in several sub-queries. -/
def depthOfSubs : List (SubQuery Level) → Nat
  | [] => 0
  | ⟨_, query, _⟩ :: rest => max (query.depth + 1) (depthOfSubs rest)

end

/-! ## Fingerprints -/

/-- The bytes of the types a sub-query applies to. -/
def typeBytes (onlyOnTypes : Option (List String)) : List UInt8 :=
  (onlyOnTypes.getD []).flatMap fun name => name.toUTF8.data.toList ++ ",".toUTF8.data.toList

mutual

/-- The bytes that stand for everything wanted below a level. -/
def selectionBytes : Level → List UInt8
  | ⟨_, _, _, _, _, parts⟩ => bytesOfParts parts

/-- The bytes of several parts: the result key, the sub-queries and a semicolon for each. -/
def bytesOfParts : List (String × List (SubQuery Level)) → List UInt8
  | [] => []
  | (resultKey, subs) :: rest =>
    resultKey.toUTF8.data.toList ++ bytesOfSubs subs ++ ";".toUTF8.data.toList ++ bytesOfParts rest

/-- The bytes of several sub-queries: a zero, the relationship, the options, the types and what is wanted below. -/
def bytesOfSubs : List (SubQuery Level) → List UInt8
  | [] => []
  | ⟨relationship, query, onlyOnTypes⟩ :: rest =>
    0 :: relationship.qualifiedName.toUTF8.data.toList ++ query.options.key.bytes ++ typeBytes onlyOnTypes ++
      "(".toUTF8.data.toList ++ query.selectionBytes ++ ")".toUTF8.data.toList ++ bytesOfSubs rest

end

/-- The fingerprint of everything wanted below a level. -/
def selectionKey (level : Level) : Fingerprint := Blake3.hash level.selectionBytes

end Level

end GraphQuery
