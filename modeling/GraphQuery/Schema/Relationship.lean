import GraphQuery.Json.Record

/-!
# Relationships between entity types

A relationship is followed over the edges of one label in one direction, and ends at nodes of its target type.
-/

namespace GraphQuery

/-- How many nodes a relationship yields. -/
inductive Cardinality where
  /-- At most one. -/
  | one
  /-- Any number, in pages. -/
  | many
deriving DecidableEq, Inhabited

/-- The direction of an edge, seen from the node it is followed from. -/
inductive Direction where
  | outgoing
  | incoming
deriving DecidableEq, Inhabited

namespace Cardinality

/-- The name of a cardinality. -/
def name : Cardinality → String
  | one => "One"
  | many => "Many"

/-- The cardinality of a name. -/
def ofName? (name : String) : Option Cardinality := [one, many].find? fun c => c.name = name

end Cardinality

namespace Direction

/-- The opposite direction. -/
def reverse : Direction → Direction
  | outgoing => incoming
  | incoming => outgoing

@[simp] theorem reverse_reverse (d : Direction) : d.reverse.reverse = d := by cases d <;> rfl

/-- The name of a direction. -/
def name : Direction → String
  | outgoing => "Outgoing"
  | incoming => "Incoming"

/-- The direction of a name. -/
def ofName? (name : String) : Option Direction := [outgoing, incoming].find? fun d => d.name = name

end Direction

/-- The declaration of a relationship. -/
structure RelationshipDef where
  /-- Field name on the owner. -/
  name : String
  /-- The type that declares it. -/
  owner : String
  /-- The type of the nodes it ends at. -/
  target : String
  /-- The label of the edges it follows. -/
  label : String
  direction : Direction
  cardinality : Cardinality
  /-- The relationship of the target that leads back, if one is declared. -/
  inverse : Option String
deriving DecidableEq, Inhabited

namespace RelationshipDef

/-- Whether it yields a page of nodes. -/
def isMany (relationship : RelationshipDef) : Bool := relationship.cardinality = .many

theorem isMany_eq_false {relationship : RelationshipDef} :
    relationship.isMany = false ↔ relationship.cardinality = .one := by
  rw [isMany, decide_eq_false_iff_not]
  cases relationship.cardinality <;> simp

/-- Owner and name, as shown in messages and used in cache keys. -/
def qualifiedName (relationship : RelationshipDef) : String := relationship.owner ++ "." ++ relationship.name

/-- The interchange form. -/
def toJson (r : RelationshipDef) : Json :=
  .object [("name", .string r.name), ("owner", .string r.owner), ("target", .string r.target),
    ("label", .string r.label), ("direction", .string r.direction.name),
    ("cardinality", .string r.cardinality.name), ("inverse", Json.ofOption .string r.inverse)]

/-- Reads the interchange form. -/
def ofJson? (json : Json) : Option RelationshipDef := do
  match ← json.members? ["name", "owner", "target", "label", "direction", "cardinality", "inverse"] 0 with
  | [name, owner, target, label, direction, cardinality, inverse] =>
    return ⟨← (← name).string?, ← (← owner).string?, ← (← target).string?, ← (← label).string?,
      ← Direction.ofName? (← (← direction).unitVariant?), ← Cardinality.ofName? (← (← cardinality).unitVariant?),
      ← Json.optional? Json.string? inverse⟩
  | _ => none

end RelationshipDef

end GraphQuery
