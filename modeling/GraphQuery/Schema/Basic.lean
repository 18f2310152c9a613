import GraphQuery.Schema.Entity

/-!
# Schemas

A `Schema` is a table of entity types. Nodes carry the labels of all their types; `Schema.concreteType?` finds the most
derived one among them again.
-/

namespace GraphQuery

/-- The entity types, by name. -/
structure Schema where
  entities : Table EntityType
deriving DecidableEq, Inhabited

namespace Schema

variable (schema : Schema)

/-- The type of a name. -/
def entity? (name : String) : Option EntityType := List.lookup name schema.entities

/-- The type of a name, or the error that there is none. -/
def entity (name : String) : Result EntityType :=
  match schema.entity? name with
  | some entity => .ok entity
  | none => .error (.unknownEntity name)

/-- Whether the first type is to be preferred as the concrete type of a node: it has more ancestors, or as many and
the smaller name. -/
def moreDerived (a b : EntityType) : Bool :=
  b.ancestors.length < a.ancestors.length || (a.ancestors.length = b.ancestors.length && a.name < b.name)

/-- The most derived type among the labels of a node that is not abstract. -/
def concreteType? (labels : List String) : Option EntityType :=
  let candidates := (labels.filterMap schema.entity?).filter fun entity => !entity.isAbstract
  candidates.foldl (fun best entity =>
    match best with
    | none => some entity
    | some b => if moreDerived entity b then some entity else some b) none

/-- The names of the types at or below the given one that are not abstract, sorted. -/
def concreteSubtypes (name : String) : List String :=
  (schema.entities.filter fun (_, entity) => !entity.isAbstract && entity.isSubtypeOf name).map (·.1)

/-- The inverse of a relationship, if one is declared. -/
def inverse? (relationship : RelationshipDef) : Option RelationshipDef := do
  let inverse ← relationship.inverse
  (← schema.entity? relationship.target).relationship? inverse

end Schema

end GraphQuery
