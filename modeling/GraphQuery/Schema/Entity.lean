import GraphQuery.Schema.Authorization

/-!
# Entity types

An `EntityDecl` is a type as it is declared. An `EntityType` is a type of a built schema: it has the members of its
ancestors beside its own, and its authorization is united with theirs.
-/

namespace GraphQuery

/-- The property that identifies a node. -/
def idProperty : String := "id"

/-- A type as declared. -/
structure EntityDecl where
  /-- The name, which is also the label of its nodes. -/
  name : String
  /-- Abstract types are never the concrete type of a node. -/
  isAbstract : Bool
  properties : List PropertyDef
  relationships : List RelationshipDef
  /-- Direct supertypes. -/
  supertypes : List String
  authorizations : List AuthorizationDecl
deriving DecidableEq, Inhabited

namespace EntityDecl

/-- A declaration; the identifier is its first property, and it owns its relationships. -/
def declare (name : String) (isAbstract : Bool) (properties : List PropertyDef) (relationships : List RelationshipDef)
    (supertypes : List String) (authorizations : List AuthorizationDecl) : EntityDecl :=
  { name, isAbstract, supertypes, authorizations
    properties := ⟨idProperty, .id, false⟩ :: properties
    relationships := relationships.map fun r => { r with owner := name } }

end EntityDecl

/-- A type of a built schema. -/
structure EntityType where
  name : String
  isAbstract : Bool
  /-- Own properties, then inherited ones. -/
  properties : List PropertyDef
  /-- Own relationships, then inherited ones. -/
  relationships : List RelationshipDef
  /-- All types above, direct and indirect, sorted. -/
  ancestors : List String
  /-- United authorization by permission name. -/
  authorizations : Table Authorization
deriving DecidableEq, Inhabited

namespace EntityType

variable (entity : EntityType)

/-- The property of a name. -/
def property? (name : String) : Option PropertyDef := entity.properties.find? fun p => p.name = name

/-- The relationship of a name. -/
def relationship? (name : String) : Option RelationshipDef := entity.relationships.find? fun r => r.name = name

/-- Whether this is the given type or lies below it. -/
def isSubtypeOf (other : String) : Bool := entity.name = other || entity.ancestors.contains other

/-- The labels of a node of this type: its own name and those of its ancestors. -/
def labels : List String := entity.name :: entity.ancestors

/-- The united authorization for a permission name. -/
def authorization? (permission : String) : Option Authorization := List.lookup permission entity.authorizations

end EntityType

end GraphQuery
