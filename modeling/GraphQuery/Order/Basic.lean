import GraphQuery.Schema.Entity

/-!
# Orders

An `Order` is a list of sort keys. `Order.ofKeys` appends the identifier as the last key, so that no two distinct nodes
compare equal; paging depends on that.
-/

namespace GraphQuery

/-- A sort direction. -/
inductive SortDirection where
  | ascending
  | descending
deriving DecidableEq, Inhabited

namespace SortDirection

/-- The opposite direction. -/
def reverse : SortDirection → SortDirection
  | ascending => descending
  | descending => ascending

@[simp] theorem reverse_reverse (d : SortDirection) : d.reverse.reverse = d := by cases d <;> rfl

/-- The name of a direction. -/
def name : SortDirection → String
  | ascending => "ASC"
  | descending => "DESC"

/-- The direction of a name. -/
def ofName? (name : String) : Option SortDirection := [ascending, descending].find? fun d => d.name = name

end SortDirection

/-- What a sort key reads. -/
inductive OrderPath where
  /-- A property of the node itself. -/
  | property (name : String)
  /-- A property of the node at the end of a single relationship. -/
  | related (relationship : RelationshipDef) (name : String)
deriving DecidableEq, Inhabited

namespace OrderPath

/-- The interchange form. -/
def toJson : OrderPath → Json
  | property name => .object [("Property", .string name)]
  | related relationship name =>
    .object [("Related", .object [("relationship", relationship.toJson), ("property", .string name)])]

/-- Reads the interchange form. -/
def ofJson? (json : Json) : Option OrderPath := do
  let (kind, content) ← json.variant?
  match kind with
  | "Property" => content.string?.map property
  | "Related" =>
    match ← content.variantMembers? ["relationship", "property"] with
    | [relationship, name] =>
      return related (← RelationshipDef.ofJson? (← relationship)) (← (← name).string?)
    | _ => none
  | _ => none

end OrderPath

/-- A sort key. -/
structure OrderKey where
  /-- The name as requested, `name` or `author.name`; also the name in cursors. -/
  name : String
  path : OrderPath
  direction : SortDirection
  /-- Whether the key may read null; nulls come after every other value. -/
  nullable : Bool
deriving DecidableEq, Inhabited

namespace OrderKey

/-- The key of a property. -/
def ofProperty (name : String) (direction : SortDirection) : OrderKey := ⟨name, .property name, direction, false⟩

/-- The key of a property of a related node; it reads null where there is none. -/
def ofRelated (relationship : RelationshipDef) (property : String) (direction : SortDirection) : OrderKey :=
  ⟨relationship.name ++ "." ++ property, .related relationship property, direction, true⟩

/-- The interchange form. -/
def toJson (key : OrderKey) : Json :=
  .object [("name", .string key.name), ("path", key.path.toJson), ("direction", .string key.direction.name),
    ("nullable", .bool key.nullable)]

/-- Reads the interchange form; a key is not nullable unless it is said to be. -/
def ofJson? (json : Json) : Option OrderKey := do
  match ← json.members? ["name", "path", "direction", "nullable"] 1 with
  | [name, path, direction, nullable] =>
    return ⟨← (← name).string?, ← OrderPath.ofJson? (← path), ← SortDirection.ofName? (← (← direction).unitVariant?),
      ← (nullable.getD (.bool false)).bool?⟩
  | _ => none

end OrderKey

/-- An order of nodes. -/
structure Order where
  keys : List OrderKey
deriving DecidableEq

namespace Order

/-- The order of explicit keys. Unless the identifier is among them it is appended, in the direction of the last
key. -/
def ofKeys (keys : List OrderKey) : Order :=
  if keys.any fun k => k.name = idProperty then ⟨keys⟩
  else
    let direction := (keys.getLast?.map (·.direction)).getD .ascending
    ⟨keys ++ [.ofProperty idProperty direction]⟩

/-- The order by identifier alone. -/
def byId : Order := ofKeys []

instance : Inhabited Order := ⟨byId⟩

/-- The names of the keys. -/
def names (order : Order) : List String := order.keys.map (·.name)

/-- The interchange form. -/
def toJson (order : Order) : Json := .object [("keys", .array (order.keys.map OrderKey.toJson))]

/-- Reads the interchange form. -/
def ofJson? (json : Json) : Option Order := do
  match ← json.members? ["keys"] 0 with
  | [keys] => return ⟨← (← keys).list? OrderKey.ofJson?⟩
  | _ => none

end Order

end GraphQuery
