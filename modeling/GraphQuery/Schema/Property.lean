import GraphQuery.Json.Record
import GraphQuery.Value

/-!
# Properties of entity types

A property has a scalar type. `PropertyType.coerce?` reads a client's JSON as a value of the type, and
`PropertyType.accepts` tells which stored values fit it: an integer fits a floating-point property, a null fits all.
-/

namespace GraphQuery

/-- A scalar type. -/
inductive PropertyType where
  /-- Node identifier, a string. -/
  | id
  | string
  | int
  | float
  | boolean
  | timestamp
deriving DecidableEq, Inhabited

namespace PropertyType

/-- The name of a type. -/
def name : PropertyType → String
  | id => "Id"
  | string => "String"
  | int => "Int"
  | float => "Float"
  | boolean => "Boolean"
  | timestamp => "Timestamp"

/-- The type of a name. -/
def ofName? (name : String) : Option PropertyType :=
  [id, string, int, float, boolean, timestamp].find? fun type => type.name = name

/-- Whether the text operators apply. -/
def isTextual : PropertyType → Bool
  | id | string => true
  | _ => false

/-- Reads JSON as a value of the type; `null` reads as the null of every type. -/
def coerce? (type : PropertyType) (json : Json) : Option Value :=
  if json.isNull then some .null
  else match type with
    | id | string => json.string?.map .string
    | int => (Value.int64OfJson? json).map .int
    | float => json.number?.map .float
    | boolean => json.bool?.map .bool
    | timestamp => (Value.int64OfJson? json).map .timestamp

/-- Whether a value may be stored under a property of the type. -/
def accepts : PropertyType → Value → Bool
  | _, .null => true
  | id, .string _ | string, .string _ => true
  | int, .int _ => true
  | float, .float _ | float, .int _ => true
  | boolean, .bool _ => true
  | timestamp, .timestamp _ => true
  | _, _ => false

/-- A value read from JSON fits its type. -/
theorem accepts_of_coerce? {type : PropertyType} {json : Json} {value : Value}
    (h : type.coerce? json = some value) : type.accepts value = true := by
  unfold coerce? at h
  split at h
  · cases h; cases type <;> rfl
  · cases type <;> obtain ⟨_, _, rfl⟩ := Option.map_eq_some_iff.mp h <;> rfl

end PropertyType

/-- The declaration of a property. -/
structure PropertyDef where
  name : String
  type : PropertyType
  /-- Whether the property may be absent or null. -/
  nullable : Bool
deriving DecidableEq, Inhabited

namespace PropertyDef

/-- The interchange form. -/
def toJson (property : PropertyDef) : Json :=
  .object [("name", .string property.name), ("property_type", .string property.type.name),
    ("nullable", .bool property.nullable)]

/-- Reads the interchange form. -/
def ofJson? (json : Json) : Option PropertyDef := do
  match ← json.members? ["name", "property_type", "nullable"] 0 with
  | [name, type, nullable] =>
    return ⟨← (← name).string?, ← PropertyType.ofName? (← (← type).unitVariant?), ← (← nullable).bool?⟩
  | _ => none

end PropertyDef

end GraphQuery
