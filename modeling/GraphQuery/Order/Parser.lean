import GraphQuery.Order.Basic
import GraphQuery.Schema.Basic

/-!
# Reading orders of clients

An order is an item or a list of items, an item being an object of a `"field"` and a `"direction"`. The field is a
property of the type, or a single relationship and a property of its target with a point between them. No field may
stand twice.
-/

namespace GraphQuery
namespace Order

/-- A refusal. -/
def refuse {α : Type} (fault : OrderFault) : Result α := .error (.invalidOrder fault)

/-- The parts of a text before and after its first point. -/
def splitAtPoint (field : String) : Option (String × String) :=
  match field.toList.span (· != '.') with
  | (before, _ :: after) => some (String.ofList before, String.ofList after)
  | _ => none

/-- Reads the direction of an item; one that is not a text counts as absent. -/
def parseDirection (item : Json) : Result SortDirection :=
  match (item.field? "direction").bind Json.string? with
  | none => .ok .ascending
  | some name =>
    match SortDirection.ofName? name with
    | some direction => .ok direction
    | none => refuse (.unknownDirection name)

/-- The key of a field. -/
def parseField (schema : Schema) (entity : EntityType) (field : String) (direction : SortDirection) :
    Result OrderKey :=
  match splitAtPoint field with
  | none =>
    match entity.property? field with
    | some property => .ok { OrderKey.ofProperty field direction with nullable := property.nullable }
    | none => refuse (.unknownProperty field entity.name)
  | some (name, property) =>
    match (entity.relationship? name).filter fun r => !r.isMany with
    | none => refuse (.notSingle name entity.name)
    | some relationship => do
      let target ← schema.entity relationship.target
      if (target.property? property).isSome then return .ofRelated relationship property direction
      else refuse (.unknownProperty property target.name)

/-- Reads an item. -/
def parseItem (schema : Schema) (entity : EntityType) (item : Json) : Result OrderKey := do
  if item.fields?.isNone then refuse (.itemShape item)
  else match (item.field? "field").bind Json.string? with
    | none => refuse (.fieldMissing item)
    | some field => parseField schema entity field (← parseDirection item)

/-- The items of an order. -/
def itemsOf (raw : Json) : Result (List Json) :=
  match raw with
  | .array items => .ok items
  | .object _ => .ok [raw]
  | .null => .ok []
  | _ => refuse (.shape raw)

/-- Reads an order for the nodes of a type. -/
def parse (schema : Schema) (entity : EntityType) (raw : Json) : Result Order := do
  let items ← itemsOf raw
  let keys ← items.foldlM (fun keys item => do
    let key ← parseItem schema entity item
    if keys.any fun k => k.name = key.name then refuse (.orderedTwice key.name) else return keys ++ [key]) []
  return ofKeys keys

end Order
end GraphQuery
