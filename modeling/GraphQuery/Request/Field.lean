import GraphQuery.Json.Record

/-!
# Requested fields

A request is a tree of fields. A field may be renamed by an alias, restricted to a subtype by a type condition, given
arguments as JSON trees, and asked for fields of its own.
-/

namespace GraphQuery

/-- A requested field. -/
structure Field where
  /-- The name as declared on the type. -/
  name : String
  /-- The name chosen by the client for the result. -/
  aliasName : Option String
  /-- Arguments by name. -/
  arguments : Table Json
  /-- The type of the enclosing fragment. -/
  typeCondition : Option String
  /-- The fields requested below this one. -/
  selection : List Field
deriving Inhabited

namespace Field

/-- A field with nothing but a name. -/
def named (name : String) : Field := ⟨name, none, [], none, []⟩

/-- The key under which the result of the field is returned. -/
def resultKey (field : Field) : String := field.aliasName.getD field.name

/-- The argument of a name. -/
def argument? (field : Field) (name : String) : Option Json := List.lookup name field.arguments

/-- The first field of a name below this one. -/
def child? (field : Field) (name : String) : Option Field := field.selection.find? fun f => f.name = name

/-- Whether a field of that name was requested below this one. -/
def hasChild (field : Field) (name : String) : Bool := field.selection.any fun f => f.name = name

mutual

/-- The interchange form of a field. -/
def toJson : Field → Json
  | ⟨name, aliasName, arguments, typeCondition, selection⟩ =>
    .object [("name", .string name), ("alias", Json.ofOption .string aliasName), ("arguments", .object arguments),
      ("type_condition", Json.ofOption .string typeCondition), ("selection", .array (listToJson selection))]

/-- The interchange forms of several fields. -/
def listToJson : List Field → List Json
  | [] => []
  | field :: rest => field.toJson :: listToJson rest

end

/-- Reads the interchange form; the first argument bounds the nesting. -/
def ofJsonWithin? : Nat → Json → Option Field
  | 0, _ => none
  | depth + 1, json => do
    match ← json.members? ["name", "alias", "arguments", "type_condition", "selection"] 0 with
    | [name, aliasName, arguments, typeCondition, selection] =>
      return ⟨← (← name).string?, ← Json.optional? Json.string? aliasName, ← (← arguments).fields?,
        ← Json.optional? Json.string? typeCondition, ← (← selection).list? (ofJsonWithin? depth)⟩
    | _ => none

/-- Reads the interchange form. -/
def ofJson? (json : Json) : Option Field := ofJsonWithin? json.depth json

end Field

end GraphQuery
