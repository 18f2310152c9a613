import GraphQuery.Filter.Parser
import GraphQuery.Options
import GraphQuery.Order.Parser
import GraphQuery.Request.Field

/-!
# Arguments of fields

A field that yields pages may carry the arguments `filter`, `orderBy`, `after`, `before`, `first` and `last`; one that
is `null` counts as absent. `Field.nodeSelection` finds the fields wanted of each node below it.
-/

namespace GraphQuery

variable [PropertyTable]

namespace Field

/-- An argument that is given and not `null`. -/
def present? (field : Field) (name : String) : Option Json := (field.argument? name).filter fun json => !json.isNull

/-- Reads an argument, if it is given. -/
def readArgument {α : Type} (field : Field) (name : String) (read : Json → Result α) : Result (Option α) :=
  match field.present? name with
  | none => .ok none
  | some json => some <$> read json

/-- Reads a cursor. -/
def readCursor (name : String) (json : Json) : Result String :=
  match json.string? with
  | some text => .ok text
  | none => .error (.invalidCursor (.textExpected name))

/-- Reads a limit. -/
def readLimit (name : String) (json : Json) : Result Int :=
  match Value.int64OfJson? json with
  | some n => .ok n.toInt
  | none => .error (.invalidQueryOptions (.integerExpected name))

/-- The options in the arguments of a field for the nodes of a type. -/
def options (field : Field) (schema : Schema) (entity : EntityType) (countsTotal : Bool) : Result Options := do
  let filter ← field.readArgument "filter" (Filter.parse schema entity)
  let order ← field.readArgument "orderBy" (Order.parse schema entity)
  let after ← field.readArgument "after" (readCursor "after")
  let before ← field.readArgument "before" (readCursor "before")
  let first ← field.readArgument "first" (readLimit "first")
  let last ← field.readArgument "last" (readLimit "last")
  Options.build (filter.getD .all) (order.getD .byId) after before first last countsTotal

/-- Whether two fields have the same arguments. -/
def sameArguments (a b : Field) : Bool := Json.sameFields a.arguments b.arguments

/-- Whether the total count is wanted. -/
def wantsTotal (field : Field) : Bool := field.hasChild "totalCount"

/-- The fields wanted of each node by one field below a relationship that yields pages: those below `nodes`, those
below `node` below `edges`, none for the fields of the page itself, and any other field as it is. -/
def ofPage (child : Field) : List Field :=
  if child.name = "nodes" then child.selection
  else if child.name = "edges" then
    child.selection.flatMap fun edge => if edge.name = "node" then edge.selection else []
  else if child.name = "totalCount" ∨ child.name = "pageInfo" then []
  else [child]

/-- The fields wanted of each node below several fields for one relationship. -/
def nodeSelection (fields : List Field) (cardinality : Cardinality) : List Field :=
  fields.flatMap fun field =>
    match cardinality with
    | .many => field.selection.flatMap ofPage
    | .one => field.selection

end Field

end GraphQuery
