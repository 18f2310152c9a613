import GraphQuery.Json.Record
import GraphQuery.Value

/-!
# Permissions

A permission is the name of an access check and the parameters that its rules may read.
-/

namespace GraphQuery

/-- A named access check with its context. -/
structure Permission where
  /-- The name under which types declare authorization. -/
  name : String
  /-- Parameters that rules may read. -/
  context : Table Value
deriving DecidableEq, Inhabited

namespace Permission

/-- A context parameter. -/
def parameter? (permission : Permission) (name : String) : Option Value := List.lookup name permission.context

/-- The interchange form. -/
def toJson (permission : Permission) : Json :=
  .object [("name", .string permission.name), ("context", Json.ofTable Value.tagged permission.context)]

/-- Reads the interchange form. -/
def ofJson? (json : Json) : Option Permission := do
  match ← json.members? ["name", "context"] 0 with
  | [name, context] => return ⟨← (← name).string?, ← (← context).table? Value.ofTagged?⟩
  | _ => none

end Permission

end GraphQuery
