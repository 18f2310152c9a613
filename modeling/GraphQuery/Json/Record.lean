import GraphQuery.Json.Basic

/-!
# Records and variants in JSON

A record is written as an object of its members, or as an array of them in order. Unknown members are ignored, and a
member that may be missing reads as missing when it is absent or `null`. A variant is written as an object whose one
field names it; one without content may be its bare name, and one with members of its own is an object of them, never
an array.
-/

namespace GraphQuery
namespace Json

/-- The members of a record under the given names. An array may leave out as many trailing members as have a
default. -/
def members? (names : List String) (defaults : Nat) : Json → Option (List (Option Json))
  | object fields => some (names.map fun name => fields.lookup name)
  | array items =>
    if items.length ≤ names.length ∧ names.length ≤ items.length + defaults then
      some (items.map some ++ List.replicate (names.length - items.length) none)
    else none
  | _ => none

/-- The members of a variant under the given names. -/
def variantMembers? (names : List String) : Json → Option (List (Option Json))
  | object fields => some (names.map fun name => fields.lookup name)
  | _ => none

/-- Reads a member that may be missing. -/
def optional? {α : Type} (read : Json → Option α) : Option Json → Option (Option α)
  | none => some none
  | some null => some none
  | some json => (read json).map some

/-- The name and the content of a variant that carries one. -/
def variant? : Json → Option (String × Json)
  | object [(name, content)] => some (name, content)
  | _ => none

/-- The name of a variant without content. -/
def unitVariant? : Json → Option String
  | string name => some name
  | object [(name, null)] => some name
  | _ => none

/-- The items of an array, each read. -/
def list? {α : Type} (read : Json → Option α) (json : Json) : Option (List α) := do (← json.items?).mapM read

/-- The entries of an object, each read. -/
def table? {α : Type} (read : Json → Option α) (json : Json) : Option (Table α) := do
  (← json.fields?).mapM fun (name, entry) => do return (name, ← read entry)

end Json
end GraphQuery
