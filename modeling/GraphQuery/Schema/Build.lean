import GraphQuery.Schema.Basic

/-!
# Building a schema

`Schema.build` checks a list of declarations and flattens them: every type gets the members of its ancestors, of
several declarations of a name the first on the way up, and the united authorization. It refuses repeated names, unknown
or circular supertypes, unknown targets, authorization through unknown relationships, and inverses that do not lead back.
-/

namespace GraphQuery
namespace Schema

/-! ## Declarations -/

/-- The names of properties and relationships, in order. -/
def memberNames (decl : EntityDecl) : List String :=
  decl.properties.map (·.name) ++ decl.relationships.map (·.name)

/-- The first name that stands earlier in the list, too. -/
def firstRepeated? (seen : List String) : List String → Option String
  | [] => none
  | name :: rest => if name ∈ seen then some name else firstRepeated? (name :: seen) rest

/-- Gathers the declarations by name; members and types must not repeat. -/
def gather (decls : List EntityDecl) : Result (Table EntityDecl) :=
  decls.foldlM (fun table decl =>
    match firstRepeated? [] (memberNames decl) with
    | some name => .error (.invalidSchema (.duplicateMember name decl.name))
    | none =>
      if (table.lookup decl.name).isSome then .error (.invalidSchema (.duplicateEntity decl.name))
      else .ok (Table.insert table decl.name decl)) []

/-! ## Lineage -/

/-- Extends the lineage `found` by what lies above a type: its supertypes in order, each followed by what lies above
it. `path` leads from the start to the type. A path without a repetition is no longer than the table, so `fuel` above
that length is never used up. -/
def ascend (decls : Table EntityDecl) : (fuel : Nat) → (name : String) → (path found : List String) →
    Result (List String)
  | 0, _, _, _ => .error (.invalidSchema .supertypeCycle)
  | fuel + 1, name, path, found =>
    match List.lookup name decls with
    | none => .error (.invalidSchema (.unknownSupertype name))
    | some decl =>
      decl.supertypes.foldlM (fun found supertype =>
        if supertype ∈ path then .error (.invalidSchema .supertypeCycle)
        else ascend decls fuel supertype (path ++ [supertype])
          (if supertype ∈ found then found else found ++ [supertype])) found

/-- The types above a type, each once, in the order in which their members are inherited. -/
def lineage (decls : Table EntityDecl) (name : String) : Result (List String) :=
  ascend decls (decls.length + 1) name [name] []

/-! ## Flattening -/

/-- Appends the members whose name is not yet taken. -/
def addMembers {α : Type} (nameOf : α → String) (members inherited : List α) : List α :=
  inherited.foldl (fun members m => if members.any fun k => nameOf k = nameOf m then members else members ++ [m])
    members

/-- A type with the members and the authorization of its lineage. -/
def flatten (decls : Table EntityDecl) (decl : EntityDecl) (above : List String) : Result EntityType := do
  let parents := above.filterMap fun name => List.lookup name decls
  let properties := parents.foldl (fun ps parent => addMembers (·.name) ps parent.properties) decl.properties
  let relationships :=
    parents.foldl (fun rs parent => addMembers (·.name) rs parent.relationships) decl.relationships
  match relationships.find? fun r => (List.lookup r.target decls).isNone with
  | some r => throw (.invalidSchema (.unknownTarget r.qualifiedName r.target))
  | none =>
    let authorizations ← Authorization.unite decl.name relationships
      (decl.authorizations ++ parents.flatMap (·.authorizations))
    return { name := decl.name, isAbstract := decl.isAbstract, properties, relationships
             ancestors := sortNames above, authorizations }

/-! ## Inverses -/

/-- Checks that the declared inverse of a relationship exists, follows the same edges backwards, ends at the type the
relationship comes from or at one related to it, and names no other relationship as its own inverse. -/
def checkInverse (schema : Schema) (r : RelationshipDef) : Result Unit := do
  match r.inverse with
  | none => return ()
  | some name =>
    let target ← schema.entity r.target
    match target.relationship? name with
    | none => throw (.invalidSchema (.inverseMissing name r.qualifiedName target.name))
    | some inverse =>
      if inverse.label ≠ r.label ∨ inverse.direction ≠ r.direction.reverse then
        throw (.invalidSchema (.inverseMismatch inverse.qualifiedName r.qualifiedName r.label))
      let owner ← schema.entity r.owner
      let back ← schema.entity inverse.target
      if !owner.isSubtypeOf back.name && !back.isSubtypeOf owner.name then
        throw (.invalidSchema (.inverseUnrelated inverse.qualifiedName inverse.target owner.name))
      match inverse.inverse with
      | none => return ()
      | some b => if b ≠ r.name then throw (.invalidSchema (.inverseAstray inverse.qualifiedName b r.name))

/-! ## Building -/

/-- Applies a step that may fail to every entry. -/
def mapEntriesM {α β : Type} (f : α → Result β) (table : Table α) : Result (Table β) :=
  table.mapM fun (name, entry) => do return (name, ← f entry)

/-- The schema of a list of declarations. -/
def build (decls : List EntityDecl) : Result Schema := do
  let decls ← gather decls
  let lineages ← mapEntriesM (fun decl => do return (decl, ← lineage decls decl.name)) decls
  let schema : Schema := ⟨← mapEntriesM (fun (decl, above) => flatten decls decl above) lineages⟩
  schema.entities.forM fun (_, entity) => entity.relationships.forM schema.checkInverse
  return schema

end Schema
end GraphQuery
