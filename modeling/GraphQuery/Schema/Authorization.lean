import GraphQuery.Error
import GraphQuery.Schema.Relationship

/-!
# Authorization declarations

A type declares, per permission name, the rules that allow access, the relationships through which access is
inherited, and the rules that forbid it. The declarations of a type and of its ancestors are united into one
`Authorization` per permission name by `Authorization.unite`.
-/

namespace GraphQuery

/-- A reference to a named rule with its static options. -/
structure RuleRef where
  name : String
  options : Table String
deriving DecidableEq, Inhabited

namespace RuleRef

/-- A static option. -/
def option? (rule : RuleRef) (key : String) : Option String := List.lookup key rule.options

/-- The interchange form. -/
def toJson (rule : RuleRef) : Json :=
  .object [("name", .string rule.name), ("options", Json.ofTable .string rule.options)]

/-- Reads the interchange form. -/
def ofJson? (json : Json) : Option RuleRef := do
  match ← json.members? ["name", "options"] 0 with
  | [name, options] => return ⟨← (← name).string?, ← (← options).table? Json.string?⟩
  | _ => none

end RuleRef

/-- What one type declares for one permission name. -/
structure AuthorizationDecl where
  /-- The permission name. -/
  name : String
  /-- Rules that allow access. -/
  allow : List RuleRef
  /-- Relationships whose nodes pass their access on. -/
  allowFromRelated : List String
  /-- Rules that forbid access, whatever allows it. -/
  disallow : List RuleRef
  /-- Whether access is allowed without a rule. -/
  allowAll : Bool
deriving DecidableEq, Inhabited

/-- What a type and its ancestors declare for one permission name. -/
structure Authorization where
  allow : List RuleRef
  allowFromRelated : List RelationshipDef
  disallow : List RuleRef
  allowAll : Bool
deriving DecidableEq, Inhabited

namespace Authorization

/-- No declaration at all. -/
def empty : Authorization := ⟨[], [], [], false⟩

/-- Appends the rules that are not yet there. -/
def addRules (known : List RuleRef) (rules : List RuleRef) : List RuleRef :=
  rules.foldl (fun known rule => if rule ∈ known then known else known ++ [rule]) known

/-- Appends the named relationships of a type that are not yet there. -/
def addRelated (entity : String) (relationships : List RelationshipDef) (permission : String)
    (known : List RelationshipDef) (names : List String) : Result (List RelationshipDef) :=
  names.foldlM (fun known name =>
    match relationships.find? fun r => r.name = name with
    | none => .error (.invalidSchema (.unknownAllowance permission entity name))
    | some r => .ok (if known.any fun k => k.name = r.name then known else known ++ [r])) known

/-- Unites an authorization with one more declaration. -/
def absorb (entity : String) (relationships : List RelationshipDef) (merged : Authorization)
    (decl : AuthorizationDecl) : Result Authorization := do
  return {
    allow := addRules merged.allow decl.allow
    disallow := addRules merged.disallow decl.disallow
    allowAll := merged.allowAll || decl.allowAll
    allowFromRelated := ← addRelated entity relationships decl.name merged.allowFromRelated decl.allowFromRelated }

/-- Unites the declarations of a type and its ancestors, per permission name. The relationships are those of the type,
inherited ones included. -/
def unite (entity : String) (relationships : List RelationshipDef) (decls : List AuthorizationDecl) :
    Result (Table Authorization) :=
  decls.foldlM (fun table decl => do
    let merged ← absorb entity relationships ((table.lookup decl.name).getD empty) decl
    return Table.insert table decl.name merged) []

end Authorization

end GraphQuery
