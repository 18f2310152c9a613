import GraphQuery.Authorization.Rule

/-!
# The filter of a permission

`Access.filter` is what a permission demands of the nodes of a type: some allowing rule passes, or some node related to
it through an allowing relationship is accessible itself, and no forbidding rule passes. A type that declares nothing
for the permission has no accessible nodes.
-/

namespace GraphQuery

/-- What access checks depend on. -/
structure Access where
  rules : RuleRegistry
  /-- How many related nodes an access check may go through. -/
  maxHops : Nat

namespace Access

/-- The number of hops that is allowed when nothing else is said. -/
def defaultMaxHops : Nat := 8

/-- The filter of a united authorization, given the filters of the nodes that pass their access on. -/
def filterOf (rules : RuleRegistry) (entity : EntityType) (permission : Permission) (authorization : Authorization)
    (inherited : RelationshipDef → Result Filter) : Result Filter := do
  let allow ←
    if authorization.allowAll then pure Filter.all
    else do
      let direct ← authorization.allow.mapM (rules.generate entity permission)
      let related ← authorization.allowFromRelated.mapM fun r => return Filter.related r .any (← inherited r)
      pure (.disj (direct ++ related))
  if authorization.disallow.isEmpty then return allow
  let disallow ← authorization.disallow.mapM (rules.generate entity permission)
  return .conjoin [allow, .neg (.disj disallow)]

/-- The filter that a permission demands, when at most the given number of types may be visited. -/
def filterWithin (access : Access) (schema : Schema) (permission : Permission) : Nat → EntityType → Result Filter
  | 0, entity => .error (.authorizationDepthExceeded permission.name entity.name access.maxHops)
  | visits + 1, entity =>
    match entity.authorization? permission.name with
    | none => .ok .nothing
    | some authorization =>
      filterOf access.rules entity permission authorization fun r => do
        filterWithin access schema permission visits (← schema.entity r.target)

/-- The filter that a permission demands of the nodes of a type. -/
def filter (access : Access) (schema : Schema) (entity : EntityType) (permission : Permission) : Result Filter :=
  access.filterWithin schema permission (access.maxHops + 1) entity

end Access

end GraphQuery
