import GraphQuery.Authorization.Access
import GraphQuery.Plan.Arguments
import GraphQuery.Plan.Basic

/-!
# Planning

A request becomes a plan: every relationship field becomes a sub-query with its own options, the filter of the
permission and a limit. A `Budget` bounds the page sizes and the nesting.

* `Planner.level` plans a level below an entity type;
* `Planner.query` plans a query with options, `Planner.connection` one whose options are arguments, and
  `Planner.relationship` the load of one relationship of a node.
-/

namespace GraphQuery

variable [PropertyTable]

/-! ## Budgets -/

/-- The limits of a plan. -/
structure Budget where
  /-- How many levels may stand below the topmost one. -/
  maxDepth : Nat
  maxPageSize : Nat
deriving DecidableEq, Inhabited

namespace Budget

/-- The limits when nothing else is said. -/
def default : Budget := ⟨8, 1000⟩

/-- Limits that no request reaches; page sizes leave room for one more in 64 bits. -/
def unlimited : Budget := ⟨0xFFFFFFFFFFFFFFFF, 0xFFFFFFFFFFFFFFFE⟩

/-- Refuses a page size above the limit. -/
def checkPage (budget : Budget) (entity : EntityType) (options : Options) : Result Unit :=
  match options.pageSize with
  | none => .ok ()
  | some size =>
    if budget.maxPageSize < size then .error (.budgetExceeded (.pageSize size entity.name budget.maxPageSize))
    else .ok ()

end Budget

/-! ## Grouping fields -/

/-- Fields that ask for one relationship under one result key, for the same types of nodes. -/
structure FieldGroup where
  resultKey : String
  relationship : RelationshipDef
  /-- The concrete types of the nodes it applies to, sorted; all when there is no list. -/
  onlyOnTypes : Option (List String)
  field : Field
  /-- More fields, in their order. -/
  others : List Field
deriving Inhabited

namespace FieldGroup

/-- All fields of a group. -/
def fields (group : FieldGroup) : List Field := group.field :: group.others

/-- Adds a group of one field; its field joins an earlier group of the same result key and types. -/
def add (groups : List FieldGroup) (new : FieldGroup) : List FieldGroup :=
  match groups with
  | [] => [new]
  | group :: rest =>
    if group.resultKey = new.resultKey ∧ group.onlyOnTypes = new.onlyOnTypes then
      { group with others := group.others ++ [new.field] } :: rest
    else group :: add rest new

end FieldGroup

/-- The limit of the rows to fetch. -/
def Options.rowLimit (options : Options) : Cardinality → Option Nat
  | .one => some 1
  | .many => options.pageSize.map (· + 1)

/-- Appends a sub-query to the part of a result key. -/
def addToPart (parts : List (String × List (SubQuery Level))) (resultKey : String) (sub : SubQuery Level) :
    List (String × List (SubQuery Level)) :=
  Table.insert parts resultKey ((List.lookup resultKey parts).getD [] ++ [sub])

/-! ## Planning -/

/-- What planning depends on. -/
structure Planner where
  schema : Schema
  access : Access
  budget : Budget
  permission : Option Permission

namespace Planner

variable (planner : Planner)

/-- The filter that the permission demands of the nodes of a type; all nodes are accessible without a permission. -/
def authorization (entity : EntityType) : Result Filter :=
  match planner.permission with
  | none => .ok .all
  | some permission => planner.access.filter planner.schema entity permission

/-- The type a field is declared on: its type condition, or the type of the level. -/
def scopeOf (entity : EntityType) (field : Field) : Result EntityType :=
  match field.typeCondition with
  | some name => planner.schema.entity name
  | none => .ok entity

/-- The types to which a fragment applies: all when every node of the level is of its type. -/
def typesOf (entity scope : EntityType) : Option (List String) :=
  if entity.isSubtypeOf scope.name then none else some (planner.schema.concreteSubtypes scope.name)

/-- Adds a field to the groups of its level. A field that is no relationship is a property and needs no plan. -/
def addField (entity : EntityType) (groups : List FieldGroup) (field : Field) : Result (List FieldGroup) := do
  let scope ← planner.scopeOf entity field
  if !scope.isSubtypeOf entity.name && !entity.isSubtypeOf scope.name then
    throw (.planCompilation (.conditionDoesNotApply scope.name entity.name))
  match scope.relationship? field.name with
  | none => return groups
  | some relationship =>
    return FieldGroup.add groups ⟨field.resultKey, relationship, planner.typesOf entity scope, field, []⟩

/-- The relationship fields of a level, grouped. -/
def groups (entity : EntityType) (selection : List Field) : Result (List FieldGroup) :=
  selection.foldlM (planner.addField entity) []

/-- The options of a relationship asked for by several fields, whose arguments must be the same. The total is counted if
one of them wants it. -/
def relationshipOptions (relationship : RelationshipDef) (target : EntityType) (field : Field) (others : List Field) :
    Result Options :=
  match others.find? fun other => !other.sameArguments field with
  | some other => .error (.invalidQueryOptions (.conflictingArguments other.resultKey))
  | none =>
    if relationship.isMany then
      field.options planner.schema target ((field :: others).any Field.wantsTotal)
    else .ok .single

/-- Plans a level, given the plans of the levels below it. -/
def levelOver (nested : FieldGroup → Result Level) (entity : EntityType) (selection : List Field) (options : Options)
    (cardinality : Cardinality) : Result Level := do
  planner.budget.checkPage entity options
  let authorization ← planner.authorization entity
  let groups ← planner.groups entity selection
  let parts ← groups.foldlM (fun parts group => do
    return addToPart parts group.resultKey ⟨group.relationship, ← nested group, group.onlyOnTypes⟩) []
  return ⟨entity.name, options, .conjoin [options.filter, authorization], options.rowLimit cardinality, cardinality,
    parts⟩

/-- Plans a level with at most the given number of levels below it. -/
def level : (room : Nat) → EntityType → List Field → Options → Cardinality → Result Level
  | 0 => planner.levelOver fun group =>
      .error (.budgetExceeded (.depth group.relationship.qualifiedName planner.budget.maxDepth))
  | room + 1 => planner.levelOver fun group => do
      let relationship := group.relationship
      let target ← planner.schema.entity relationship.target
      let options ← planner.relationshipOptions relationship target group.field group.others
      level room target (Field.nodeSelection group.fields relationship.cardinality) options relationship.cardinality

/-- Plans a query of the nodes of a type. -/
def query (entityType : String) (selection : List Field) (options : Options) : Result Plan := do
  let entity ← planner.schema.entity entityType
  return ⟨← planner.level planner.budget.maxDepth entity selection options .many, none⟩

/-- Plans a query of the nodes of a type whose options are the arguments of a field. -/
def connection (entityType : String) (field : Field) : Result Plan := do
  let entity ← planner.schema.entity entityType
  let options ← field.options planner.schema entity field.wantsTotal
  return ⟨← planner.level planner.budget.maxDepth entity (Field.nodeSelection [field] .many) options .many, none⟩

/-- Plans the load of one relationship of a node. -/
def relationship (parentType : String) (parentId : Value) (field : Field) : Result Plan := do
  let parent ← planner.schema.entity parentType
  match parent.relationship? field.name with
  | none => throw (.planCompilation (.notARelationship field.name parent.name))
  | some relationship =>
    let target ← planner.schema.entity relationship.target
    let options ← planner.relationshipOptions relationship target field []
    let root ← planner.level planner.budget.maxDepth target
      (Field.nodeSelection [field] relationship.cardinality) options relationship.cardinality
    return ⟨root, some ⟨parent.name, parentId, relationship⟩⟩

end Planner

end GraphQuery
