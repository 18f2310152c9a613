import GraphQuery.Cursor.Basic
import GraphQuery.Cursor.Seek
import GraphQuery.Plan.Basic
import GraphQuery.Schema.Basic
import GraphQuery.Statement.Basic

/-!
# Compiling plans

`Plan.compile` turns a plan into one statement: a block for every level, each with a variable of its own. It refuses a
plan that speaks of types or relationships the schema does not have, and cursors that do not belong to the order.
-/

namespace GraphQuery

/-- The type a plan speaks of. -/
def Schema.plannedType (schema : Schema) (name : String) : Result EntityType :=
  match schema.entity? name with
  | some entity => .ok entity
  | none => .error (.planCompilation (.unknownType name))

/-- Refuses a relationship that does not lead over the same edges in the type. -/
def EntityType.requireRelationship (entity : EntityType) (relationship : RelationshipDef) : Result Unit :=
  let found := (entity.relationship? relationship.name).filter fun r =>
    r.label = relationship.label ∧ r.direction = relationship.direction
  if found.isSome then .ok ()
  else .error (.planCompilation (.notARelationship relationship.qualifiedName entity.name))

/-- Refuses a sub-query whose relationship is not one of the type of its level, or of each type it is restricted to. -/
def Schema.requireSubQuery {ν : Type} (schema : Schema) (entity : EntityType) (sub : SubQuery ν) : Result Unit :=
  match sub.onlyOnTypes with
  | none => entity.requireRelationship sub.relationship
  | some types => types.forM fun name => do
    let scope ← schema.plannedType name
    if !scope.isSubtypeOf entity.name then throw (.planCompilation (.notASubtype scope.name entity.name))
    scope.requireRelationship sub.relationship

/-- The sort key of a block for a key of an order. -/
def OrderKey.term (key : OrderKey) (entity : EntityType) (var : String) : Result OrderTerm := do
  match key.path with
  | .property _ => pure ()
  | .related relationship _ => entity.requireRelationship relationship
  return ⟨key.name, key.path.operand var, key.direction⟩

/-- The operand of the first sort key of a name. -/
def operandNamed (terms : List OrderTerm) (var name : String) : Operand :=
  ((terms.find? fun term => term.name = name).map (·.operand)).getD (.property var name)

/-- The condition that a node lies beyond a cursor, if there is one. -/
def Order.seekCursor (order : Order) (cursor : Option String) (forwards : Bool) (operandOf : OrderKey → Operand)
    (b : Bindings) : Result (List Condition × Bindings) :=
  match cursor with
  | none => .ok ([], b)
  | some cursor => do
    let values ← Cursor.decode order cursor
    let condition := order.seek values forwards operandOf b
    return ([condition.1], condition.2)

/-- The condition that a node lies between the cursors of the options. -/
def Options.seek (options : Options) (operandOf : OrderKey → Operand) (b : Bindings) : Result (Condition × Bindings) :=
  do
  let after ← options.order.seekCursor options.after true operandOf b
  let before ← options.order.seekCursor options.before false operandOf after.2
  return (.and (after.1 ++ before.1), before.2)

mutual

/-- The block of a level. -/
def Level.compile (schema : Schema) : Level → Source → (resultKey : String) → (subQuery : Nat) →
    (onlyOnTypes : Option (List String)) → Bindings → Result (Block × Bindings)
  | ⟨entityType, options, filter, limit, _, parts⟩, source, resultKey, subQuery, onlyOnTypes, b => do
    let entity ← schema.plannedType entityType
    let var := b.freshVar
    let condition := filter.lower var.1 var.2
    let order ← options.order.keys.mapM fun key => key.term entity var.1
    let seek ← options.seek (fun key => operandNamed order var.1 key.name) condition.2
    let children ← compileParts schema entity var.1 parts seek.2
    return ({ var := var.1, label := entity.name, source, resultKey, subQuery, onlyOnTypes, condition := condition.1
              count := options.countsTotal, seek := seek.1, order, limit, reversed := options.last.isSome
              children := children.1 }, children.2)

/-- The blocks of the sub-queries under all result keys. -/
def compileParts (schema : Schema) (entity : EntityType) (var : String) :
    List (String × List (SubQuery Level)) → Bindings → Result (List Block × Bindings)
  | [], b => .ok ([], b)
  | (resultKey, subs) :: rest, b => do
    let first ← compileSubs schema entity var resultKey subs 0 b
    let others ← compileParts schema entity var rest first.2
    return (first.1 ++ others.1, others.2)

/-- The blocks of the sub-queries under one result key, counted from the given index. -/
def compileSubs (schema : Schema) (entity : EntityType) (var resultKey : String) :
    List (SubQuery Level) → Nat → Bindings → Result (List Block × Bindings)
  | [], _, b => .ok ([], b)
  | ⟨relationship, query, onlyOnTypes⟩ :: rest, i, b => do
    schema.requireSubQuery entity ⟨relationship, (), onlyOnTypes⟩
    let source := Source.traversal var relationship.label relationship.direction
    let first ← query.compile schema source resultKey i onlyOnTypes b
    let others ← compileSubs schema entity var resultKey rest (i + 1) first.2
    return (first.1 :: others.1, others.2)

end

/-- Where the nodes of a plan come from. -/
def Plan.source (schema : Schema) (b : Bindings) : Option Anchor → Result (Source × Bindings)
  | none => .ok (.all, b)
  | some anchor => do
    let parent ← schema.plannedType anchor.parentType
    parent.requireRelationship anchor.relationship
    let param := b.addParam anchor.parentId
    return (.anchored anchor.parentType param.1 anchor.relationship.label anchor.relationship.direction, param.2)

/-- The statement of a plan. -/
def Plan.compile (schema : Schema) (plan : Plan) : Result Statement := do
  let source ← Plan.source schema .empty plan.anchor
  let root ← plan.root.compile schema source.1 "" 0 none source.2
  return ⟨root.1, root.2.params⟩

end GraphQuery
