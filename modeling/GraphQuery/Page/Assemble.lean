import GraphQuery.Cache.Basic
import GraphQuery.Cursor.Basic
import GraphQuery.Page.Basic
import GraphQuery.Schema.Basic
import GraphQuery.Statement.Answer
import GraphQuery.Statement.Basic

/-!
# Assembling results

The rows of an answer become typed nodes and pages. A row fetched beyond the page size tells that a page follows and is
dropped. Every result of a relationship goes into the cache of its node, where an earlier result of the same key counts
instead of the new one.

* `Level.assemble` assembles the answer to a level by its cardinality, `Level.assemblePage` always as a page.
-/

namespace GraphQuery

/-- The caches of a request that keep results of relationships. -/
abbrev ResultCache := RequestCache (Related Node)

/-- A step of assembling results. -/
abbrev Assembly (α : Type) := Run ResultCache α

/-! ## Pages -/

/-- The part of the rows that belongs to a page, and whether nodes follow and precede it. -/
def Options.slice {α : Type} (options : Options) (rows : List α) : List α × Bool × Bool :=
  match options.first, options.last with
  | some first, _ => (rows.take first, decide (first < rows.length), options.after.isSome)
  | none, some last => (rows.drop (rows.length - last), options.before.isSome, decide (last < rows.length))
  | none, none => (rows, options.before.isSome, options.after.isSome)

/-- The page of an answer, given how its rows become nodes. -/
def Options.page (options : Options) (nodeOf : Row → Assembly Node) (answer : Answer Row) : Assembly (Page Node) := do
  let (rows, hasNext, hasPrevious) := options.slice answer.rows
  let items ← rows.mapM fun row => return ⟨Cursor.encode options.order row.keys, ← nodeOf row⟩
  return ⟨items, answer.totalCount,
    ⟨hasNext, hasPrevious, items.head?.map (·.cursor), items.getLast?.map (·.cursor)⟩⟩

/-- The result of a level, given how its rows become nodes. -/
def Level.related (level : Level) (nodeOf : Row → Assembly Node) (answer : Answer Row) : Assembly (Related Node) :=
  match level.cardinality with
  | .one =>
    match answer.rows with
    | [] => return .one none
    | row :: _ => return .one (some (← nodeOf row))
  | .many => return .many (← level.options.page nodeOf answer)

/-! ## Nodes -/

/-- The concrete type of the node of a row. -/
def Row.concreteType (row : Row) (schema : Schema) : Result EntityType :=
  match schema.concreteType? row.labels with
  | some entity => .ok entity
  | none => .error (.storeExecution (.noConcreteType row.id))

/-- Keeps the result of a relationship of a node and gives back the one that counts. -/
def keep (typeName id : String) (key : CacheKey) (result : Related Node) : Assembly (Related Node) :=
  modifyGet fun cache =>
    let kept := (cache.forNode typeName id).insertReady key result
    (kept.1, cache.set typeName id kept.2)

mutual

/-- The node of a row. -/
def Level.assembleNode (schema : Schema) : Level → Block → Row → Assembly Node
  | ⟨_, _, _, _, _, parts⟩, block, row => do
    let entity ← MonadExcept.ofExcept (row.concreteType schema)
    modify fun cache => cache.see entity.name row.id
    let relationships ← assembleParts schema entity.name row parts block
    return ⟨row.id, entity.name, row.properties, relationships, (← get).request⟩

/-- The results of the sub-queries under all result keys that apply to a node. -/
def assembleParts (schema : Schema) (typeName : String) (row : Row) :
    List (String × List (SubQuery Level)) → Block → Assembly (List (String × Related Node))
  | [], _ => return []
  | (resultKey, subs) :: rest, block => do
    match ← assembleFirst schema typeName row resultKey subs 0 block with
    | some result => return (resultKey, result) :: (← assembleParts schema typeName row rest block)
    | none => assembleParts schema typeName row rest block

/-- The result of the first sub-query that applies to a node, counted from the given index. -/
def assembleFirst (schema : Schema) (typeName : String) (row : Row) (resultKey : String) :
    List (SubQuery Level) → Nat → Block → Assembly (Option (Related Node))
  | [], _, _ => return none
  | ⟨relationship, query, onlyOnTypes⟩ :: rest, i, block => do
    if SubQuery.appliesTo ⟨relationship, (), onlyOnTypes⟩ typeName then
      match block.child? resultKey i with
      | none => throw (.planCompilation (.blockMissing resultKey typeName))
      | some child =>
        let answer := (List.lookup child.var row.children).getD .empty
        let result ← query.related (fun row => query.assembleNode schema child row) answer
        return some (← keep typeName row.id (.ofQuery relationship query) result)
    else assembleFirst schema typeName row resultKey rest (i + 1) block

end

namespace Level

/-- The page of an answer to a level. -/
def assemblePage (level : Level) (schema : Schema) (block : Block) (answer : Answer Row) : Assembly (Page Node) :=
  level.options.page (level.assembleNode schema block) answer

/-- The result of an answer to a level. -/
def assemble (level : Level) (schema : Schema) (block : Block) (answer : Answer Row) : Assembly (Related Node) :=
  level.related (level.assembleNode schema block) answer

end Level

end GraphQuery
