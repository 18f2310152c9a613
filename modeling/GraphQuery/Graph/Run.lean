import GraphQuery.Graph.Truth
import GraphQuery.Statement.Answer
import GraphQuery.Statement.Basic

/-!
# Running statements

`Graph.run` answers a statement. For each block it gathers the candidates, keeps those whose condition is true and
counts them, keeps those beyond the cursors, sorts and cuts off, and then runs the children for every row.
-/

namespace GraphQuery

/-! ## Sorting -/

/-- Puts an element behind the elements of a descending list that it is not less than. -/
def insertDescending {α : Type} (less : α → α → Bool) (x : α) : List α → List α
  | [] => [x]
  | y :: rest => if less x y then y :: insertDescending less x rest else x :: y :: rest

/-- Sorts a list, equal elements keeping their order. -/
def sortBy {α : Type} (less : α → α → Bool) (xs : List α) : List α :=
  (xs.foldl (fun sorted x => insertDescending less x sorted) []).reverse

/-- Compares two values in a direction; nulls come last upwards and first downwards. -/
def SortDirection.compare : SortDirection → Value → Value → Ordering
  | ascending, a, b => a.compare b
  | descending, a, b => b.compare a

/-- Compares two lists of values by the first difference, each place in its direction. -/
def compareKeys : List SortDirection → List Value → List Value → Ordering
  | direction :: directions, a :: as, b :: bs => (direction.compare a b).then (compareKeys directions as bs)
  | _, _, _ => .eq

namespace Block

/-- The directions in which the sort keys are run through. -/
def directions (block : Block) : List SortDirection := block.order.map block.effectiveDirection

/-- The rows of a page, of all rows that lie beyond the cursors. -/
def page {α : Type} (block : Block) (rows : List (α × List Value)) : List (α × List Value) :=
  let sorted := sortBy (fun a b => compareKeys block.directions a.2 b.2 = .lt) rows
  let cut :=
    match block.limit with
    | some limit => sorted.take limit
    | none => sorted
  if block.reversed then cut.reverse else cut

end Block

/-! ## Blocks -/

variable [PropertyTable]

namespace Evaluation

variable (e : Evaluation)

/-- The nodes a block starts with, by identifier. -/
def candidates (block : Block) (scope : Scope) : Result (List String) :=
  match block.source with
  | .all => .ok (e.graph.labelled block.label)
  | .anchored parentLabel parentParam label direction => do
    match ← e.param parentParam with
    | .string parent =>
      if e.graph.hasLabel parent parentLabel then return e.graph.neighbours parent label direction block.label
      else return []
    | other => .error (.storeExecution (.parentNotText other))
  | .traversal node label direction => do
    return e.graph.neighbours (← bound scope node) label direction block.label

/-- Whether a condition is true of a node bound to a variable. -/
def holds (condition : Condition) (var id : String) (scope : Scope) : Result Bool := do
  return (← e.truth condition ((var, id) :: scope)) = some true

/-- The nodes that satisfy the condition of a block. -/
def matching (block : Block) (scope : Scope) : Result (List String) := do
  (← e.candidates block scope).filterM fun id => e.holds block.condition block.var id scope

/-- The values of the sort keys of a node, if it lies beyond the cursors. -/
def keysBeyond (block : Block) (scope : Scope) (id : String) : Result (Option (String × List Value)) := do
  if ← e.holds block.seek block.var id scope then
    return some (id, ← block.order.mapM fun term => e.operand ((block.var, id) :: scope) term.operand)
  else return none

/-- The count of a block, and the nodes of its page with the values of their sort keys. -/
def select (block : Block) (scope : Scope) : Result (Option Nat × List (String × List Value)) := do
  let matched ← e.matching block scope
  let keyed ← matched.filterMapM (e.keysBeyond block scope)
  return (if block.count then some matched.length else none, block.page keyed)

mutual

/-- The answer to a block. -/
def run : Block → Scope → Result (Answer Row)
  | ⟨var, label, source, resultKey, subQuery, onlyOnTypes, condition, count, seek, order, limit, reversed, children⟩,
    scope => do
    let selected ← e.select
      ⟨var, label, source, resultKey, subQuery, onlyOnTypes, condition, count, seek, order, limit, reversed, children⟩
      scope
    let rows ← selected.2.mapM fun (id, values) => do
      let node ← e.graph.node id
      let answers ← runChildren children node.labels ((var, id) :: scope)
      return ⟨id, node.labels, node.properties, Table.ofList ((order.map (·.name)).zip values), Table.ofList answers⟩
    return ⟨selected.1, rows⟩

/-- The answers to the blocks that apply below a row, by variable. -/
def runChildren : List Block → (labels : List String) → Scope → Result (List (String × Answer Row))
  | [], _, _ => .ok []
  | child :: rest, labels, scope => do
    if child.appliesTo labels then
      let answer ← run child scope
      return (child.var, answer) :: (← runChildren rest labels scope)
    else runChildren rest labels scope

end

end Evaluation

/-- The answer to a statement. -/
def Graph.run (graph : Graph) (statement : Statement) : Result (Answer Row) :=
  Evaluation.run ⟨graph, statement.params.map fun (name, value) => (name, .ofValue value)⟩ statement.root []

end GraphQuery
