import GraphQuery.Condition.Basic

/-!
# Statements

A statement asks a store for everything a plan wants at once. It is a tree of blocks: a `Block` matches nodes of one
label, keeps those that satisfy its condition, counts them, drops those that lie before its cursor, sorts the rest and
cuts it off; its children are run for every row that is left. Values stand in a table of parameters.
-/

namespace GraphQuery

/-- Where the nodes of a block come from. -/
inductive Source where
  /-- All nodes of the label. -/
  | all
  /-- The nodes one edge away from the node whose identifier is a parameter. -/
  | anchored (parentLabel parentParam label : String) (direction : Direction)
  /-- The nodes one edge away from the row of an enclosing block. -/
  | traversal (node label : String) (direction : Direction)
deriving DecidableEq, Inhabited

/-- A sort key of a block. -/
structure OrderTerm where
  /-- The name under which the rows give the value back. -/
  name : String
  operand : Operand
  direction : SortDirection
deriving DecidableEq, Inhabited

/-- One level of a statement. -/
structure Block where
  /-- The variable bound to the nodes. -/
  var : String
  label : String
  source : Source
  /-- The result key it answers; empty for the topmost block. -/
  resultKey : String
  /-- Which of the sub-queries under the result key it answers. -/
  subQuery : Nat
  /-- The labels of the parent rows it applies to; all when there is no list. -/
  onlyOnTypes : Option (List String)
  condition : Condition
  /-- Whether the nodes that satisfy the condition are counted. -/
  count : Bool
  /-- The condition that a node lies beyond the cursors. -/
  seek : Condition
  /-- The sort keys as requested. -/
  order : List OrderTerm
  limit : Option Nat
  /-- Whether to sort backwards, cut off, and turn the rows round again. -/
  reversed : Bool
  children : List Block
deriving Inhabited

namespace Block

/-- The child that answers a sub-query. -/
def child? (block : Block) (resultKey : String) (subQuery : Nat) : Option Block :=
  block.children.find? fun c => c.resultKey = resultKey ∧ c.subQuery = subQuery

/-- Whether the block applies below a row with these labels. -/
def appliesTo (block : Block) (labels : List String) : Bool :=
  match block.onlyOnTypes with
  | none => true
  | some types => labels.any fun label => types.contains label

/-- The direction in which a sort key is run through. -/
def effectiveDirection (block : Block) (term : OrderTerm) : SortDirection :=
  if block.reversed then term.direction.reverse else term.direction

end Block

/-- A statement with its parameters. -/
structure Statement where
  root : Block
  params : Table Value
deriving Inhabited

end GraphQuery
