import GraphQuery.Table
import GraphQuery.Value

/-!
# Answers of a store

A store answers a block with a count and rows. A `Row` is a node with the values of the sort keys and the answers of
the child blocks that applied to it, by their variables.
-/

namespace GraphQuery

/-- The answer to a block. -/
structure Answer (ρ : Type) where
  /-- The number of nodes that satisfy the condition, if it was asked for. -/
  totalCount : Option Nat
  /-- The rows in the requested order. -/
  rows : List ρ
deriving Inhabited

/-- A row of an answer. -/
structure Row where
  id : String
  /-- The labels of the node, sorted. -/
  labels : List String
  properties : Table Value
  /-- The values of the sort keys, by name. -/
  keys : Table Value
  /-- The answers of child blocks, by variable. -/
  children : List (String × Answer Row)
deriving Inhabited

/-- An answer without rows and count. -/
def Answer.empty {ρ : Type} : Answer ρ := ⟨none, []⟩

end GraphQuery
