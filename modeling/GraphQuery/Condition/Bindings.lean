import GraphQuery.Condition.Basic

/-!
# Bindings

While a statement is put together, `Bindings` hands out the names of its variables, `n0`, `n1`, …, and of its
parameters, `p0`, `p1`, …, and keeps the value of every parameter. `Filter.lower` turns a filter into a condition on a
bound node, with the operands of the filter as parameters.
-/

namespace GraphQuery

/-- The names handed out so far, and the values of the parameters. -/
structure Bindings where
  /-- The number of variables. -/
  varCount : Nat
  /-- The values of the parameters, in the order of their registration. -/
  values : List Value
deriving DecidableEq, Inhabited

namespace Bindings

/-- No name handed out. -/
def empty : Bindings := ⟨0, []⟩

/-- The name of a variable. -/
def variableName (i : Nat) : String := "n" ++ toString i

/-- The name of a parameter. -/
def paramName (i : Nat) : String := "p" ++ toString i

/-- A variable that was not handed out before. -/
def freshVar (b : Bindings) : String × Bindings := (variableName b.varCount, { b with varCount := b.varCount + 1 })

/-- Registers a value and gives the name of its parameter. -/
def addParam (b : Bindings) (value : Value) : String × Bindings :=
  (paramName b.values.length, { b with values := b.values ++ [value] })

/-- Registers several values. -/
def addParams (b : Bindings) : List Value → List String × Bindings
  | [] => ([], b)
  | value :: rest =>
    let first := b.addParam value
    let others := first.2.addParams rest
    (first.1 :: others.1, others.2)

/-- The table of the parameters. -/
def params (b : Bindings) : Table Value :=
  Table.ofList (b.values.zipIdx.map fun (value, i) => (paramName i, value))

/-- A comparison with a new parameter. -/
def compare (b : Bindings) (operand : Operand) (op : CompareOp) (value : Value) : Condition × Bindings :=
  let param := b.addParam value
  (.compare operand op param.1, param.2)

/-- A comparison with a new parameter that a null does not satisfy, and neither leaves unknown. -/
def range (b : Bindings) (operand : Operand) (op : CompareOp) (value : Value) : Condition × Bindings :=
  let comparison := b.compare operand op value
  (.and [.not (.isNull operand), comparison.1], comparison.2)

/-- A test of texts with a new parameter. -/
def text (b : Bindings) (operand : Operand) (op : TextOp) (argument : String) : Condition × Bindings :=
  let param := b.addParam (.string argument)
  (.text operand op param.1, param.2)

end Bindings

/-- The condition of a test of a property. -/
def PropertyTest.lower (operand : Operand) (b : Bindings) : PropertyTest → Condition × Bindings
  | .eq value => b.compare operand .eq value
  | .oneOf [] => (.never, b)
  | .oneOf values =>
    let params := b.addParams values
    (.oneOf operand params.1, params.2)
  | .lt value => b.range operand .lt value
  | .lte value => b.range operand .lte value
  | .gt value => b.range operand .gt value
  | .gte value => b.range operand .gte value
  | .startsWith argument => b.text operand .startsWith argument
  | .endsWith argument => b.text operand .endsWith argument
  | .contains argument => b.text operand .contains argument
  | .matching pattern => b.text operand .matching pattern
  | .isNull true => (.isNull operand, b)
  | .isNull false => (.not (.isNull operand), b)

namespace Filter

mutual

/-- The condition of a filter on the node bound to a variable. -/
def lower : Filter → String → Bindings → Condition × Bindings
  | conj members, var, b =>
    let lowered := lowerAll members var b
    (.and lowered.1, lowered.2)
  | disj members, var, b =>
    let lowered := lowerAll members var b
    (.or lowered.1, lowered.2)
  | neg filter, var, b =>
    let lowered := lower filter var b
    (.not lowered.1, lowered.2)
  | property name test, var, b => test.lower (.property var name) b
  | related relationship quantifier filter, var, b =>
    let reached := b.freshVar
    let lowered := lower filter reached.1 reached.2
    (.related var relationship.step reached.1 quantifier lowered.1, lowered.2)

/-- The conditions of several filters on one node. -/
def lowerAll : List Filter → String → Bindings → List Condition × Bindings
  | [], _, b => ([], b)
  | filter :: rest, var, b =>
    let first := lower filter var b
    let others := lowerAll rest var first.2
    (first.1 :: others.1, others.2)

end

end Filter

end GraphQuery
