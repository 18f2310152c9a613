import GraphQuery.Filter.Basic
import GraphQuery.Order.Basic

/-!
# Conditions

A `Condition` is a boolean tree over variables bound to nodes and named parameters. Filters, authorization and cursor
boundaries all become conditions, and no value stands in one: values are parameters.

* `Condition.and`, `Condition.or` and `Condition.not` build conditions with constants and nesting folded away;
* `Condition.render` is the text of a condition in the query language of the store.
-/

namespace GraphQuery

/-! ## Operands -/

/-- A step over an edge: its label, its direction and the label of the node it leads to. -/
structure Step where
  label : String
  direction : Direction
  target : String
deriving DecidableEq, Inhabited

/-- The step of a relationship. -/
def RelationshipDef.step (r : RelationshipDef) : Step := ⟨r.label, r.direction, r.target⟩

/-- The text of a step between two nodes. -/
def Step.text (step : Step) (node reached : String) : String :=
  match step.direction with
  | .outgoing => "(" ++ node ++ ")-[:" ++ step.label ++ "]->(" ++ reached ++ ":" ++ step.target ++ ")"
  | .incoming => "(" ++ node ++ ")<-[:" ++ step.label ++ "]-(" ++ reached ++ ":" ++ step.target ++ ")"

/-- A value read from a bound node. -/
inductive Operand where
  /-- A property of the node. -/
  | property (var name : String)
  /-- A property of the first node one step away. -/
  | related (var : String) (step : Step) (name : String)
deriving DecidableEq, Inhabited

/-- The text of an operand. -/
def Operand.text : Operand → String
  | property var name => var ++ "." ++ name
  | related var step name => "head([" ++ step.text var "_r" ++ " | _r." ++ name ++ "])"

/-- What a sort key reads from a bound node. -/
def OrderPath.operand (var : String) : OrderPath → Operand
  | .property name => .property var name
  | .related relationship name => .related var relationship.step name

/-! ## Operators -/

/-- A comparison. -/
inductive CompareOp where
  | eq
  | lt
  | lte
  | gt
  | gte
deriving DecidableEq, Inhabited

namespace CompareOp

/-- The name of a comparison. -/
def name : CompareOp → String
  | eq => "Eq"
  | lt => "Lt"
  | lte => "Lte"
  | gt => "Gt"
  | gte => "Gte"

/-- The sign of a comparison. -/
def symbol : CompareOp → String
  | eq => "="
  | lt => "<"
  | lte => "<="
  | gt => ">"
  | gte => ">="

/-- The comparison of a name. -/
def ofName? (name : String) : Option CompareOp := [eq, lt, lte, gt, gte].find? fun op => op.name = name

end CompareOp

/-- A test of texts. -/
inductive TextOp where
  | startsWith
  | endsWith
  | contains
  /-- The whole text matches a regular expression. -/
  | matching
deriving DecidableEq, Inhabited

namespace TextOp

/-- The name of a test. -/
def name : TextOp → String
  | startsWith => "StartsWith"
  | endsWith => "EndsWith"
  | contains => "Contains"
  | matching => "Matches"

/-- The keyword of a test. -/
def keyword : TextOp → String
  | startsWith => "STARTS WITH"
  | endsWith => "ENDS WITH"
  | contains => "CONTAINS"
  | matching => "=~"

/-- The test of a name. -/
def ofName? (name : String) : Option TextOp := [startsWith, endsWith, contains, matching].find? fun op => op.name = name

end TextOp

/-! ## Conditions -/

/-- A condition on bound nodes. -/
inductive Condition where
  | always
  | never
  | conj (members : List Condition)
  | disj (members : List Condition)
  | neg (condition : Condition)
  | compare (operand : Operand) (op : CompareOp) (param : String)
  | oneOf (operand : Operand) (params : List String)
  | isNull (operand : Operand)
  | text (operand : Operand) (op : TextOp) (param : String)
  /-- A test of the nodes one step from `node`, each bound to `reached` in turn. -/
  | related (node : String) (step : Step) (reached : String) (quantifier : Quantifier) (condition : Condition)
deriving Inhabited

namespace Condition

/-- Whether this is the constant true. -/
def isAlways : Condition → Bool
  | always => true
  | _ => false

/-- The members of a conjunction with constants and nested conjunctions folded away; `none` when it cannot hold. -/
def conjuncts : List Condition → Option (List Condition)
  | [] => some []
  | always :: rest => conjuncts rest
  | never :: _ => none
  | conj members :: rest => (conjuncts rest).map (members ++ ·)
  | condition :: rest => (conjuncts rest).map (condition :: ·)

/-- The members of a disjunction with constants and nested disjunctions folded away; `none` when it always holds. -/
def disjuncts : List Condition → Option (List Condition)
  | [] => some []
  | never :: rest => disjuncts rest
  | always :: _ => none
  | disj members :: rest => (disjuncts rest).map (members ++ ·)
  | condition :: rest => (disjuncts rest).map (condition :: ·)

/-- The conjunction of several conditions. -/
def and (conditions : List Condition) : Condition :=
  match conjuncts conditions with
  | none => never
  | some [] => always
  | some [condition] => condition
  | some members => conj members

/-- The disjunction of several conditions. -/
def or (conditions : List Condition) : Condition :=
  match disjuncts conditions with
  | none => always
  | some [] => never
  | some [condition] => condition
  | some members => disj members

/-- The negation of a condition. -/
def not : Condition → Condition
  | always => never
  | never => always
  | neg condition => condition
  | condition => neg condition

/-! ## Text -/

/-- The text of a test of the nodes one step away, given the text of the condition they are to satisfy. -/
def existsText (matched : String) (quantifier : Quantifier) (always : Bool) (condition : String) : String :=
  let negation := if quantifier = .any then "" else "NOT "
  let filter := if always then " \x7d" else " WHERE " ++ condition ++ " \x7d"
  negation ++ "EXISTS \x7b MATCH " ++ matched ++ filter

mutual

/-- The text of a condition. -/
def render : Condition → String
  | always => "true"
  | never => "false"
  | conj members => "(" ++ String.intercalate " AND " (renderAll members) ++ ")"
  | disj members => "(" ++ String.intercalate " OR " (renderAll members) ++ ")"
  | neg condition => "NOT " ++ render condition
  | compare operand op param => operand.text ++ " " ++ op.symbol ++ " $" ++ param
  | oneOf operand params => operand.text ++ " IN [" ++ String.intercalate ", " (params.map ("$" ++ ·)) ++ "]"
  | isNull operand => operand.text ++ " IS NULL"
  | text operand op param => operand.text ++ " " ++ op.keyword ++ " $" ++ param
  | related node step reached quantifier condition =>
    existsText (step.text node reached) quantifier
      (match quantifier with
        | .all => condition.not.isAlways
        | _ => condition.isAlways)
      (match quantifier with
        | .all => renderNot condition
        | _ => render condition)

/-- The text of the negation of a condition. -/
def renderNot : Condition → String
  | always => "false"
  | never => "true"
  | neg condition => render condition
  | condition => "NOT " ++ render condition

/-- The texts of several conditions. -/
def renderAll : List Condition → List String
  | [] => []
  | condition :: rest => render condition :: renderAll rest

end

end Condition

end GraphQuery
