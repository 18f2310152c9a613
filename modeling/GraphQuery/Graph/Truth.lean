import GraphQuery.Graph.Basic
import GraphQuery.Pattern.Match

/-!
# Truth of conditions

A condition on bound nodes is true, false or unknown (`none`). A comparison with a null is unknown, and so is an order
between values that have none; connectives follow Kleene's tables; a test of related nodes is never unknown.

* `Evaluation.truth` is the truth of a condition;
* `Evaluation.operand` is the value that a condition or a sort key reads.
-/

namespace GraphQuery

/-! ## Comparisons -/

/-- Whether two values that are not null have an order between them. -/
def Value.comparable : Value → Value → Bool
  | .int _, .int _ | .int _, .float _ | .float _, .int _ | .float _, .float _ => true
  | .bool _, .bool _ | .string _, .string _ | .timestamp _, .timestamp _ => true
  | _, _ => false

namespace CompareOp

/-- Whether an ordering satisfies a comparison. -/
def holds : CompareOp → Ordering → Bool
  | eq, o => o = .eq
  | lt, o => o = .lt
  | lte, o => o ≠ .gt
  | gt, o => o = .gt
  | gte, o => o ≠ .lt

/-- The truth of a comparison. Values of different kinds are not equal, and no order is known between them. -/
def truth (op : CompareOp) (left right : Value) : Option Bool :=
  if left.isNull || right.isNull then none
  else if left.comparable right || op = eq then some (op.holds (left.compare right))
  else none

end CompareOp

/-- Whether a text contains another. -/
def containsText (part text : List Char) : Bool :=
  match text with
  | [] => part.isEmpty
  | c :: rest => part.isPrefixOf (c :: rest) || containsText part rest

/-! ## Arguments -/

variable [PropertyTable]

/-- The automaton of the pattern that a text writes for a whole text. -/
def Value.automaton? : Value → Option Automaton
  | .string text => Automaton.anchored? text
  | _ => none

/-- A value that conditions refer to by the name of a parameter. Its automaton is built when it is needed, and once. -/
structure Argument where
  value : Value
  automaton : Thunk (Option Automaton)
  automaton_eq : automaton.get = value.automaton?

/-- The argument of a value. -/
def Argument.ofValue (value : Value) : Argument := ⟨value, .mk fun _ => value.automaton?, rfl⟩

/-- Whether a text passes a test with a word, which writes a pattern with the given automaton. -/
def TextOp.holds (op : TextOp) (text word : String) (automaton : Thunk (Option Automaton)) : Result Bool :=
  match op with
  | .startsWith => .ok (word.toList.isPrefixOf text.toList)
  | .endsWith => .ok (word.toList.isSuffixOf text.toList)
  | .contains => .ok (containsText word.toList text.toList)
  | .matching =>
    match automaton.get with
    | some automaton => .ok (automaton.matchesIn text)
    | none => .error (.storeExecution (.invalidPattern word))

/-! ## Connectives -/

namespace Truth

/-- The negation. -/
def not (a : Option Bool) : Option Bool := a.map (!·)

/-- The conjunction: false if one side is, else unknown if one side is. -/
def and : Option Bool → Option Bool → Option Bool
  | some false, _ => some false
  | _, some false => some false
  | some true, b => b
  | none, _ => none

/-- The disjunction: true if one side is, else unknown if one side is. -/
def or : Option Bool → Option Bool → Option Bool
  | some true, _ => some true
  | _, some true => some true
  | some false, b => b
  | none, _ => none

end Truth

/-- Whether the truths of a condition on all related nodes satisfy a quantifier. Unknown counts for nothing. -/
def Quantifier.holds (quantifier : Quantifier) (truths : List (Option Bool)) : Bool :=
  match quantifier with
  | .any => truths.contains (some true)
  | .none => !truths.contains (some true)
  | .all => !truths.contains (some false)

/-! ## Conditions -/

/-- Nodes bound to variables, the innermost first. -/
abbrev Scope := List (String × String)

/-- What conditions are evaluated in. -/
structure Evaluation where
  graph : Graph
  arguments : Table Argument

namespace Evaluation

variable (e : Evaluation)

/-- The node bound to a variable. -/
def bound (scope : Scope) (var : String) : Result String :=
  match List.lookup var scope with
  | some id => .ok id
  | none => .error (.storeExecution (.unboundVariable var))

/-- The argument for a parameter. -/
def argument (name : String) : Result Argument :=
  match List.lookup name e.arguments with
  | some argument => .ok argument
  | none => .error (.storeExecution (.unboundParameter name))

/-- The value of a parameter. -/
def param (name : String) : Result Value := (·.value) <$> e.argument name

/-- A property of a node; an absent one is null. -/
def property (id name : String) : Result Value := do
  return (List.lookup name (← e.graph.node id).properties).getD .null

/-- The value an operand reads. -/
def operand (scope : Scope) : Operand → Result Value
  | .property var name => do e.property (← bound scope var) name
  | .related var step name => do
    match e.graph.reached (← bound scope var) step with
    | id :: _ => e.property id name
    | [] => return .null

/-- The truth of a value being one of several parameters. -/
def oneOf (value : Value) : List String → Result (Option Bool)
  | [] => .ok (some false)
  | name :: rest => do
    match CompareOp.eq.truth value (← e.param name) with
    | some true => return some true
    | known => return Truth.or known (← oneOf value rest)

/-- The truth of a test of texts. -/
def textTest (value : Value) (op : TextOp) (argument : Argument) : Result (Option Bool) :=
  match value, argument.value with
  | .string text, .string word => some <$> op.holds text word argument.automaton
  | _, _ => .ok none

mutual

/-- The truth of a condition. -/
def truth : Condition → Scope → Result (Option Bool)
  | .always, _ => .ok (some true)
  | .never, _ => .ok (some false)
  | .conj members, scope => truthOfAll members scope
  | .disj members, scope => truthOfAny members scope
  | .neg condition, scope => Truth.not <$> truth condition scope
  | .compare operand op param, scope => do
    let value ← e.operand scope operand
    return op.truth value (← e.param param)
  | .oneOf operand params, scope => do e.oneOf (← e.operand scope operand) params
  | .isNull operand, scope => do return some (← e.operand scope operand).isNull
  | .text operand op param, scope => do
    let value ← e.operand scope operand
    textTest value op (← e.argument param)
  | .related node step reached quantifier condition, scope => do
    let truths ← (e.graph.reached (← bound scope node) step).mapM fun id => truth condition ((reached, id) :: scope)
    return some (quantifier.holds truths)

/-- The truth of a conjunction; the members after a false one are not looked at. -/
def truthOfAll : List Condition → Scope → Result (Option Bool)
  | [], _ => .ok (some true)
  | condition :: rest, scope => do
    match ← truth condition scope with
    | some false => return some false
    | known => return Truth.and known (← truthOfAll rest scope)

/-- The truth of a disjunction; the members after a true one are not looked at. -/
def truthOfAny : List Condition → Scope → Result (Option Bool)
  | [], _ => .ok (some false)
  | condition :: rest, scope => do
    match ← truth condition scope with
    | some true => return some true
    | known => return Truth.or known (← truthOfAny rest scope)

end

end Evaluation

end GraphQuery
