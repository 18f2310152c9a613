import GraphQuery.Condition.Basic
import GraphQuery.Json.Record

/-!
# Conditions in JSON

The interchange form of a condition shows its tree as it is. Reading knows three more variants, `"and"`, `"or"` and
`"not"`, which build a condition with constants and nesting folded away.
-/

namespace GraphQuery

namespace Operand

/-- The interchange form. -/
def toJson : Operand → Json
  | property var name => .object [("Property", .object [("var", .string var), ("name", .string name)])]
  | related var step name =>
    .object [("Related", .object [("var", .string var), ("label", .string step.label),
      ("direction", .string step.direction.name), ("target_label", .string step.target), ("name", .string name)])]

/-- Reads the interchange form. -/
def ofJson? (json : Json) : Option Operand := do
  let (kind, content) ← json.variant?
  match kind with
  | "Property" =>
    match ← content.variantMembers? ["var", "name"] with
    | [var, name] => return property (← (← var).string?) (← (← name).string?)
    | _ => none
  | "Related" =>
    match ← content.variantMembers? ["var", "label", "direction", "target_label", "name"] with
    | [var, label, direction, target, name] =>
      return related (← (← var).string?)
        ⟨← (← label).string?, ← Direction.ofName? (← (← direction).unitVariant?), ← (← target).string?⟩
        (← (← name).string?)
    | _ => none
  | _ => none

end Operand

namespace Condition

mutual

/-- The interchange form. -/
def toJson : Condition → Json
  | always => .string "True"
  | never => .string "False"
  | conj members => .object [("And", .array (listToJson members))]
  | disj members => .object [("Or", .array (listToJson members))]
  | neg condition => .object [("Not", condition.toJson)]
  | compare operand op param =>
    .object [("Compare", .object [("operand", operand.toJson), ("op", .string op.name), ("param", .string param)])]
  | oneOf operand params => .object [("In", .object [("operand", operand.toJson), ("params", Json.strings params)])]
  | isNull operand => .object [("IsNull", operand.toJson)]
  | text operand op param =>
    .object [("Text", .object [("operand", operand.toJson), ("op", .string op.name), ("param", .string param)])]
  | related node step reached quantifier condition =>
    .object [("Exists", .object [("from", .string node), ("label", .string step.label),
      ("direction", .string step.direction.name), ("to", .string reached), ("target_label", .string step.target),
      ("quantifier", .string quantifier.name), ("condition", condition.toJson)])]

/-- The interchange forms of several conditions. -/
def listToJson : List Condition → List Json
  | [] => []
  | condition :: rest => condition.toJson :: listToJson rest

end

/-- Reads the interchange form; the first argument bounds the nesting. -/
def ofJsonWithin? : Nat → Json → Option Condition
  | 0, _ => none
  | _ + 1, .string "True" => some always
  | _ + 1, .string "False" => some never
  | depth + 1, json => do
    let (kind, content) ← json.variant?
    match kind with
    | "And" => (content.list? (ofJsonWithin? depth)).map conj
    | "Or" => (content.list? (ofJsonWithin? depth)).map disj
    | "Not" => (ofJsonWithin? depth content).map neg
    | "and" => (content.list? (ofJsonWithin? depth)).map and
    | "or" => (content.list? (ofJsonWithin? depth)).map or
    | "not" => (ofJsonWithin? depth content).map not
    | "Compare" =>
      match ← content.variantMembers? ["operand", "op", "param"] with
      | [operand, op, param] =>
        return compare (← Operand.ofJson? (← operand)) (← CompareOp.ofName? (← (← op).unitVariant?))
          (← (← param).string?)
      | _ => none
    | "In" =>
      match ← content.variantMembers? ["operand", "params"] with
      | [operand, params] => return oneOf (← Operand.ofJson? (← operand)) (← (← params).list? Json.string?)
      | _ => none
    | "IsNull" => (Operand.ofJson? content).map isNull
    | "Text" =>
      match ← content.variantMembers? ["operand", "op", "param"] with
      | [operand, op, param] =>
        return text (← Operand.ofJson? (← operand)) (← TextOp.ofName? (← (← op).unitVariant?)) (← (← param).string?)
      | _ => none
    | "Exists" =>
      let names := ["from", "label", "direction", "to", "target_label", "quantifier", "condition"]
      match ← content.variantMembers? names with
      | [node, label, direction, reached, target, quantifier, condition] =>
        return related (← (← node).string?)
          ⟨← (← label).string?, ← Direction.ofName? (← (← direction).unitVariant?), ← (← target).string?⟩
          (← (← reached).string?) (← Quantifier.ofName? (← (← quantifier).unitVariant?))
          (← ofJsonWithin? depth (← condition))
      | _ => none
    | _ => none

/-- Reads the interchange form. -/
def ofJson? (json : Json) : Option Condition := ofJsonWithin? json.depth json

end Condition

end GraphQuery
