import GraphQuery.Filter.Basic
import GraphQuery.Pattern.Match
import GraphQuery.Schema.Basic

/-!
# Reading filters of clients

A client writes a filter as a JSON object; several entries are all to hold.

* `"and"` and `"or"` take a list of one filter at least, `"not"` takes a filter;
* a property takes an object of tests, `"eq"` with `null` meaning that it is absent or null;
* a relationship that yields pages takes an object of `"all"`, `"any"` and `"none"`;
* a single relationship takes a filter of its node, or `null` when there is to be none.

A property hides a relationship of its name. `Filter.parse` reads a filter for the nodes of a type.
-/

namespace GraphQuery
namespace Filter

/-! ## Tests of properties -/

/-- A refusal. -/
def refuse {α : Type} (fault : FilterFault) : Result α := .error (.malformedFilter fault)

/-- Reads an operand of a property; it must not be null. -/
def operand (property : PropertyDef) (raw : Json) : Result Value :=
  match property.type.coerce? raw with
  | some .null => refuse (.nullOperand property.name)
  | some value => .ok value
  | none => refuse (.operandMismatch raw property.type property.name)

/-- Reads the bound of a range test; booleans have no ranges. -/
def bound (property : PropertyDef) (operator : String) (raw : Json) : Result Value :=
  if property.type = .boolean then refuse (.booleanRange operator property.name) else operand property raw

/-- Reads the argument of a text test; only textual properties have them. -/
def textOperand (property : PropertyDef) (operator : String) (raw : Json) : Result String :=
  if property.type.isTextual then
    match raw.string? with
    | some text => .ok text
    | none => refuse (.textExpected operator property.name)
  else refuse (.textualExpected operator property.name property.type)

variable [PropertyTable]

/-- Reads a test of a property. -/
def parseTest (property : PropertyDef) (operator : String) (raw : Json) : Result PropertyTest :=
  match operator with
  | "eq" => if raw.isNull then .ok (.isNull true) else .eq <$> operand property raw
  | "in" =>
    match raw.items? with
    | some items => .oneOf <$> items.mapM (operand property)
    | none => refuse (.operandListExpected property.name)
  | "lt" => .lt <$> bound property operator raw
  | "lte" => .lte <$> bound property operator raw
  | "gt" => .gt <$> bound property operator raw
  | "gte" => .gte <$> bound property operator raw
  | "startsWith" => .startsWith <$> textOperand property operator raw
  | "endsWith" => .endsWith <$> textOperand property operator raw
  | "contains" => .contains <$> textOperand property operator raw
  | "matches" => do
    let text ← textOperand property operator raw
    if (Automaton.ofText? text).isSome then return .matching text else refuse (.invalidPattern property.name)
  | "isNull" =>
    match raw.bool? with
    | some expected => .ok (.isNull expected)
    | none => refuse (.booleanExpected property.name)
  | _ => refuse (.unknownOperator operator property.name)

/-- The fields of an object that has some. -/
def fieldsOfNonempty? (raw : Json) : Option (List (String × Json)) :=
  match raw.fields? with
  | some [] => none
  | fields => fields

/-- Reads the tests of a property. -/
def parseProperty (prop : PropertyDef) (raw : Json) : Result Filter :=
  match fieldsOfNonempty? raw with
  | none => refuse (.operatorsExpected prop.name)
  | some fields => do
    let tests ← fields.mapM fun (operator, argument) => do
      return property prop.name (← parseTest prop operator argument)
    return conjoin tests

/-! ## Filters -/

/-- Reads a filter for the nodes of a type; the first argument bounds the nesting. -/
def parseWithin (schema : Schema) : Nat → EntityType → Json → Result Filter
  | 0, entity, raw => refuse (.notAnObject entity.name raw)
  | depth + 1, entity, raw =>
    match raw.fields? with
    | none => refuse (.notAnObject entity.name raw)
    | some fields => do
      let entries ← fields.mapM fun (key, value) => entry depth entity key value
      return conjoin entries
where
  /-- Reads a list of one filter at least. -/
  list (depth : Nat) (entity : EntityType) (key : String) (raw : Json) : Result (List Filter) :=
    match raw.items? with
    | none => refuse (.listExpected key)
    | some [] => refuse (.emptyList key)
    | some items => items.mapM (parseWithin schema depth entity)
  /-- Reads a predicate on related nodes. -/
  predicate (depth : Nat) (relationship : RelationshipDef) (raw : Json) : Result Filter := do
    let target ← schema.entity relationship.target
    if relationship.isMany then
      match fieldsOfNonempty? raw with
      | none => refuse (.quantifiersExpected relationship.name)
      | some fields =>
        let entries ← fields.mapM fun (key, nested) =>
          match Quantifier.ofName? key with
          | none => refuse (.unknownQuantifier key relationship.name)
          | some quantifier => related relationship quantifier <$> parseWithin schema depth target nested
        return conjoin entries
    else if raw.isNull then return related relationship .none all
    else related relationship .any <$> parseWithin schema depth target raw
  /-- Reads one entry of a filter object. -/
  entry (depth : Nat) (entity : EntityType) (key : String) (raw : Json) : Result Filter :=
    match key with
    | "and" => conj <$> list depth entity key raw
    | "or" => disj <$> list depth entity key raw
    | "not" => neg <$> parseWithin schema depth entity raw
    | _ =>
      match entity.property? key with
      | some prop => parseProperty prop raw
      | none =>
        match entity.relationship? key with
        | some relationship => predicate depth relationship raw
        | none => refuse (.unknownMember key entity.name)

/-- Reads a filter for the nodes of a type. -/
def parse (schema : Schema) (entity : EntityType) (raw : Json) : Result Filter :=
  parseWithin schema raw.depth entity raw

end Filter
end GraphQuery
