import GraphQuery.Schema.Relationship
import GraphQuery.Value

/-!
# Filters

A `Filter` is a boolean tree over predicates on the properties of a node and on the nodes it is related to. The empty
conjunction is the filter that every node passes, the empty disjunction the one that none passes.
-/

namespace GraphQuery

/-- How a predicate on related nodes counts them. -/
inductive Quantifier where
  /-- Every related node passes. -/
  | all
  /-- Some related node passes. -/
  | any
  /-- No related node passes. -/
  | none
deriving DecidableEq, Inhabited

namespace Quantifier

/-- The name of a quantifier. -/
def name : Quantifier → String
  | all => "all"
  | any => "any"
  | none => "none"

/-- The quantifier of a name. -/
def ofName? (name : String) : Option Quantifier := [all, any, none].find? fun q => q.name = name

end Quantifier

/-- A test of one property. -/
inductive PropertyTest where
  | eq (value : Value)
  | oneOf (values : List Value)
  | lt (value : Value)
  | lte (value : Value)
  | gt (value : Value)
  | gte (value : Value)
  | startsWith (text : String)
  | endsWith (text : String)
  | contains (text : String)
  /-- The whole text matches a regular expression. -/
  | matching (pattern : String)
  /-- Whether the property is absent or null. -/
  | isNull (expected : Bool)
deriving DecidableEq, Inhabited

namespace PropertyTest

/-- The interchange form. -/
def toJson : PropertyTest → Json
  | eq value => .object [("eq", value.tagged)]
  | oneOf values => .object [("in", .array (values.map Value.tagged))]
  | lt value => .object [("lt", value.tagged)]
  | lte value => .object [("lte", value.tagged)]
  | gt value => .object [("gt", value.tagged)]
  | gte value => .object [("gte", value.tagged)]
  | startsWith text => .object [("startsWith", .string text)]
  | endsWith text => .object [("endsWith", .string text)]
  | contains text => .object [("contains", .string text)]
  | matching pattern => .object [("matches", .string pattern)]
  | isNull expected => .object [("isNull", .bool expected)]

/-- Reads the interchange form. -/
def ofJson? (json : Json) : Option PropertyTest := do
  let (name, content) ← json.variant?
  match name with
  | "eq" => (Value.ofTagged? content).map eq
  | "in" => (content.list? Value.ofTagged?).map oneOf
  | "lt" => (Value.ofTagged? content).map lt
  | "lte" => (Value.ofTagged? content).map lte
  | "gt" => (Value.ofTagged? content).map gt
  | "gte" => (Value.ofTagged? content).map gte
  | "startsWith" => content.string?.map startsWith
  | "endsWith" => content.string?.map endsWith
  | "contains" => content.string?.map contains
  | "matches" => content.string?.map matching
  | "isNull" => content.bool?.map isNull
  | _ => none

end PropertyTest

/-- A filter of nodes. -/
inductive Filter where
  /-- Every member passes. -/
  | conj (members : List Filter)
  /-- Some member passes. -/
  | disj (members : List Filter)
  /-- The filter does not pass. -/
  | neg (filter : Filter)
  | property (name : String) (test : PropertyTest)
  /-- A predicate on the nodes reached through a relationship. -/
  | related (relationship : RelationshipDef) (quantifier : Quantifier) (filter : Filter)
deriving Inhabited

namespace Filter

/-- The filter that every node passes. -/
def all : Filter := conj []

/-- The filter that no node passes. -/
def nothing : Filter := disj []

/-- Whether this is the filter that every node passes. -/
def isAll : Filter → Bool
  | conj [] => true
  | _ => false

/-- The conjunction of several filters; those that every node passes are left out. -/
def conjoin (filters : List Filter) : Filter :=
  match filters.filter fun f => !f.isAll with
  | [filter] => filter
  | members => conj members

mutual

/-- The interchange form. -/
def toJson : Filter → Json
  | conj members => .object [("and", .array (listToJson members))]
  | disj members => .object [("or", .array (listToJson members))]
  | neg filter => .object [("not", filter.toJson)]
  | property name test => .object [("property", .object [("property", .string name), ("operator", test.toJson)])]
  | related relationship quantifier filter =>
    .object [("relationship", .object [("relationship", relationship.toJson),
      ("quantifier", .string quantifier.name), ("filter", filter.toJson)])]

/-- The interchange forms of several filters. -/
def listToJson : List Filter → List Json
  | [] => []
  | filter :: rest => filter.toJson :: listToJson rest

end

/-- Reads the interchange form; the first argument bounds the nesting. -/
def ofJsonWithin? : Nat → Json → Option Filter
  | 0, _ => none
  | depth + 1, json => do
    let (name, content) ← json.variant?
    match name with
    | "and" => (content.list? (ofJsonWithin? depth)).map conj
    | "or" => (content.list? (ofJsonWithin? depth)).map disj
    | "not" => (ofJsonWithin? depth content).map neg
    | "property" =>
      match ← content.variantMembers? ["property", "operator"] with
      | [name, test] => return property (← (← name).string?) (← PropertyTest.ofJson? (← test))
      | _ => none
    | "relationship" =>
      match ← content.variantMembers? ["relationship", "quantifier", "filter"] with
      | [relationship, quantifier, filter] =>
        return related (← RelationshipDef.ofJson? (← relationship))
          (← Quantifier.ofName? (← (← quantifier).unitVariant?)) (← ofJsonWithin? depth (← filter))
      | _ => none
    | _ => none

/-- Reads the interchange form. -/
def ofJson? (json : Json) : Option Filter := ofJsonWithin? json.depth json

end Filter

end GraphQuery
