import GraphQuery.Decimal.Layout
import GraphQuery.Json.Basic
import GraphQuery.Text.Quoted

/-!
# Property values

A `Value` is what a node stores under a property, what a filter compares with and what a cursor remembers. Lists are
typed, so a value has no parts that are values.

* `Value.compare` orders all values: kinds apart, nulls last, integers and floating-point numbers together by size;
* `Value.toJson` is a value as plain JSON, `Value.tagged` keeps its kind and `Value.ofTagged?` reads it back.
-/

namespace GraphQuery

/-- A property value. -/
inductive Value where
  | null
  | bool (b : Bool)
  | int (n : Int64)
  | float (x : Binary64)
  | string (s : String)
  /-- Microseconds since the epoch. -/
  | timestamp (t : Int64)
  | strings (items : List String)
  | ints (items : List Int64)
deriving DecidableEq, Inhabited

namespace Value

/-! ## Views -/

/-- Whether there is no value. -/
def isNull : Value → Bool
  | null => true
  | _ => false

/-- The truth value of a boolean. -/
def bool? : Value → Option Bool
  | bool b => some b
  | _ => none

/-- The value of an integer. -/
def int? : Value → Option Int64
  | int n => some n
  | _ => none

/-- The nearest floating-point number of an integer. -/
def widen (n : Int64) : Binary64 := Binary64.ofInt n.toInt

/-- A number as a floating-point number. -/
def number? : Value → Option Binary64
  | float x => some x
  | int n => some (widen n)
  | _ => none

/-- The text of a string. -/
def string? : Value → Option String
  | string s => some s
  | _ => none

/-! ## Order -/

/-- The place of a kind of value in the order of all values; integers and floating-point numbers share theirs. -/
def rank : Value → Nat
  | bool _ => 0
  | int _ | float _ => 1
  | string _ => 2
  | timestamp _ => 3
  | strings _ => 4
  | ints _ => 5
  | null => 6

/-- Compares two lists by the first difference; a list comes after its beginnings. -/
def compareLists {α : Type} (cmp : α → α → Ordering) : List α → List α → Ordering
  | [], [] => .eq
  | [], _ :: _ => .lt
  | _ :: _, [] => .gt
  | a :: as, b :: bs => (cmp a b).then (compareLists cmp as bs)

/-- Compares two 64-bit integers. -/
def compareInts (a b : Int64) : Ordering := Ord.compare a.toInt b.toInt

/-- Compares two strings by code points. -/
def compareStrings (a b : String) : Ordering := compareOfLessAndEq a b

/-- The order of all values. -/
def compare : Value → Value → Ordering
  | bool a, bool b => Ord.compare a b
  | int a, int b => compareInts a b
  | float a, float b => a.totalCompare b
  | int a, float b => (widen a).totalCompare b
  | float a, int b => a.totalCompare (widen b)
  | string a, string b => compareStrings a b
  | timestamp a, timestamp b => compareInts a b
  | strings a, strings b => compareLists compareStrings a b
  | ints a, ints b => compareLists compareInts a b
  | a, b => Ord.compare a.rank b.rank

/-! ## Written forms -/

/-- A value as plain JSON. -/
def toJson : Value → Json
  | null => .null
  | bool b => .bool b
  | int n => .int n.toInt
  | float x => Json.ofBinary64 x
  | string s => .string s
  | timestamp t => .int t.toInt
  | strings items => Json.strings items
  | ints items => .array (items.map fun n => .int n.toInt)

/-- A value with its kind, as JSON: `"Null"`, or an object whose one field names the kind. -/
def tagged : Value → Json
  | null => .string "Null"
  | bool b => .object [("Bool", .bool b)]
  | int n => .object [("Int64", .int n.toInt)]
  | float x => .object [("Float64", .float x)]
  | string s => .object [("String", .string s)]
  | timestamp t => .object [("Timestamp", .int t.toInt)]
  | strings items => .object [("StringArray", Json.strings items)]
  | ints items => .object [("Int64Array", .array (items.map fun n => .int n.toInt))]

/-- A 64-bit integer of a tree. -/
def int64OfJson? (json : Json) : Option Int64 := do
  let n ← json.int?
  if Int64.minValue.toInt ≤ n ∧ n ≤ Int64.maxValue.toInt then some (Int64.ofInt n) else none

/-- Reads a tagged value; the unit kind is accepted as a string and as an object with a null. -/
def ofTagged? : Json → Option Value
  | .string "Null" => some null
  | .object [(kind, json)] =>
    if kind = "Null" then if json.isNull then some null else none
    else if kind = "Bool" then json.bool?.map bool
    else if kind = "Int64" then (int64OfJson? json).map int
    else if kind = "Float64" then json.number?.map float
    else if kind = "String" then json.string?.map string
    else if kind = "Timestamp" then (int64OfJson? json).map timestamp
    else if kind = "StringArray" then do (← (← json.items?).mapM Json.string?) |> strings
    else if kind = "Int64Array" then do (← (← json.items?).mapM int64OfJson?) |> ints
    else none
  | _ => none

/-- A value as diagnostics show it. -/
def diagnostic : Value → String
  | null => "Null"
  | bool b => "Bool(" ++ toString b ++ ")"
  | int n => "Int64(" ++ toString n.toInt ++ ")"
  | float x => "Float64(" ++ x.diagnosticText ++ ")"
  | string s => "String(" ++ Quoted.quote s ++ ")"
  | timestamp t => "Timestamp(" ++ toString t.toInt ++ ")"
  | strings items => "StringArray(" ++ Quoted.list (items.map Quoted.quote) ++ ")"
  | ints items => "Int64Array(" ++ Quoted.list (items.map fun n => toString n.toInt) ++ ")"

end Value

end GraphQuery
