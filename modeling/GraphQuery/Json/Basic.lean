import GraphQuery.Decimal.Binary64
import GraphQuery.Table

/-!
# JSON trees

A `Json` tree keeps the fields of an object as a list. `Json.canonical` sorts them by name and lets the last of several
fields with one name stand; inputs are read in that form, so an object is always visited in the order of its names.
-/

namespace GraphQuery

/-- A JSON tree. -/
inductive Json where
  | null
  | bool (b : Bool)
  /-- A number written without a point and an exponent that fits 64 bits. -/
  | int (n : Int)
  /-- Any other number. -/
  | float (x : Binary64)
  | string (s : String)
  | array (items : List Json)
  | object (fields : List (String × Json))
deriving Inhabited

namespace Json

/-! ## Canonical trees -/

mutual

/-- The same tree with the fields of every object sorted, the last of several equal names standing. -/
def canonical : Json → Json
  | array items => array (canonicalItems items)
  | object fields => object (canonicalFields fields)
  | leaf => leaf

/-- Canonical items, in their order. -/
def canonicalItems : List Json → List Json
  | [] => []
  | item :: rest => item.canonical :: canonicalItems rest

/-- Canonical fields; a field gives way to a later one of its name. -/
def canonicalFields : List (String × Json) → Table Json
  | [] => []
  | (name, value) :: rest =>
    let table := canonicalFields rest
    if (table.lookup name).isSome then table else table.insert name value.canonical

end

/-! ## Views -/

/-- The text of a string. -/
def string? : Json → Option String
  | string s => some s
  | _ => none

/-- The truth value of a boolean. -/
def bool? : Json → Option Bool
  | bool b => some b
  | _ => none

/-- The value of an integer. -/
def int? : Json → Option Int
  | int n => some n
  | _ => none

/-- Any number as a floating-point number. -/
def number? : Json → Option Binary64
  | int n => some (Binary64.ofInt n)
  | float x => some x
  | _ => none

/-- The items of an array. -/
def items? : Json → Option (List Json)
  | array items => some items
  | _ => none

/-- The fields of an object. -/
def fields? : Json → Option (List (String × Json))
  | object fields => some fields
  | _ => none

/-- Whether this is `null`. -/
def isNull : Json → Bool
  | null => true
  | _ => false

/-- A field of an object. -/
def field? (json : Json) (name : String) : Option Json := do (← json.fields?).lookup name

/-- A floating-point number as JSON; an infinity and a NaN have no numeral and become `null`. -/
def ofBinary64 (x : Binary64) : Json := if x.isFinite then float x else null

/-- The tree of an optional value, `null` when there is none. -/
def ofOption {α : Type} (f : α → Json) : Option α → Json
  | some a => f a
  | none => null

/-- An array of strings. -/
def strings (items : List String) : Json := array (items.map string)

/-- The object of a table. -/
def ofTable {α : Type} (f : α → Json) (table : Table α) : Json := object (table.mapEntries f)

mutual

/-- The number of levels of a tree. -/
def depth : Json → Nat
  | array items => depthItems items + 1
  | object fields => depthFields fields + 1
  | _ => 1

/-- The number of levels of the deepest item. -/
def depthItems : List Json → Nat
  | [] => 0
  | item :: rest => max item.depth (depthItems rest)

/-- The number of levels of the deepest field. -/
def depthFields : List (String × Json) → Nat
  | [] => 0
  | (_, value) :: rest => max value.depth (depthFields rest)

end

/-! ## Equality -/

/-- Whether two floating-point numbers are equal as numbers; the zeros are. -/
def sameNumber (x y : Binary64) : Bool := x = y || (x.isZero && y.isZero)

mutual

/-- Whether two trees are the same, field order included. -/
def same : Json → Json → Bool
  | null, null => true
  | bool a, bool b => a = b
  | int a, int b => a = b
  | float a, float b => sameNumber a b
  | string a, string b => a = b
  | array a, array b => sameItems a b
  | object a, object b => sameFields a b
  | _, _ => false

/-- Whether two lists of trees are the same. -/
def sameItems : List Json → List Json → Bool
  | [], [] => true
  | a :: as, b :: bs => same a b && sameItems as bs
  | _, _ => false

/-- Whether two lists of fields are the same. -/
def sameFields : List (String × Json) → List (String × Json) → Bool
  | [], [] => true
  | (m, a) :: as, (n, b) :: bs => m = n && same a b && sameFields as bs
  | _, _ => false

end

instance : BEq Json := ⟨same⟩

end Json

end GraphQuery
