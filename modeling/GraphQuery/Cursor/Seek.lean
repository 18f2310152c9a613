import GraphQuery.Condition.Bindings

/-!
# Seeking past a cursor

`Order.seek` is the condition that a node lies strictly beyond a cursor. For keys `k₁, …, kₙ` and values `c₁, …, cₙ` it
is `k₁ > c₁ ∨ (k₁ = c₁ ∧ (k₂ > c₂ ∨ …))`, where `>` turns into `<` for a key that is run through downwards. Nulls come
after every other value: nothing lies beyond a null upwards, and everything but the nulls lies beyond it downwards.
-/

namespace GraphQuery

namespace OrderKey

/-- Whether the key runs downwards, seen in the direction of seeking. -/
def descends (key : OrderKey) (forwards : Bool) : Bool := decide (key.direction = .descending) != !forwards

/-- The conditions that a key lies past a value, and at it. -/
def bounds (key : OrderKey) (operand : Operand) (value : Value) (descending : Bool) (b : Bindings) :
    (Condition × Condition) × Bindings :=
  if value.isNull then
    ((if descending then .not (.isNull operand) else .never, .isNull operand), b)
  else
    let param := b.addParam value
    let past := Condition.compare operand (if descending then .lt else .gt) param.1
    let admitsNull := key.nullable && !descending
    ((if admitsNull then .or [past, .isNull operand] else past, .compare operand .eq param.1), param.2)

end OrderKey

namespace Order

/-- The condition that the keys of a list lie beyond the values. -/
def seekKeys (values : Table Value) (forwards : Bool) (operandOf : OrderKey → Operand) :
    List OrderKey → Bindings → Condition × Bindings
  | [], b => (.always, b)
  | [key], b =>
    let bounds := key.bounds (operandOf key) ((values.lookup key.name).getD .null) (key.descends forwards) b
    (bounds.1.1, bounds.2)
  | key :: rest, b =>
    let beyond := seekKeys values forwards operandOf rest b
    let bounds := key.bounds (operandOf key) ((values.lookup key.name).getD .null) (key.descends forwards) beyond.2
    (.or [bounds.1.1, .and [bounds.1.2, beyond.1]], bounds.2)

/-- The condition that a node lies strictly after the values, or strictly before them. -/
def seek (order : Order) (values : Table Value) (forwards : Bool) (operandOf : OrderKey → Operand) (b : Bindings) :
    Condition × Bindings :=
  seekKeys values forwards operandOf order.keys b

end Order

end GraphQuery
