import GraphQuery.Json.Reader
import GraphQuery.Json.Record
import GraphQuery.Order.Basic
import GraphQuery.Error
import GraphQuery.Text.Base64Url

/-!
# Cursors

A cursor is the place of a node in an order, written as one word: the value of every sort key, as a compact JSON object
in base 64. It is accepted under every order with the same names of keys, and refused under all others.

* `Cursor.encode` writes the values of the keys of an order; a key without a value has the null;
* `Cursor.decode` reads them back.
-/

namespace GraphQuery
namespace Cursor

/-- The value of every key of an order, by name. -/
def valuesOf (order : Order) (observed : Table Value) : Table Value :=
  Table.ofList (order.names.map fun name => (name, (List.lookup name observed).getD .null))

/-- The compact JSON of a table of values. -/
def content (values : Table Value) : String := (Json.ofTable Value.tagged values).text

/-- The bytes of a text. -/
def bytesOf (text : String) : List UInt8 := text.toUTF8.data.toList

/-- The text of a sequence of bytes. -/
def textOf? (bytes : List UInt8) : Option String := String.fromUTF8? ⟨bytes.toArray⟩

/-- The cursor of a table of values. -/
def write (values : Table Value) : String := String.ofList (Base64Url.encode (bytesOf (content values)))

/-- The table of values of a cursor; of two entries with one name the later stands. -/
def read? (cursor : String) : Option (Table Value) := do
  let text ← textOf? (← Base64Url.decode cursor.toList)
  return Table.ofList (← (← Json.ofText? text).table? Value.ofTagged?)

/-- The cursor of the values observed for the keys of an order. -/
def encode (order : Order) (observed : Table Value) : String := write (valuesOf order observed)

/-- Whether a table has exactly the names of the keys of an order. -/
def fits (order : Order) (values : Table Value) : Bool :=
  values.length = order.keys.length && order.names.all fun name => (List.lookup name values).isSome

/-- The values of a cursor that was written under an order with the same names of keys. -/
def decode (order : Order) (cursor : String) : Result (Table Value) :=
  match read? cursor with
  | none => .error (.invalidCursor .unreadable)
  | some values =>
    if fits order values then .ok values
    else .error (.invalidCursor (.otherOrder (values.map (·.1)) order.names))

end Cursor
end GraphQuery
