import GraphQuery.Decimal.Layout
import GraphQuery.Json.Basic

/-!
# Writing JSON

`Json.text` is the compact form of a tree: no blanks, fields in the order of the list, and in strings only the quote,
the backslash and the characters below `U+0020` escaped.
-/

namespace GraphQuery
namespace Json

/-- The escaped form of a character inside a string. -/
def escapedChar (c : Char) : List Char :=
  if c = '"' then ['\\', '"']
  else if c = '\\' then ['\\', '\\']
  else if 0x20 ≤ c.toNat then [c]
  else if c = '\n' then ['\\', 'n']
  else if c = '\r' then ['\\', 'r']
  else if c = '\t' then ['\\', 't']
  else if c.toNat = 0x08 then ['\\', 'b']
  else if c.toNat = 0x0C then ['\\', 'f']
  else ['\\', 'u', '0', '0', Nat.digitChar (c.toNat / 16), Nat.digitChar (c.toNat % 16)]

/-- A string between quotes. -/
def stringText (s : String) : List Char := '"' :: s.toList.flatMap escapedChar ++ ['"']

/-- The digits of an integer. -/
def intText (n : Int) : List Char :=
  if n < 0 then '-' :: FloatLayout.digits n.natAbs else FloatLayout.digits n.natAbs

/-- The numeral of a floating-point number. -/
def floatText (x : Binary64) : List Char :=
  if x.isFinite then FloatLayout.json.text x else "null".toList

mutual

/-- The compact text of a tree. -/
def chars : Json → List Char
  | null => "null".toList
  | bool true => "true".toList
  | bool false => "false".toList
  | int n => intText n
  | float x => floatText x
  | string s => stringText s
  | array [] => ['[', ']']
  | array (item :: rest) => '[' :: (item.chars ++ itemsChars rest)
  | object [] => ['\x7b', '\x7d']
  | object ((name, value) :: rest) => '\x7b' :: (stringText name ++ ':' :: (value.chars ++ fieldsChars rest))

/-- The items of an array after its first, and its end. -/
def itemsChars : List Json → List Char
  | [] => [']']
  | item :: rest => ',' :: (item.chars ++ itemsChars rest)

/-- The fields of an object after its first, and its end. -/
def fieldsChars : List (String × Json) → List Char
  | [] => ['\x7d']
  | (name, value) :: rest => ',' :: (stringText name ++ ':' :: (value.chars ++ fieldsChars rest))

end

/-- The compact text of a tree. -/
def text (json : Json) : String := String.ofList json.chars

end Json
end GraphQuery
