import GraphQuery.Decimal.Scan
import GraphQuery.Json.Basic

/-!
# Reading JSON

`Json.ofText?` reads one tree with blanks around it. Objects keep their fields as written, repeated names included;
`Json.canonical` gives the form in which the last one stands.
-/

namespace GraphQuery
namespace Json

/-- The blanks between tokens. -/
def isBlank (c : Char) : Bool := c = ' ' || c = '\n' || c = '\r' || c = '\t'

/-- The text after leading blanks. -/
def skipBlanks (text : List Char) : List Char := text.dropWhile isBlank

/-- The text after an expected beginning. -/
def afterWord? (word text : List Char) : Option (List Char) :=
  if word.isPrefixOf text then some (text.drop word.length) else none

/-! ## Strings -/

/-- The value of a hexadecimal digit. -/
def hexValue? (c : Char) : Option Nat :=
  if c.isDigit then some (c.toNat - '0'.toNat)
  else if 'a' ≤ c ∧ c ≤ 'f' then some (c.toNat - 'a'.toNat + 10)
  else if 'A' ≤ c ∧ c ≤ 'F' then some (c.toNat - 'A'.toNat + 10)
  else none

/-- A number of four hexadecimal digits. -/
def hexUnit? : List Char → Option (Nat × List Char)
  | a :: b :: c :: d :: rest => do
    let a ← hexValue? a
    let b ← hexValue? b
    let c ← hexValue? c
    let d ← hexValue? d
    return (((a * 16 + b) * 16 + c) * 16 + d, rest)
  | _ => none

/-- The character of `\u` escapes: one unit, or a leading and a trailing surrogate. -/
def escapedUnit? (text : List Char) : Option (Char × List Char) := do
  let (unit, rest) ← hexUnit? text
  if 0xD800 ≤ unit ∧ unit < 0xDC00 then
    let rest ← afterWord? ['\\', 'u'] rest
    let (trail, rest) ← hexUnit? rest
    if 0xDC00 ≤ trail ∧ trail < 0xE000 then
      return (Char.ofNat (0x10000 + (unit - 0xD800) * 0x400 + (trail - 0xDC00)), rest)
    else none
  else if 0xDC00 ≤ unit ∧ unit < 0xE000 then none
  else return (Char.ofNat unit, rest)

/-- The character of an escape, after its backslash. -/
def escape? : List Char → Option (Char × List Char)
  | [] => none
  | c :: rest =>
    if c = '"' ∨ c = '\\' ∨ c = '/' then some (c, rest)
    else if c = 'n' then some ('\n', rest)
    else if c = 'r' then some ('\r', rest)
    else if c = 't' then some ('\t', rest)
    else if c = 'b' then some (Char.ofNat 0x08, rest)
    else if c = 'f' then some (Char.ofNat 0x0C, rest)
    else if c = 'u' then escapedUnit? rest
    else none

/-- The characters of a string up to its closing quote, and the rest. Every round reads a character at least, so the
length of the text bounds the rounds. -/
def stringBody? : Nat → List Char → Option (List Char × List Char)
  | 0, _ => none
  | _ + 1, [] => none
  | rounds + 1, c :: rest =>
    if c = '"' then some ([], rest)
    else if c = '\\' then do
      let (d, rest) ← escape? rest
      let (body, rest) ← stringBody? rounds rest
      return (d :: body, rest)
    else if c.toNat < 0x20 then none
    else do
      let (body, rest) ← stringBody? rounds rest
      return (c :: body, rest)

/-- A quoted string, and the rest. -/
def quoted? : List Char → Option (String × List Char)
  | '"' :: rest => do
    let (body, rest) ← stringBody? (rest.length + 1) rest
    return (String.ofList body, rest)
  | _ => none

/-! ## Trees -/

mutual

/-- A tree at the front of a text, and the rest. The first argument bounds the nesting and the number of members. -/
def read? : Nat → List Char → Option (Json × List Char)
  | 0, _ => none
  | fuel + 1, text =>
    match skipBlanks text with
    | [] => none
    | c :: rest =>
      if c = '"' then do
        let (s, rest) ← quoted? (c :: rest)
        return (string s, rest)
      else if c = '[' then
        match skipBlanks rest with
        | ']' :: rest => some (array [], rest)
        | text => do
          let (items, rest) ← readItems? fuel text
          return (array items, rest)
      else if c = '\x7b' then
        match skipBlanks rest with
        | '\x7d' :: rest => some (object [], rest)
        | text => do
          let (fields, rest) ← readFields? fuel text
          return (object fields, rest)
      else if c = 't' then return (bool true, ← afterWord? "rue".toList rest)
      else if c = 'f' then return (bool false, ← afterWord? "alse".toList rest)
      else if c = 'n' then return (null, ← afterWord? "ull".toList rest)
      else do
        let (numeral, rest) ← Numeral.scan (c :: rest)
        match numeral with
        | .integer n => return (int n, rest)
        | .float x => return (float x, rest)

/-- The items of an array up to its end. -/
def readItems? : Nat → List Char → Option (List Json × List Char)
  | 0, _ => none
  | fuel + 1, text => do
    let (item, rest) ← read? fuel text
    match skipBlanks rest with
    | ',' :: rest =>
      let (items, rest) ← readItems? fuel rest
      return (item :: items, rest)
    | ']' :: rest => return ([item], rest)
    | _ => none

/-- The fields of an object up to its end. -/
def readFields? : Nat → List Char → Option (List (String × Json) × List Char)
  | 0, _ => none
  | fuel + 1, text => do
    let (name, rest) ← quoted? (skipBlanks text)
    match skipBlanks rest with
    | ':' :: rest =>
      let (value, rest) ← read? fuel rest
      match skipBlanks rest with
      | ',' :: rest =>
        let (fields, rest) ← readFields? fuel rest
        return ((name, value) :: fields, rest)
      | '\x7d' :: rest => return ([(name, value)], rest)
      | _ => none
    | _ => none

end

/-- The tree of a text: one tree, with blanks around it and nothing else. -/
def ofText? (text : String) : Option Json := do
  let (json, rest) ← read? (text.length + 1) text.toList
  if (skipBlanks rest).isEmpty then some json else none

end Json
end GraphQuery
