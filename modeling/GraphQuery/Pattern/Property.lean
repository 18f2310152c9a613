import GraphQuery.Pattern.CharSet

/-!
# Properties of characters

A pattern may ask for the characters that have a property: by the name of a property or of a value, or by both. Which
properties there are, and which characters have them, belongs to no pattern. It is what a `PropertyTable` tells, so
everything that patterns mean is relative to one.
-/

namespace GraphQuery

/-- What a pattern asks the table for. -/
inductive PropertyQuery where
  /-- By the name of a property that holds or does not, or of a value. -/
  | named (name : String)
  /-- By the name of a property and one of its values. -/
  | valued (name value : String)
deriving DecidableEq, Inhabited

/-- A table of the properties of characters. -/
class PropertyTable where
  /-- The characters that a query asks for, if the table knows the names in it. -/
  set? : PropertyQuery → Option CharSet

namespace PropertyQuery

/-- The parts of a text before and after the first place where a mark stands. -/
def cut? (mark : List Char) : List Char → Option (List Char × List Char)
  | [] => none
  | c :: rest =>
    if mark.isPrefixOf (c :: rest) then some ([], (c :: rest).drop mark.length)
    else (cut? mark rest).map fun (before, after) => (c :: before, after)

/-- The marks that may stand between a name and a value, the one that decides first in front. None of them negates. -/
def marks : List (List Char) := [['!', '='], [':'], ['=']]

/-- The query that is written as a text. -/
def ofChars (text : List Char) : PropertyQuery :=
  match marks.findSome? (cut? · text) with
  | some (name, value) => .valued (String.ofList name) (String.ofList value)
  | none => .named (String.ofList text)

end PropertyQuery

end GraphQuery
