import GraphQuery.Text.Printable

/-!
# Quoted text in diagnostics

A string is shown between quotes, with the quote, the backslash, NUL, tab, line feed and carriage return escaped and
every other character without a glyph shown as `\u{...}` in hexadecimal digits.
-/

namespace GraphQuery
namespace Quoted

/-- The shown form of a character. -/
def shownChar (c : Char) : List Char :=
  if c = '"' then ['\\', '"']
  else if c = '\\' then ['\\', '\\']
  else if c = '\n' then ['\\', 'n']
  else if c = '\r' then ['\\', 'r']
  else if c = '\t' then ['\\', 't']
  else if c.toNat = 0 then ['\\', '0']
  else if Printable.isPrintable c then [c]
  else '\\' :: 'u' :: '\x7b' :: Nat.toDigits 16 c.toNat ++ ['\x7d']

/-- A string between quotes. -/
def quote (s : String) : String := String.ofList ('"' :: s.toList.flatMap shownChar ++ ['"'])

/-- Items between brackets, with a comma and a blank between them. -/
def list (items : List String) : String := "[" ++ String.intercalate ", " items ++ "]"

end Quoted
end GraphQuery
