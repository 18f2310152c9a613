/-!
# Blanks

The characters that only separate: line ends, tabulators, and the spaces of all widths.
-/

namespace GraphQuery
namespace Blank

/-- First and last code points of the ranges of blanks, ascending. -/
def ranges : List (Nat × Nat) :=
  [(0x09, 0x0D), (0x20, 0x20), (0x85, 0x85), (0xA0, 0xA0), (0x1680, 0x1680), (0x2000, 0x200A), (0x2028, 0x2029),
   (0x202F, 0x202F), (0x205F, 0x205F), (0x3000, 0x3000)]

end Blank

/-- Whether a character is a blank. -/
def isBlankCharacter (c : Char) : Bool := Blank.ranges.any fun (first, last) => first ≤ c.toNat && c.toNat ≤ last

end GraphQuery
