import GraphQuery.Pattern.CharSet

/-!
# Ranges of characters as ranges of bytes

The characters of a range are the texts of some sequences of ranges of bytes. A code point is a number of digits of six
bits with a lead, and a range of such numbers is cut where the digits after some place do not run through all values.

* `Bytes.ofRange` lists the sequences, ascending.
-/

namespace GraphQuery
namespace Bytes

/-- The numbers from one to another as sequences of ranges of digits: a lead and so many digits of six bits. -/
def digits : (count : Nat) → (low high : Nat) → List (List (Nat × Nat))
  | 0, low, high => [[(low, high)]]
  | n + 1, low, high =>
    let size := Nat.pow 64 (n + 1)
    let a := low / size
    let b := high / size
    let start := low % size
    let stop := high % size
    if a = b then (digits n start stop).map ((a, a) :: ·)
    else
      let front := if start = 0 then [] else (digits n start (size - 1)).map ((a, a) :: ·)
      let back := if stop + 1 = size then [] else (digits n 0 stop).map ((b, b) :: ·)
      let first := if start = 0 then a else a + 1
      let last := if stop + 1 = size then b else b - 1
      let middle := if first ≤ last then [(first, last) :: List.replicate (n + 1) (0, 63)] else []
      front ++ middle ++ back

/-- The bytes of a lead and digits. -/
def ofDigits (lead : Nat) : List (Nat × Nat) → List (Nat × Nat)
  | [] => []
  | (a, b) :: rest => (lead + a, lead + b) :: rest.map fun (a, b) => (0x80 + a, 0x80 + b)

/-- The code points whose texts have one length: first, last, the number of digits after the lead, and the mark of the
lead. -/
def blocks : List (Nat × Nat × Nat × Nat) :=
  [(0, 0x7F, 0, 0), (0x80, 0x7FF, 1, 0xC0), (0x800, 0xD7FF, 2, 0xE0), (0xE000, 0xFFFF, 2, 0xE0),
   (0x10000, 0x10FFFF, 3, 0xF0)]

/-- The sequences of ranges of bytes of a range of characters. -/
def ofRange (low high : Nat) : List (List (Nat × Nat)) :=
  blocks.flatMap fun (first, last, count, lead) =>
    let low := max low first
    let high := min high last
    if low ≤ high then (digits count low high).map (ofDigits lead) else []

/-- The sequences of ranges of bytes of a set of characters. -/
def ofSet (set : CharSet) : List (List (Nat × Nat)) := set.ranges.flatMap fun (low, high) => ofRange low high

/-- The bytes of a character. -/
def ofChar (c : Char) : List Nat := (ofRange c.toNat c.toNat).flatten.map (·.1)

end Bytes
end GraphQuery
