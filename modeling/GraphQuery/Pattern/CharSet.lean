import GraphQuery.Text.CaseFolding

/-!
# Sets of characters

A `CharSet` is a list of ranges of code points, ascending and with a gap between any two. The surrogates are no
characters, so the character after `0xD7FF` is `0xE000`.

* `CharSet.insert` adds a range; `CharSet.union`, `CharSet.inter`, `CharSet.diff` and `CharSet.complement` are those of
  sets;
* `CharSet.withCases` adds the other cases of the members.
-/

namespace GraphQuery

/-- A set of characters. -/
structure CharSet where
  /-- First and last code points of the ranges. -/
  ranges : List (Nat × Nat)
deriving DecidableEq, Inhabited

namespace CharSet

/-- The last code point. -/
def lastCode : Nat := 0x10FFFF

/-- The code point after another one. -/
def next (n : Nat) : Nat := if n = 0xD7FF then 0xE000 else n + 1

/-- The code point before another one. -/
def prev (n : Nat) : Nat := if n = 0xE000 then 0xD7FF else n - 1

/-- No characters. -/
def empty : CharSet := ⟨[]⟩

/-- The characters from one to another. -/
def range (low high : Nat) : CharSet := ⟨[(low, high)]⟩

/-- One character. -/
def single (c : Char) : CharSet := range c.toNat c.toNat

/-- All characters. -/
def all : CharSet := range 0 lastCode

/-- Whether a code point is in the set. -/
def contains (s : CharSet) (n : Nat) : Bool := s.ranges.any fun (low, high) => low ≤ n && n ≤ high

/-- Adds a range to ascending ranges; ranges that touch become one. -/
def insertRange (low high : Nat) : List (Nat × Nat) → List (Nat × Nat)
  | [] => [(low, high)]
  | (a, b) :: rest =>
    if next high < a then (low, high) :: (a, b) :: rest
    else if next b < low then (a, b) :: insertRange low high rest
    else insertRange (min low a) (max high b) rest

/-- Adds the characters from one to another. -/
def insert (s : CharSet) (low high : Nat) : CharSet := ⟨insertRange low high s.ranges⟩

/-- The members of either set. -/
def union (s t : CharSet) : CharSet := t.ranges.foldl (fun s (low, high) => s.insert low high) s

/-- The members of several sets. -/
def unions (sets : List CharSet) : CharSet := sets.foldl union empty

/-- The gaps between ascending ranges, from a code point to another one. -/
def gaps (top : Nat) : (start : Nat) → List (Nat × Nat) → List (Nat × Nat)
  | start, [] => if start ≤ top then [(start, top)] else []
  | start, (a, b) :: rest => (if start < a then [(start, prev a)] else []) ++ gaps top (next b) rest

/-- The code points up to a last one that are not in the set. -/
def complementUpTo (top : Nat) (s : CharSet) : CharSet := ⟨gaps top 0 s.ranges⟩

/-- The characters that are not in the set. -/
def complement (s : CharSet) : CharSet := s.complementUpTo lastCode

/-- The members of both sets. -/
def inter (s t : CharSet) : CharSet := (s.complement.union t.complement).complement

/-- The members of the first set that are not in the second. -/
def diff (s t : CharSet) : CharSet := s.inter t.complement

/-- Whether there are no members. -/
def isEmpty (s : CharSet) : Bool := s.ranges.isEmpty

/-- Whether all members have one byte. -/
def isAscii (s : CharSet) : Bool := s.ranges.all fun (_, high) => high < 0x80

/-- The only member, if there is one only. -/
def only? (s : CharSet) : Option Char :=
  match s.ranges with
  | [(low, high)] => if low = high then some (Char.ofNat low) else none
  | _ => none

/-- Adds the other cases of the members, as far as both are below a bound. -/
def withCasesBelow (bound : Nat) (s : CharSet) : CharSet :=
  CaseFolding.related.foldl (fun t (a, b) => if a < bound && b < bound && s.contains a then t.insert b b else t) s

/-- Adds the other cases of the members. -/
def withCases (s : CharSet) : CharSet := s.withCasesBelow (lastCode + 1)

end CharSet

end GraphQuery
