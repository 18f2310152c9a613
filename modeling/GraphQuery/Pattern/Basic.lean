import GraphQuery.Pattern.CharSet
import GraphQuery.Text.WordCharacter

/-!
# Regular expressions

A `Pattern` is a regular expression whose flags are resolved. It is kept in a normal form, which the functions that
build patterns establish: sequences hold no sequences, no empty parts and no two words side by side; alternatives hold
no alternatives, and alternatives of single characters are a set; a common beginning of alternatives stands before
them.

* `Pattern.ofSet`, `Pattern.concat`, `Pattern.choice` and `Pattern.repeated` build patterns;
* `Pattern.minLength?` and `Pattern.maxLength?` bound the lengths of matches, in bytes.
-/

namespace GraphQuery

/-- A place of a text at which a pattern may insist to be. Boundaries of words look at ASCII alone if that is asked for,
and lines may also end with a carriage return. -/
inductive Boundary where
  | textStart
  | textEnd
  | lineStart (withReturn : Bool)
  | lineEnd (withReturn : Bool)
  | word (ascii : Bool)
  | notWord (ascii : Bool)
  | wordStart (ascii : Bool)
  | wordEnd (ascii : Bool)
  | wordStartHalf (ascii : Bool)
  | wordEndHalf (ascii : Bool)
deriving DecidableEq, Inhabited

/-- Whether a character next to a place belongs to a word. -/
def Boundary.ofWord (ascii : Bool) : Option Char → Bool
  | none => false
  | some c => if ascii then c.isAlphanum || c = '_' else isWordCharacter c

/-- Whether the characters before and after a place satisfy a boundary. -/
def Boundary.holds (before after : Option Char) : Boundary → Bool
  | textStart => before.isNone
  | textEnd => after.isNone
  | lineStart false => before.isNone || before = some '\n'
  | lineStart true => before.isNone || before = some '\n' || (before = some '\r' && after ≠ some '\n')
  | lineEnd false => after.isNone || after = some '\n'
  | lineEnd true => after.isNone || after = some '\r' || (after = some '\n' && before ≠ some '\r')
  | word ascii => ofWord ascii before != ofWord ascii after
  | notWord ascii => ofWord ascii before == ofWord ascii after
  | wordStart ascii => !ofWord ascii before && ofWord ascii after
  | wordEnd ascii => ofWord ascii before && !ofWord ascii after
  | wordStartHalf ascii => !ofWord ascii before
  | wordEndHalf ascii => !ofWord ascii after

/-- A regular expression. -/
inductive Pattern where
  | empty
  /-- Some characters one after the other. -/
  | literal (text : List Char)
  /-- One character of a set. -/
  | oneOf (set : CharSet)
  | boundary (b : Boundary)
  /-- A numbered group. -/
  | group (index : Nat) (p : Pattern)
  | seq (parts : List Pattern)
  | alt (branches : List Pattern)
  /-- From `least` to `most` rounds, or without an upper bound; as many as possible if it is greedy. -/
  | rounds (p : Pattern) (least : Nat) (most : Option Nat) (greedy : Bool)
deriving Inhabited

namespace Pattern

/-! ## Equality -/

mutual

/-- Whether two patterns are the same. -/
def same : Pattern → Pattern → Bool
  | empty, empty => true
  | literal a, literal b => a = b
  | oneOf s, oneOf t => s = t
  | boundary a, boundary b => a = b
  | group i p, group j q => i = j && same p q
  | seq ps, seq qs => sameParts ps qs
  | alt ps, alt qs => sameParts ps qs
  | rounds p least most greedy, rounds q least' most' greedy' =>
    least = least' && most = most' && greedy == greedy' && same p q
  | _, _ => false

/-- Whether two lists of patterns are the same. -/
def sameParts : List Pattern → List Pattern → Bool
  | [], [] => true
  | p :: ps, q :: qs => same p q && sameParts ps qs
  | _, _ => false

end

/-! ## Lengths -/

/-- The number of bytes of a code point. -/
def byteCount (n : Nat) : Nat := if n < 0x80 then 1 else if n < 0x800 then 2 else if n < 0x10000 then 3 else 4

/-- The number of bytes of a text. -/
def textLength (text : List Char) : Nat := text.foldl (fun n c => n + byteCount c.toNat) 0

mutual

/-- The least length of a match, if there is a bound. -/
def minLength? : Pattern → Option Nat
  | empty => some 0
  | literal text => some (textLength text)
  | oneOf set => set.ranges.head?.map fun (low, _) => byteCount low
  | boundary _ => some 0
  | group _ p => minLength? p
  | seq parts => minLengthOfAll? parts
  | alt branches => minLengthOfAny? branches
  | rounds p least _ _ => (minLength? p).map (· * least)

/-- The sum of the least lengths. -/
def minLengthOfAll? : List Pattern → Option Nat
  | [] => some 0
  | p :: ps => do return (← minLength? p) + (← minLengthOfAll? ps)

/-- The least of the least lengths. -/
def minLengthOfAny? : List Pattern → Option Nat
  | [] => none
  | [p] => minLength? p
  | p :: ps => do return min (← minLength? p) (← minLengthOfAny? ps)

end

mutual

/-- The greatest length of a match, if there is a bound. -/
def maxLength? : Pattern → Option Nat
  | empty => some 0
  | literal text => some (textLength text)
  | oneOf set => set.ranges.getLast?.map fun (_, high) => byteCount high
  | boundary _ => some 0
  | group _ p => maxLength? p
  | seq parts => maxLengthOfAll? parts
  | alt branches => maxLengthOfAny? branches
  | rounds p _ most _ => do return (← maxLength? p) * (← most)

/-- The sum of the greatest lengths. -/
def maxLengthOfAll? : List Pattern → Option Nat
  | [] => some 0
  | p :: ps => do return (← maxLength? p) + (← maxLengthOfAll? ps)

/-- The greatest of the greatest lengths. -/
def maxLengthOfAny? : List Pattern → Option Nat
  | [] => none
  | [p] => maxLength? p
  | p :: ps => do return max (← maxLength? p) (← maxLengthOfAny? ps)

end

/-- Whether only the empty text matches. -/
def isVoid (p : Pattern) : Bool := p.maxLength? = some 0

mutual

/-- Whether every match insists to stand at the start of the text. -/
def startsText : Pattern → Bool
  | boundary b => b = .textStart
  | group _ p => startsText p
  | seq parts => someStartsText parts
  | alt branches => allStartText branches
  | rounds p least _ _ => 0 < least && startsText p
  | _ => false

/-- Whether a part before which nothing is matched insists to stand at the start of the text. -/
def someStartsText : List Pattern → Bool
  | [] => false
  | p :: ps => startsText p || (isVoid p && someStartsText ps)

/-- Whether every branch insists to stand at the start of the text. -/
def allStartText : List Pattern → Bool
  | [] => true
  | p :: ps => startsText p && allStartText ps

end

mutual

/-- Whether every match insists to stand at the end of the text. -/
def endsText : Pattern → Bool
  | boundary b => b = .textEnd
  | group _ p => endsText p
  | seq parts => (someEndsText parts).1
  | alt branches => allEndText branches
  | rounds p least _ _ => 0 < least && endsText p
  | _ => false

/-- Whether a part after which nothing is matched insists to stand at the end of the text, and whether nothing is
matched at all. -/
def someEndsText : List Pattern → Bool × Bool
  | [] => (false, true)
  | p :: ps =>
    let after := someEndsText ps
    (after.1 || (after.2 && endsText p), after.2 && isVoid p)

/-- Whether every branch insists to stand at the end of the text. -/
def allEndText : List Pattern → Bool
  | [] => true
  | p :: ps => endsText p && allEndText ps

end

/-! ## Building -/

/-- One character of a set. -/
def ofSet (set : CharSet) : Pattern :=
  match set.only? with
  | some c => literal [c]
  | none => oneOf set

/-- Puts a part in front of the parts of a sequence. -/
def consPart (p : Pattern) (parts : List Pattern) : List Pattern :=
  match p, parts with
  | empty, parts => parts
  | literal a, literal b :: parts => literal (a ++ b) :: parts
  | p, parts => p :: parts

/-- The parts of a pattern as a sequence. -/
def parts : Pattern → List Pattern
  | seq ps => ps
  | p => [p]

/-- Several patterns one after the other. -/
def concat (ps : List Pattern) : Pattern :=
  match (ps.flatMap parts).foldr consPart [] with
  | [] => empty
  | [p] => p
  | ps => seq ps

/-- The branches of a pattern as alternatives. -/
def branches : Pattern → List Pattern
  | alt ps => ps
  | p => [p]

/-- The only character of a literal. -/
def onlyChar? : Pattern → Option Char
  | literal [c] => some c
  | _ => none

/-- The set of a pattern that matches one character of it. -/
def set? : Pattern → Option CharSet
  | oneOf set => some set
  | _ => none

/-- The number of parts with which two sequences begin alike. -/
def commonCount : List Pattern → List Pattern → Nat
  | p :: ps, q :: qs => if same p q then commonCount ps qs + 1 else 0
  | _, _ => 0

/-- The number of parts with which all branches begin, if all of them are sequences. -/
def commonPrefix? : List Pattern → Option Nat
  | [] => none
  | [_] => none
  | seq first :: rest => rest.foldlM (fun n branch =>
      match branch with
      | seq ps => some (min n (commonCount first ps))
      | _ => none) first.length
  | _ => none

/-- Alternatives, whatever they have in common at their beginning. -/
def choiceOf (ps : List Pattern) : Pattern :=
  match ps.flatMap branches with
  | [] => oneOf .empty
  | [p] => p
  | ps =>
    match ps.mapM onlyChar?, ps.mapM set? with
    | some cs, _ => ofSet (.unions (cs.map .single))
    | none, some sets => ofSet (.unions sets)
    | none, none => alt ps

/-- Alternatives. What is left of them after a common beginning has none, so it is taken out once. -/
def choice (ps : List Pattern) : Pattern :=
  match choiceOf ps with
  | alt ps =>
    match commonPrefix? ps with
    | some (n + 1) =>
      let front := ((ps.head?.map parts).getD []).take (n + 1)
      concat (front ++ [choiceOf (ps.map fun p => concat ((parts p).drop (n + 1)))])
    | _ => alt ps
  | p => p

/-- Repeats a pattern. Of rounds that match nothing one is enough. -/
def repeated (p : Pattern) (least : Nat) (most : Option Nat) (greedy : Bool) : Pattern :=
  let (least, most) := if p.isVoid then (min least 1, some (min (most.getD 1) 1)) else (least, most)
  if most = some 0 then empty
  else if least = 1 ∧ most = some 1 then p
  else rounds p least most greedy

end Pattern

end GraphQuery
