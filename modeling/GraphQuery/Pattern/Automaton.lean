import GraphQuery.Pattern.Basic
import GraphQuery.Pattern.Bytes
import GraphQuery.Pattern.Trie
import Std.Data.HashMap

/-!
# Automata of patterns

A pattern becomes a nondeterministic automaton over the bytes of a text. The memory of an automaton is bounded, which
bounds what a pattern may ask for: every state takes 32 bytes, every edge of a branching state 8 more and every choice
4 more, and 10 MiB are available. A pattern has to fit in both reading directions, forwards with its groups marked and
backwards without.

* `Automaton.ofPattern?` is the automaton of a pattern, if it fits;
* `Builder.add` and `Builder.patch` are the only steps that build, and keep account of the memory.
-/

namespace GraphQuery

/-- An edge for the bytes of a range. -/
structure ByteEdge where
  low : Nat
  high : Nat
  next : Nat
deriving DecidableEq, Inhabited

/-- A state. -/
inductive AutomatonState where
  /-- Goes on without reading. -/
  | jump (next : Nat)
  /-- Reads a byte of a range. -/
  | byte (edge : ByteEdge)
  /-- Reads a byte of one of several ranges. -/
  | branch (edges : List ByteEdge)
  /-- Goes on without reading at a boundary. -/
  | look (b : Boundary) (next : Nat)
  /-- Goes on without reading in several ways. -/
  | choice (targets : List Nat)
  /-- Leads nowhere. -/
  | dead
  | accept
deriving Inhabited

namespace AutomatonState

/-- The memory that a state takes. -/
def memory : AutomatonState → Nat
  | branch edges => 32 + 8 * edges.length
  | choice targets => 32 + 4 * targets.length
  | _ => 32

/-- Leads a state on to another one; a choice gets one more way. -/
def leadTo (target : Nat) : AutomatonState → AutomatonState
  | jump _ => jump target
  | byte edge => byte { edge with next := target }
  | look b _ => look b target
  | choice targets => choice (target :: targets)
  | other => other

/-- The memory that leading a state on adds. -/
def growth : AutomatonState → Nat
  | choice _ => 4
  | _ => 0

end AutomatonState

/-- An automaton. -/
structure Automaton where
  states : Array AutomatonState
  start : Nat
  /-- The memory that the states take. -/
  memory : Nat
deriving Inhabited

/-! ## Building -/

/-- The states so far, and the memory that they take. -/
structure Builder where
  states : Array AutomatonState
  memory : Nat

/-- A step of building, which fails when the memory is used up. -/
abbrev Build (α : Type) := StateT Builder Option α

namespace Builder

/-- The memory that is available. -/
def available : Nat := 10485760

/-- No states. -/
def empty : Builder := ⟨#[], 0⟩

/-- Adds a state and gives its number. -/
def add (state : AutomatonState) : Build Nat := fun ⟨states, memory⟩ =>
  let memory := memory + state.memory
  if memory ≤ available then some (states.size, ⟨states.push state, memory⟩) else none

/-- Leads a state on to another one. -/
def patch (source target : Nat) : Build Unit := fun ⟨states, memory⟩ =>
  match states[source]? with
  | none => some ((), ⟨states, memory⟩)
  | some state =>
    let memory := memory + state.growth
    if memory ≤ available then some ((), ⟨states.setIfInBounds source (state.leadTo target), memory⟩) else none

end Builder

/-- A part of an automaton with one way in and one way out. -/
structure Fragment where
  first : Nat
  last : Nat
deriving Inhabited

namespace Fragment

open Builder

/-- The fragment of one state. -/
def ofState (state : AutomatonState) : Build Fragment := do
  let i ← add state
  return ⟨i, i⟩

/-- Reads nothing. -/
def nothing : Build Fragment := ofState (.jump 0)

/-- Reads a byte of a range. -/
def byte (low high : Nat) : Build Fragment := ofState (.byte ⟨low, high, 0⟩)

/-- Goes on from one fragment to another. -/
def andThen (a b : Fragment) : Build Fragment := do
  patch a.last b.first
  return ⟨a.first, b.last⟩

/-- The fragments of several steps one after the other. -/
def chain : List (Build Fragment) → Build Fragment
  | [] => nothing
  | step :: rest => do rest.foldlM (fun a step => do a.andThen (← step)) (← step)

/-- The fragments of several steps as alternatives. -/
def choice : List (Build Fragment) → Build Fragment
  | [] => ofState .dead
  | [step] => step
  | step :: step' :: rest => do
    let a ← step
    let b ← step'
    let fork ← add (.choice [])
    let join ← add (.jump 0)
    let connect (f : Fragment) : Build Unit := do
      patch fork f.first
      patch f.last join
    connect a
    connect b
    rest.forM fun step => do connect (← step)
    return ⟨fork, join⟩

/-! ## Repetition -/

/-- Repeats a step so many times after a fragment. -/
def followedBy (step : Build Fragment) : Nat → Fragment → Build Fragment
  | 0, a => return a
  | n + 1, a => do followedBy step n (← a.andThen (← step))

/-- Exactly so many rounds. -/
def exactly (step : Build Fragment) : Nat → Build Fragment
  | 0 => nothing
  | n + 1 => do followedBy step n (← step)

/-- At most so many rounds after a state, each of which may be left to an exit. -/
def optional (step : Build Fragment) (exit : Nat) : Nat → (last : Nat) → Build Nat
  | 0, last => return last
  | n + 1, last => do
    let fork ← add (.choice [])
    let round ← step
    patch last fork
    patch fork round.first
    patch fork exit
    optional step exit n round.last

/-- Between two numbers of rounds. -/
def between (step : Build Fragment) (least most : Nat) : Build Fragment := do
  let required ← exactly step least
  let exit ← add (.jump 0)
  let last ← optional step exit (most - least) required.last
  patch last exit
  return ⟨required.first, exit⟩

/-- One round or none. -/
def atMostOnce (step : Build Fragment) : Build Fragment := do
  let fork ← add (.choice [])
  let round ← step
  let exit ← add (.jump 0)
  patch fork round.first
  patch fork exit
  patch round.last exit
  return ⟨fork, exit⟩

/-- Any number of rounds of a step that reads something. -/
def anyOften (step : Build Fragment) : Build Fragment := do
  let fork ← add (.choice [])
  let round ← step
  patch fork round.first
  patch round.last fork
  return ⟨fork, fork⟩

/-- Any number of rounds of a step that may read nothing. -/
def anyOftenEmpty (step : Build Fragment) : Build Fragment := do
  let round ← step
  let again ← add (.choice [])
  patch round.last again
  patch again round.first
  let fork ← add (.choice [])
  let exit ← add (.jump 0)
  patch fork round.first
  patch fork exit
  patch again exit
  return ⟨fork, exit⟩

/-- A round that may be repeated. -/
def onceOrMore (step : Build Fragment) : Build Fragment := do
  let round ← step
  let again ← add (.choice [])
  patch round.last again
  patch again round.first
  return ⟨round.first, again⟩

/-- At least so many rounds; `readsSome` tells that a round cannot be empty. -/
def atLeast (step : Build Fragment) (readsSome : Bool) : Nat → Build Fragment
  | 0 => if readsSome then anyOften step else anyOftenEmpty step
  | 1 => onceOrMore step
  | n + 2 => do
    let required ← exactly step (n + 1)
    required.andThen (← onceOrMore step)

/-- Rounds within bounds. -/
def rounds (step : Build Fragment) (readsSome : Bool) (least : Nat) : Option Nat → Build Fragment
  | none => atLeast step readsSome least
  | some most =>
    if least = 0 ∧ most = 1 then atMostOnce step
    else if least = most then exactly step least
    else between step least most

end Fragment

/-! ## Sets of characters -/

/-- A memory of states that were built for a key. It has a bounded number of places, and a key that comes to a place
takes it over. -/
structure StateMemo (κ : Type) where
  places : Nat
  entries : Std.HashMap Nat (κ × Nat)

namespace StateMemo

variable {κ : Type} [DecidableEq κ]

/-- Remembers nothing. -/
def empty (places : Nat) : StateMemo κ := ⟨places, ∅⟩

/-- The place of a sequence of numbers. -/
def place (memo : StateMemo κ) (numbers : List Nat) : Nat :=
  let hash : UInt64 := numbers.foldl (fun h n => (h ^^^ n.toUInt64) * 1099511628211) 14695981039346656037
  hash.toNat % memo.places

/-- The state of a key at a place. -/
def get? (memo : StateMemo κ) (place : Nat) (key : κ) : Option Nat :=
  match memo.entries[place]? with
  | some (k, state) => if k = key then some state else none
  | none => none

/-- Remembers the state of a key. -/
def set (memo : StateMemo κ) (place : Nat) (key : κ) (state : Nat) : StateMemo κ :=
  { memo with entries := memo.entries.insert place (key, state) }

end StateMemo

namespace Fragment

open Builder

/-- Reads one character of a set of ASCII characters. -/
def asciiSet (ranges : List (Nat × Nat)) : Build Fragment := do
  let exit ← add (.jump 0)
  let fork ← add (.branch (ranges.map fun (low, high) => ⟨low, high, exit⟩))
  return ⟨fork, exit⟩

/-! ### Forwards -/

/-- A state whose last edge may still lead further. -/
structure OpenState where
  edges : List ByteEdge
  last : Option (Nat × Nat)

/-- Leads the last edge to a state. -/
def OpenState.close (target : Nat) (s : OpenState) : OpenState :=
  match s.last with
  | none => s
  | some (low, high) => ⟨s.edges ++ [⟨low, high, target⟩], none⟩

/-- A branching state with given edges; one that was built before is used again. -/
def shared (edges : List ByteEdge) (memo : StateMemo (List ByteEdge)) : Build (Nat × StateMemo (List ByteEdge)) := do
  let place := memo.place (edges.flatMap fun e => [e.low, e.high, e.next])
  match memo.get? place edges with
  | some state => return (state, memo)
  | none => do
    let state ← add (.branch edges)
    return (state, memo.set place edges state)

/-- Builds so many open states, the deepest first; the last edge of the one above them leads to the last built. -/
def closeStates : (count : Nat) → List OpenState → (target : Nat) → StateMemo (List ByteEdge) →
    Build (List OpenState × StateMemo (List ByteEdge))
  | _, [], _, memo => return ([], memo)
  | 0, top :: rest, target, memo => return (top.close target :: rest, memo)
  | n + 1, top :: rest, target, memo => do
    let (state, memo) ← shared (top.close target).edges memo
    closeStates n rest state memo

/-- The number of ranges at the beginning of a sequence that open states, from the root on, lead along. -/
def commonDepth : List (Nat × Nat) → List OpenState → Nat
  | range :: ranges, s :: states => if s.last = some range then commonDepth ranges states + 1 else 0
  | _, _ => 0

/-- Opens states along a sequence. -/
def openStates (ranges : List (Nat × Nat)) (states : List OpenState) : List OpenState :=
  match ranges, states with
  | range :: ranges, top :: rest =>
    ranges.foldl (fun states range => ⟨[], some range⟩ :: states) ({ top with last := some range } :: rest)
  | _, states => states

/-- Reads one of several sequences of ranges of bytes, which are ascending. States with the same edges are one. -/
def sequences (seqs : List (List (Nat × Nat))) : Build Fragment := do
  let exit ← add (.jump 0)
  let (states, memo) ← seqs.foldlM (fun (states, memo) ranges => do
    let depth := commonDepth ranges states.reverse
    let (states, memo) ← closeStates (states.length - (depth + 1)) states exit memo
    return (openStates (ranges.drop depth) states, memo)) ([⟨[], none⟩], StateMemo.empty 10000)
  let (states, memo) ← closeStates (states.length - 1) states exit memo
  let (fork, _) ← shared ((states.head?.map (·.edges)).getD []) memo
  return ⟨fork, exit⟩

/-! ### Backwards -/

/-- Reads a sequence of ranges of bytes backwards, down to a state. States that lead to the same state along the same
range are one. -/
def sequenceBackwards : List (Nat × Nat) → (target : Nat) → StateMemo (Nat × Nat × Nat) →
    Build (Nat × StateMemo (Nat × Nat × Nat))
  | [], target, memo => return (target, memo)
  | (low, high) :: rest, target, memo => do
    let place := memo.place [target, low, high]
    match memo.get? place (target, low, high) with
    | some state => sequenceBackwards rest state memo
    | none => do
      let read ← byte low high
      patch read.last target
      sequenceBackwards rest read.first (memo.set place (target, low, high) read.first)

/-- Reads one of several sequences of ranges of bytes backwards. -/
def sequencesBackwards (seqs : List (List (Nat × Nat))) : Build Fragment := do
  let fork ← add (.choice [])
  let exit ← add (.jump 0)
  let _ ← seqs.foldlM (fun memo ranges => do
    let (first, memo) ← sequenceBackwards ranges exit memo
    patch fork first
    return memo) (StateMemo.empty 1000)
  return ⟨fork, exit⟩

/-- Reads one character of a set. -/
def ofSet (backwards : Bool) (set : CharSet) : Build Fragment :=
  if set.isAscii then asciiSet set.ranges
  else if backwards then sequencesBackwards (Bytes.ofSet set)
  else sequences (Bytes.ofSet set)

/-! ## Words -/

/-- Adds the states of a trie; `fuel` bounds the length of the words. -/
def trieStates (exit : Nat) : (fuel : Nat) → Trie → Build Nat
  | 0, _ => return exit
  | fuel + 1, .node closed last => do
    let part (edges : List (Nat × Trie)) : Build (List Nat) := do
      let edges ← edges.mapM fun (byte, child) => do
        let next ← if child.isLeaf then pure exit else trieStates exit fuel child
        return (⟨byte, byte, next⟩ : ByteEdge)
      match edges with
      | [] => return []
      | [edge] => return [← add (.byte edge)]
      | edges => return [← add (.branch edges)]
    let before ← closed.mapM fun edges => do return (← part edges) ++ [exit]
    let after ← part last
    add (.choice (before.flatten ++ after))

/-- Reads one of several words. -/
def ofWords (words : List (List Nat)) : Build Fragment := do
  let exit ← add (.jump 0)
  let fork ← trieStates exit ((words.map List.length).foldl max 0 + 1) (Trie.ofWords words)
  return ⟨fork, exit⟩

/-! ## Patterns -/

/-- The bytes of a pattern that is a word. -/
def word? : Pattern → Option (List Nat)
  | .literal text => some (text.flatMap Bytes.ofChar)
  | _ => none

/-- The order in which parts are read. -/
def inOrder {α : Type} (backwards : Bool) (parts : List α) : List α := if backwards then parts.reverse else parts

/-- A fragment with its ends marked. -/
def marked (step : Build Fragment) : Build Fragment := do
  let start ← add (.jump 0)
  let inner ← step
  let stop ← add (.jump 0)
  patch start inner.first
  patch inner.last stop
  return ⟨start, stop⟩

mutual

/-- The fragment of a pattern. -/
def ofPattern (backwards : Bool) : Pattern → Build Fragment
  | .empty => nothing
  | .literal text => chain ((inOrder backwards (text.flatMap Bytes.ofChar)).map fun b => byte b b)
  | .oneOf set => ofSet backwards set
  | .boundary b => ofState (.look b 0)
  | .group _ p => if backwards then ofPattern backwards p else marked (ofPattern backwards p)
  | .seq parts => chain (inOrder backwards (ofPatterns backwards parts))
  | .alt branches =>
    match branches.mapM word? with
    | some words => ofWords (words.map (inOrder backwards))
    | none => choice (ofPatterns backwards branches)
  | .rounds p least most _ => rounds (ofPattern backwards p) (0 < p.minLength?.getD 0) least most

/-- The fragments of several patterns. -/
def ofPatterns (backwards : Bool) : List Pattern → List (Build Fragment)
  | [] => []
  | p :: ps => ofPattern backwards p :: ofPatterns backwards ps

end

/-- The fragment of a whole pattern, after any bytes if the pattern may match anywhere. -/
def whole (backwards : Bool) (p : Pattern) : Build Fragment := do
  let anywhere := !(if backwards then p.endsText else p.startsText)
  let before ← if anywhere then anyOften (asciiSet [(0, 0xFF)]) else nothing
  let inner ← if backwards then ofPattern backwards p else marked (ofPattern backwards p)
  let stop ← add .accept
  patch inner.last stop
  patch before.last inner.first
  return ⟨inner.first, stop⟩

end Fragment

namespace Automaton

/-- The automaton of a pattern in one reading direction, if it fits. -/
def build? (backwards : Bool) (p : Pattern) : Option Automaton := do
  let (fragment, builder) ← (Fragment.whole backwards p).run .empty
  return ⟨builder.states, fragment.first, builder.memory⟩

/-- The automaton of a pattern, if it fits in both reading directions. -/
def ofPattern? (p : Pattern) : Option Automaton := do
  let automaton ← build? false p
  let _ ← build? true p
  return automaton

end Automaton

end GraphQuery
