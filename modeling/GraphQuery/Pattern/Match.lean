import GraphQuery.Pattern.Automaton
import GraphQuery.Pattern.Reader

/-!
# Running automata

An automaton is run on all ways at once: the states that can be reached are kept, each once. A match may start and end
at any place of the text.

* `Automaton.matchesIn` tells whether there is a match;
* `Automaton.ofText?` and `Automaton.anchored?` are the automata of written patterns.
-/

namespace GraphQuery
namespace Automaton

/-- The states that have been reached at a place: a stamp for each state, which is that of the place if the state was
reached there, and the states among them that read on. -/
structure Reached where
  stamps : Array Nat
  reading : List Nat
  accepted : Bool

/-- Adds the states that can be reached without reading. Every way is followed once, so the memory of the automaton
bounds the number of steps. -/
def reach (a : Automaton) (before after : Option Char) (stamp : Nat) : (fuel : Nat) → List Nat → Reached → Reached
  | 0, _, reached => reached
  | _, [], reached => reached
  | fuel + 1, i :: pending, ⟨stamps, reading, accepted⟩ =>
    if stamps[i]? = some stamp then reach a before after stamp fuel pending ⟨stamps, reading, accepted⟩
    else
      let stamps := stamps.setIfInBounds i stamp
      match a.states[i]? with
      | some (.jump next) => reach a before after stamp fuel (next :: pending) ⟨stamps, reading, accepted⟩
      | some (.look b next) =>
        let pending := if b.holds before after then next :: pending else pending
        reach a before after stamp fuel pending ⟨stamps, reading, accepted⟩
      | some (.choice targets) =>
        reach a before after stamp fuel (targets ++ pending) ⟨stamps, reading, accepted⟩
      | some .accept => reach a before after stamp fuel pending ⟨stamps, reading, true⟩
      | some (.byte _) | some (.branch _) =>
        reach a before after stamp fuel pending ⟨stamps, i :: reading, accepted⟩
      | some .dead | none => reach a before after stamp fuel pending ⟨stamps, reading, accepted⟩

/-- The states to which a state leads by a byte. -/
def step (a : Automaton) (byte : Nat) (i : Nat) : List Nat :=
  match a.states[i]? with
  | some (.byte edge) => if edge.low ≤ byte ∧ byte ≤ edge.high then [edge.next] else []
  | some (.branch edges) => (edges.filter fun e => e.low ≤ byte && byte ≤ e.high).map (·.next)
  | _ => []

/-- Runs on from a place, before which the given character stands, with states that were reached by reading it. -/
def runFrom (a : Automaton) (before : Option Char) (text : List Char) (stamp : Nat) (pending : List Nat)
    (stamps : Array Nat) : Bool :=
  let pending := a.start :: pending
  let reached := a.reach before text.head? stamp (a.memory + pending.length + 1) pending ⟨stamps, [], false⟩
  reached.accepted ||
    match text with
    | [] => false
    | c :: rest =>
      let next := (Bytes.ofChar c).foldl (fun states byte => states.flatMap (a.step byte)) reached.reading
      runFrom a (some c) rest (stamp + 1) next reached.stamps

/-- Whether the automaton matches somewhere in a text. -/
def matchesIn (a : Automaton) (text : String) : Bool :=
  a.runFrom none text.toList 1 [] (Array.replicate a.states.size 0)

variable [PropertyTable]

/-- The automaton of the pattern that is written as a text, if it is one and fits. -/
def ofText? (text : String) : Option Automaton := do ofPattern? (← Pattern.ofText? text)

/-- The automaton of the pattern of a text that has to match a whole text. -/
def anchored? (text : String) : Option Automaton := do ofPattern? (← Pattern.anchored? text)

end Automaton
end GraphQuery
