import GraphQuery.Page.Basic
import GraphQuery.Plan.Basic

/-!
# Positions in results

A position leads from a result down to one of the results nested in it, by result keys and the concrete types of the
nodes gone through (`Related.At`). A level of a plan has a type at every position (`Level.typeAt`), and a result is sound
for such types when each node at each position is admitted for the type there, and so is everything that is counted
there (`Related.Sound`).
-/

namespace GraphQuery

/-! ## Results at positions -/

/-- A way down from a result, from above: the result keys that are followed, and the concrete types of the nodes they are
followed from. -/
abbrev Position := List (String × String)

namespace Related

/-- The nodes of a result. -/
def nodes : Related Node → List Node
  | one node => node.toList
  | many page => page.nodes

/-- The number of nodes before paging, if it was asked for. -/
def totalCount : Related Node → Option Nat
  | one _ => none
  | many page => page.totalCount

/-- The results at the positions of a result. -/
inductive At : Related Node → Position → Related Node → Prop
  | here (result : Related Node) : At result [] result
  | down {result other final : Related Node} {node : Node} {resultKey : String} {rest : Position} :
      node ∈ result.nodes → (resultKey, other) ∈ node.relationships → At other rest final →
      At result ((resultKey, node.typeName) :: rest) final

/-- Everything that a result shows or counts is admitted: its nodes are among different nodes that are, and its total is
the number of these. -/
def Counts (admits : (id : String) → Prop) (result : Related Node) : Prop :=
  ∃ counted : List String, counted.Nodup ∧ (∀ id ∈ counted, admits id) ∧ (∀ node ∈ result.nodes, node.id ∈ counted) ∧
    ∀ n, result.totalCount = some n → n = counted.length

/-- At every position there is a type, and everything shown or counted there is admitted for it. -/
def Sound (admits : (entityType id : String) → Prop) (types : Position → Option String) (result : Related Node) : Prop :=
  ∀ position other, result.At position other →
    ∃ entityType, types position = some entityType ∧ other.Counts (admits entityType)

variable {admits admits' : (entityType id : String) → Prop} {types : Position → Option String} {result : Related Node}

theorem Counts.imp {admits admits' : (id : String) → Prop} (h : result.Counts admits)
    (himp : ∀ id, admits id → admits' id) : result.Counts admits' := by
  obtain ⟨counted, hn, hcounted, hnodes, htotal⟩ := h
  exact ⟨counted, hn, fun id hid => himp id (hcounted id hid), hnodes, htotal⟩

theorem Sound.imp (h : result.Sound admits types) (himp : ∀ entityType id, admits entityType id → admits' entityType id) :
    result.Sound admits' types := by
  intro position other hat
  obtain ⟨entityType, htype, hcounts⟩ := h position other hat
  exact ⟨entityType, htype, hcounts.imp (himp entityType)⟩

/-- Every node of a sound result is admitted for the type at its position. -/
theorem Sound.admitted (h : result.Sound admits types) {position : Position} {other : Related Node}
    (hat : result.At position other) {node : Node} (hnode : node ∈ other.nodes) :
    ∃ entityType, types position = some entityType ∧ admits entityType node.id := by
  obtain ⟨entityType, htype, counted, _, hcounted, hnodes, _⟩ := h position other hat
  exact ⟨entityType, htype, hcounted node.id (hnodes node hnode)⟩

end Related

/-! ## Types of plans -/

namespace Level

/-- The sub-query under a result key for the nodes of a concrete type. -/
def below? (level : Level) (resultKey typeName : String) : Option (SubQuery Level) :=
  (level.part? resultKey).bind fun subs => subs.find? (·.appliesTo typeName)

/-- The entity type at a position of a level. -/
def typeAt : Level → Position → Option String
  | level, [] => some level.entityType
  | level, (resultKey, typeName) :: rest => (level.below? resultKey typeName).bind fun sub => typeAt sub.query rest

/-- A result is sound for a level when what it shows itself is admitted and what is below is sound for the levels
below. -/
theorem sound_of {admits : (entityType id : String) → Prop} {level : Level} {result : Related Node}
    (hcounts : result.Counts (admits level.entityType))
    (hbelow : ∀ node ∈ result.nodes, ∀ entry ∈ node.relationships,
      ∃ sub, level.below? entry.1 node.typeName = some sub ∧ entry.2.Sound admits sub.query.typeAt) :
    result.Sound admits level.typeAt := by
  intro position other hat
  cases hat with
  | here => exact ⟨level.entityType, rfl, hcounts⟩
  | @down _ _ _ node resultKey rest hnode hentry hat =>
    obtain ⟨sub, hsub, hsound⟩ := hbelow node hnode _ hentry
    obtain ⟨entityType, htype, hother⟩ := hsound rest other hat
    refine ⟨entityType, ?_, hother⟩
    rw [typeAt, hsub]
    exact htype

end Level
end GraphQuery
