import GraphQuery.Graph.Truth
import GraphQuery.Proofs.Result
import GraphQuery.Proofs.Table

/-!
# Graphs built by changes

A graph that changes lead to from the empty one (`Graph.Built`) has its nodes sorted by identifier, and every node has
its identifier as a property (`Graph.Built.wellFormed`). Labels and edges lead to stored nodes only, each once, and
reading from a stored node never fails: `Evaluation.operand_eq` gives the value that a sort key reads.
-/

namespace GraphQuery
namespace Graph

/-- The graphs that changes lead to from the empty one. -/
inductive Built : Graph → Prop
  | empty : Built .empty
  | addNode {graph : Graph} (id : String) (labels : List String) (properties : List (String × Value)) :
      Built graph → Built (graph.addNode id labels properties)
  | addEdge {graph changed : Graph} {source label target : String} :
      Built graph → graph.addEdge source label target = .ok changed → Built changed

/-- An insertion that is not refused adds the node with the labels of its type. -/
theorem insert_eq_ok {graph changed : Graph} {entity : EntityType} {id : String} {properties : List (String × Value)}
    (h : graph.insert entity id properties = .ok changed) : changed = graph.addNode id entity.labels properties := by
  obtain ⟨_, _, h⟩ := Result.bind_eq_ok.mp h
  cases h
  rfl

theorem Built.insert {graph changed : Graph} {entity : EntityType} {id : String} {properties : List (String × Value)}
    (h : Built graph) (hi : graph.insert entity id properties = .ok changed) : Built changed := by
  rw [insert_eq_ok hi]
  exact .addNode _ _ _ h

/-- Nodes are sorted by identifier, and carry it as a property. -/
structure WellFormed (graph : Graph) : Prop where
  sorted : Table.Sorted graph.nodes
  identified : ∀ id node, graph.node? id = some node → List.lookup idProperty node.properties = some (.string id)

theorem WellFormed.addNode {graph : Graph} (h : WellFormed graph) (id : String) (labels : List String)
    (properties : List (String × Value)) : WellFormed (graph.addNode id labels properties) where
  sorted := Table.sorted_insert h.sorted _ _
  identified other node hnode := by
    rw [node?, Graph.addNode, Table.lookup_insert] at hnode
    split at hnode
    · rename_i heq
      cases hnode
      rw [Table.lookup_insert, if_pos rfl, heq]
    · exact h.identified other node hnode

/-- An edge changes no node. -/
theorem addEdge_nodes {graph changed : Graph} {source label target : String}
    (h : graph.addEdge source label target = .ok changed) : changed.nodes = graph.nodes := by
  obtain ⟨_, _, h⟩ := Result.bind_eq_ok.mp h
  obtain ⟨_, _, h⟩ := Result.bind_eq_ok.mp h
  cases h
  rfl

theorem Built.wellFormed {graph : Graph} (h : Built graph) : WellFormed graph := by
  induction h with
  | empty => exact ⟨.nil, nofun⟩
  | addNode id labels properties _ ih => exact ih.addNode id labels properties
  | addEdge _ he ih =>
    have hnodes := addEdge_nodes he
    refine ⟨hnodes ▸ ih.sorted, fun id node hnode => ih.identified id node ?_⟩
    rwa [node?, hnodes] at hnode

/-! ## Stored nodes -/

/-- Whether there is a node of an identifier. -/
def Stored (graph : Graph) (id : String) : Prop := (graph.node? id).isSome = true

section Reading

variable {graph : Graph} {id other label name : String}

theorem node_eq_ok {node : StoredNode} : graph.node id = .ok node ↔ graph.node? id = some node := by
  unfold Graph.node
  cases graph.node? id <;> simp

theorem Stored.node (h : graph.Stored id) : ∃ node, graph.node? id = some node := Option.isSome_iff_exists.mp h

theorem stored_of_hasLabel (h : graph.hasLabel id label = true) : graph.Stored id := by
  unfold hasLabel at h
  unfold Stored
  split at h
  · rename_i hn
    simp [hn]
  · cases h

theorem stored_of_mem_neighbours {direction : Direction} {target : String}
    (h : other ∈ graph.neighbours id label direction target) : graph.Stored other :=
  stored_of_hasLabel (mem_neighbours.mp h).2

theorem nodup_neighbours {direction : Direction} {target : String} :
    (graph.neighbours id label direction target).Nodup :=
  nodup_sortNames _

theorem hasLabel_of_mem_labelled (hg : graph.WellFormed) (h : id ∈ graph.labelled label) :
    graph.hasLabel id label = true := by
  obtain ⟨node, hmem, hlabel⟩ := mem_labelled.mp h
  simp [hasLabel, node?, (Table.lookup_eq_some_iff hg.sorted).mpr hmem, hlabel]

theorem stored_of_mem_labelled (hg : graph.WellFormed) (h : id ∈ graph.labelled label) : graph.Stored id :=
  stored_of_hasLabel (hasLabel_of_mem_labelled hg h)

theorem nodup_labelled (hg : graph.WellFormed) : (graph.labelled label).Nodup :=
  hg.sorted.nodup_names.sublist (List.filter_sublist.map _)

/-- The property of a node; an absent one is null. -/
def value (graph : Graph) (id name : String) : Value :=
  match graph.node? id with
  | some node => (List.lookup name node.properties).getD .null
  | none => .null

theorem value_id (hg : graph.WellFormed) (h : graph.Stored id) : graph.value id idProperty = .string id := by
  obtain ⟨node, hnode⟩ := h.node
  simp [value, hnode, hg.identified id node hnode]

end Reading

end Graph

/-- The value that a sort key reads from a node. -/
def OrderPath.value (graph : Graph) (id : String) : OrderPath → Value
  | property name => graph.value id name
  | related relationship name =>
    match graph.reached id relationship.step with
    | other :: _ => graph.value other name
    | [] => .null

namespace Evaluation

variable [PropertyTable] {e : Evaluation} {scope : Scope} {var id name : String}

omit [PropertyTable] in
@[simp] theorem bound_cons : bound ((var, id) :: scope) var = .ok id := by
  simp [bound]

theorem property_eq (h : e.graph.Stored id) : e.property id name = .ok (e.graph.value id name) := by
  obtain ⟨node, hnode⟩ := h.node
  simp [property, Graph.node_eq_ok.mpr hnode, Graph.value, hnode]

/-- Reading a sort key from a stored node succeeds. -/
theorem operand_eq (h : e.graph.Stored id) (path : OrderPath) :
    e.operand ((var, id) :: scope) (path.operand var) = .ok (path.value e.graph id) := by
  cases path with
  | property name => simp [OrderPath.operand, operand, OrderPath.value, property_eq h]
  | related relationship name =>
    simp only [OrderPath.operand, operand, OrderPath.value, bound_cons, Result.ok_bind]
    cases hr : e.graph.reached id relationship.step with
    | nil => rfl
    | cons other rest =>
      have hmem : other ∈ e.graph.reached id relationship.step := hr ▸ List.mem_cons_self
      exact property_eq (Graph.stored_of_mem_neighbours hmem)

end Evaluation

end GraphQuery
