import GraphQuery.Proofs.Graph.Built
import GraphQuery.Proofs.Schema.Named

/-!
# Typed graphs

A graph is typed by a schema when its nodes were inserted with types of the schema that are not abstract. Every node of
such a graph carries the labels of one type (`Graph.Typed.storedAs`), so a node with the label of a type is stored with
that type or one below it (`Graph.StoredAs.isSubtypeOf`).
-/

namespace GraphQuery

/-- The labels of the nodes of a type are the types that it lies at or below. -/
theorem EntityType.mem_labels {entity : EntityType} {label : String} :
    label ∈ entity.labels ↔ entity.isSubtypeOf label = true := by
  rw [labels, isSubtypeOf, List.mem_cons, Bool.or_eq_true, decide_eq_true_eq, List.contains_iff_mem]
  exact or_congr_left eq_comm

namespace Graph

/-- The graphs whose nodes were inserted with types of a schema that are not abstract. -/
inductive Typed (schema : Schema) : Graph → Prop
  | empty : Typed schema .empty
  | insert {graph changed : Graph} {name : String} {entity : EntityType} (id : String)
      (properties : List (String × Value)) : Typed schema graph → schema.entity name = .ok entity →
      entity.isAbstract = false → graph.insert entity id properties = .ok changed → Typed schema changed
  | addEdge {graph changed : Graph} {source label target : String} :
      Typed schema graph → graph.addEdge source label target = .ok changed → Typed schema changed

/-- A node carries the labels of a type of a schema that is not abstract. -/
structure StoredAs (schema : Schema) (graph : Graph) (id : String) (entity : EntityType) : Prop where
  declared : schema.entity entity.name = .ok entity
  concrete : entity.isAbstract = false
  labels : ∃ node, graph.node? id = some node ∧ node.labels = sortNames entity.labels

variable {schema : Schema} {graph changed : Graph} {id : String} {entity : EntityType}

theorem node?_addNode (graph : Graph) (id other : String) (labels : List String) (properties : List (String × Value)) :
    (graph.addNode id labels properties).node? other =
      if other = id then some ⟨sortNames labels, (Table.ofList properties).insert idProperty (.string id)⟩
      else graph.node? other :=
  Table.lookup_insert ..

/-- An insertion that is not refused stores its node with the labels of the type. -/
theorem labels_of_insert {properties : List (String × Value)} (h : graph.insert entity id properties = .ok changed) :
    ∃ node, changed.node? id = some node ∧ node.labels = sortNames entity.labels := by
  rw [insert_eq_ok h]
  exact ⟨_, by rw [node?_addNode, if_pos rfl], rfl⟩

theorem Typed.built (h : graph.Typed schema) : graph.Built := by
  induction h with
  | empty => exact .empty
  | insert id properties _ _ _ hinsert ih => exact ih.insert hinsert
  | addEdge _ hadd ih => exact ih.addEdge hadd

/-- Every node of a typed graph carries the labels of one type. -/
theorem Typed.storedAs (hnamed : schema.Named) (h : graph.Typed schema) :
    ∀ {id : String}, graph.Stored id → ∃ entity, graph.StoredAs schema id entity := by
  induction h with
  | empty =>
    intro id hs
    cases hs
  | @insert graph changed name entity inserted properties _ hentity hconcrete hinsert ih =>
    intro id hs
    rw [insert_eq_ok hinsert] at hs ⊢
    by_cases hid : id = inserted
    · refine ⟨entity, ?_, hconcrete, _, by rw [node?_addNode, if_pos hid], rfl⟩
      rw [hnamed.entity hentity]
      exact hentity
    · have hold : graph.Stored id := by
        rwa [Stored, node?_addNode, if_neg hid] at hs
      obtain ⟨other, hdeclared, hother, node, hnode, hlabels⟩ := ih hold
      exact ⟨other, hdeclared, hother, node, by rw [node?_addNode, if_neg hid, hnode], hlabels⟩
  | @addEdge graph changed source label target _ hadd ih =>
    intro id hs
    have hnodes : changed.node? id = graph.node? id := by
      rw [node?, node?, addEdge_nodes hadd]
    rw [Stored, hnodes] at hs
    obtain ⟨entity, hdeclared, hconcrete, node, hnode, hlabels⟩ := ih hs
    exact ⟨entity, hdeclared, hconcrete, node, hnodes.trans hnode, hlabels⟩

/-- A node with the label of a type is stored with the type or one below it. -/
theorem StoredAs.isSubtypeOf (h : graph.StoredAs schema id entity) {label : String}
    (hlabel : graph.hasLabel id label = true) : entity.isSubtypeOf label = true := by
  obtain ⟨node, hnode, hlabels⟩ := h.labels
  rw [hasLabel, hnode] at hlabel
  rw [← EntityType.mem_labels, ← mem_sortNames, ← hlabels]
  simpa using hlabel

end Graph
end GraphQuery
