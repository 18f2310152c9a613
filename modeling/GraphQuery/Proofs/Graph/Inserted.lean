import GraphQuery.Proofs.Graph.Typed
import GraphQuery.Proofs.Schema.WellFormed

/-!
# Graphs of inserted nodes

Nodes may be inserted with any type of a schema, abstract ones included (`Graph.Inserted`). Every node of such a graph
then has the labels of the type that it was last inserted with, and nothing but properties that this type admits
(`Graph.Inserted.conforms`). What it has under a property of the type is accepted by the property
(`StoredNode.Conforms.accepts`).
-/

namespace GraphQuery

/-- The identifier is a property of every type. -/
theorem Schema.WellFormed.identifier {decls : List EntityDecl} {schema : Schema} (h : schema.WellFormed decls)
    (hmade : ∀ decl ∈ decls, decl.Made) {name : String} {entity : EntityType}
    (hentity : schema.entity? name = some entity) : entity.property? idProperty = some ⟨idProperty, .id, false⟩ := by
  obtain ⟨decl, hdecl, hname⟩ := (h.types name).mp ⟨entity, hentity⟩
  refine (h.properties name entity hentity).own decl hdecl hname ⟨idProperty, .id, false⟩ ?_
  obtain ⟨_, _, _, _, _, _, rfl⟩ := hmade decl hdecl
  exact List.mem_cons_self

/-- A node has the labels of a type, and properties that the type admits. -/
structure StoredNode.Conforms (entity : EntityType) (node : StoredNode) : Prop where
  labels : node.labels = sortNames entity.labels
  admitted : ∀ entry ∈ node.properties, Graph.checkProperty entity entry.1 entry.2 = .ok ()

namespace Graph

/-- The graphs whose nodes were inserted with types of a schema. -/
inductive Inserted (schema : Schema) : Graph → Prop
  | empty : Inserted schema .empty
  | insert {graph changed : Graph} {name : String} {entity : EntityType} (id : String)
      (properties : List (String × Value)) : Inserted schema graph → schema.entity name = .ok entity →
      graph.insert entity id properties = .ok changed → Inserted schema changed
  | addEdge {graph changed : Graph} {source label target : String} :
      Inserted schema graph → graph.addEdge source label target = .ok changed → Inserted schema changed

theorem checkProperty_eq_ok {entity : EntityType} {name : String} {value : Value} :
    checkProperty entity name value = .ok () ↔ ∃ property, entity.property? name = some property ∧
      property.type.accepts value = true ∧ (value = .null → property.nullable = true) := by
  unfold checkProperty
  cases entity.property? name with
  | none => simp
  | some property => cases value <;> simp [Value.isNull]

variable {schema : Schema} {graph changed : Graph} {id : String}

/-- Properties that a type admits make a node that conforms to it. -/
theorem conforms_of_admitted {entity : EntityType} {properties : List (String × Value)}
    (hidentifier : entity.property? idProperty = some ⟨idProperty, .id, false⟩)
    (h : ∀ entry ∈ properties, checkProperty entity entry.1 entry.2 = .ok ()) :
    StoredNode.Conforms entity
      ⟨sortNames entity.labels, (Table.ofList properties).insert idProperty (.string id)⟩ := by
  refine ⟨rfl, fun entry hentry => ?_⟩
  rcases Table.mem_insert hentry with rfl | hentry
  · exact checkProperty_eq_ok.mpr ⟨_, hidentifier, rfl, nofun⟩
  · exact h entry (Table.mem_ofList hentry)

/-- What is inserted conforms to its type. -/
theorem conforms_of_insert {entity : EntityType} {properties : List (String × Value)}
    (hidentifier : entity.property? idProperty = some ⟨idProperty, .id, false⟩)
    (h : graph.insert entity id properties = .ok changed) :
    StoredNode.Conforms entity
      ⟨sortNames entity.labels, (Table.ofList properties).insert idProperty (.string id)⟩ := by
  obtain ⟨⟨⟩, hchecked, _⟩ := Result.bind_eq_ok.mp h
  exact conforms_of_admitted hidentifier (Result.forM_eq_ok.mp hchecked)

/-- Every node of a graph of inserted nodes conforms to some type. -/
theorem Inserted.conforms (hnamed : schema.Named)
    (hidentifier : ∀ name entity, schema.entity? name = some entity →
      entity.property? idProperty = some ⟨idProperty, .id, false⟩) (h : graph.Inserted schema) :
    ∀ {id : String} {node : StoredNode}, graph.node? id = some node →
      ∃ entity, schema.entity? entity.name = some entity ∧ node.Conforms entity := by
  induction h with
  | empty =>
    intro id node hnode
    cases hnode
  | @insert graph changed name entity inserted properties _ hentity hinsert ih =>
    intro id node hnode
    rw [insert_eq_ok hinsert, node?_addNode] at hnode
    split at hnode
    · cases hnode
      exact ⟨entity, hnamed.stands hentity,
        conforms_of_insert (hidentifier name entity (Schema.entity_eq_ok.mp hentity)) hinsert⟩
    · exact ih hnode
  | @addEdge graph changed source label target _ hadd ih =>
    intro id node hnode
    rw [node?, addEdge_nodes hadd] at hnode
    exact ih hnode

end Graph

namespace StoredNode.Conforms

variable {entity : EntityType} {node : StoredNode}

/-- A node that conforms to a type has only labels of types at or above it. -/
theorem isSubtypeOf (h : node.Conforms entity) {label : String} (hlabel : label ∈ node.labels) :
    entity.isSubtypeOf label = true := by
  rwa [h.labels, mem_sortNames, EntityType.mem_labels] at hlabel

/-- What a node has under a name is null or accepted by the property of that name. -/
theorem accepts {graph : Graph} {id name : String} (h : node.Conforms entity) (hnode : graph.node? id = some node)
    (hvalue : graph.value id name ≠ .null) :
    ∃ property, entity.property? name = some property ∧ property.type.accepts (graph.value id name) = true := by
  simp only [Graph.value, hnode] at hvalue ⊢
  cases hlookup : List.lookup name node.properties with
  | none =>
    rw [hlookup] at hvalue
    exact absurd rfl hvalue
  | some value =>
    obtain ⟨property, hproperty, haccepts, _⟩ :=
      Graph.checkProperty_eq_ok.mp (h.admitted _ (Table.mem_of_lookup hlookup))
    rw [Option.getD_some]
    exact ⟨property, hproperty, haccepts⟩

end StoredNode.Conforms
end GraphQuery
