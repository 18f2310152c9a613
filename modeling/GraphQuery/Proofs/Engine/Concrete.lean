import GraphQuery.Proofs.Engine.Coherence
import GraphQuery.Proofs.Engine.Supertypes
import GraphQuery.Proofs.Page.Resolved
import GraphQuery.Proofs.Schema.Concrete

/-!
# Nodes are shown with the type they were inserted with

Whatever the calls of a request are and whatever its caches hold, its answers show every node with the type that the
labels of the stored node resolve to (`Engine.resolved_of_serve`). The labels of a type that is not abstract resolve to
that type, so a node that was inserted with it is shown with it (`Engine.typeName_of_inserted`).
-/

namespace GraphQuery

theorem ResultCache.resolved_entrywise (schema : Schema) (graph : Graph) :
    ResultCache.Entrywise (ResultCache.Resolved schema graph)
      fun _ _ _ result => result.Throughout (Node.Resolved schema graph) :=
  ⟨fun _ h => h, fun _ _ _ _ h hnode => RequestCache.All.set h hnode⟩

/-- A row of the node of an insertion has the type that it was inserted with. -/
theorem Row.Faithful.concreteType {schema : Schema} {graph earlier changed : Graph} {entity : EntityType} {row : Row}
    {properties : List (String × Value)} (h : row.Faithful graph)
    (hinsert : earlier.insert entity row.id properties = .ok changed) (hsame : graph.node? row.id = changed.node? row.id)
    (hresolves : schema.concreteType? (sortNames entity.labels) = some entity) :
    row.concreteType schema = .ok entity := by
  cases h with
  | mk hstored hlabels _ =>
    obtain ⟨node, hnode, htype⟩ := Graph.labels_of_insert hinsert
    cases hstored.symm.trans (hsame.trans hnode)
    rw [Row.concreteType, hlabels, htype, hresolves]

namespace Engine

variable {engine : Engine} {graph : Graph} {permission : Option Permission} {request : Nat}

section

variable [PropertyTable]

/-- A call keeps the caches resolved, and so is its answer. -/
theorem keeps_resolved (hnamed : engine.schema.Named) {call : Call} (hcall : call.Within request) :
    Run.Keeps (Session.Holds graph permission request (ResultCache.Resolved engine.schema graph))
      (·.Throughout (Node.Resolved engine.schema graph)) (engine.answer request call) := by
  refine (keeps_answer_of (P := fun _ result => result.Throughout (Node.Resolved engine.schema graph)) hnamed
    (ResultCache.resolved_entrywise engine.schema graph) hcall (fun plan _ _ => ?_)
    fun node field plan relationship _ _ _ => ⟨?_, fun _ h => h⟩).imp fun result hresult => ?_
  · exact keeps_execute_of fun statement answer _ hrun => (assembles_resolved engine.schema graph).keeps_page
      (Evaluation.faithful_run hrun) plan.root statement.root
  · exact keeps_execute_of fun statement answer _ hrun => (assembles_resolved engine.schema graph).keeps_related
      (Evaluation.faithful_run hrun) plan.root statement.root
  · obtain ⟨_, _, hresolved⟩ := hresult
    exact hresolved

/-- The answers of a request show every node with the type that its labels resolve to. -/
theorem resolved_of_serve (hnamed : engine.schema.Named) {session : Session} {calls : List Call}
    (hcalls : ∀ call ∈ calls, call.Within session.requests.length) {call : Call} {result : Related Node}
    (h : (call, .ok result) ∈ (engine.serve session.requests.length calls (session.openRequest permission)).1) :
    result.Throughout (Node.Resolved engine.schema session.store.graph) :=
  forall_serve (session.holds_openRequest permission (RequestCache.all_empty _))
    (fun call hcall => keeps_resolved hnamed (hcalls call hcall)) call result h

/-- In a built schema the labels of a type that is not abstract, in any order and however often they stand, resolve to
the type. So does every row of a node that is stored as inserting it with the type left it, and every answer to the calls
of a request shows the node with the type. -/
theorem typeName_of_inserted {decls : List EntityDecl} (hschema : Schema.build decls = .ok engine.schema) {name : String}
    {entity : EntityType} (hentity : engine.schema.entity? name = some entity) (hconcrete : entity.isAbstract = false) :
    (∀ labels : List String, (∀ label, label ∈ labels ↔ label ∈ entity.labels) →
      engine.schema.concreteType? labels = some entity) ∧
    ∀ (session : Session) (earlier changed : Graph) (id : String) (properties : List (String × Value)),
      earlier.insert entity id properties = .ok changed → session.store.graph.node? id = changed.node? id →
        (∀ row : Row, row.Faithful session.store.graph → row.id = id → row.concreteType engine.schema = .ok entity) ∧
        ∀ (permission : Option Permission) (calls : List Call), (∀ call ∈ calls, call.Within session.requests.length) →
          ∀ call result, (call, .ok result) ∈
              (engine.serve session.requests.length calls (session.openRequest permission)).1 →
            ∀ node, result.Contains node → node.id = id → node.typeName = entity.name := by
  obtain ⟨table, hflattens⟩ := Schema.flattens_of_build hschema
  have hlabels : ∀ labels : List String, (∀ label, label ∈ labels ↔ label ∈ entity.labels) →
      engine.schema.concreteType? labels = some entity :=
    fun labels => hflattens.concreteType?_labels hentity hconcrete
  have hsorted : engine.schema.concreteType? (sortNames entity.labels) = some entity := hlabels _ fun _ => mem_sortNames
  refine ⟨hlabels, fun session earlier changed id properties hinsert hsame => ⟨?_, ?_⟩⟩
  · rintro row hrow rfl
    exact hrow.concreteType hinsert hsame hsorted
  · rintro permission calls hcalls call result hanswer node ⟨position, other, hat, hnode⟩ rfl
    obtain ⟨stored, type, hstored, htype, hname⟩ :=
      resolved_of_serve hflattens.named hcalls hanswer position other hat node hnode
    obtain ⟨inserted, hinserted, hinsertedLabels⟩ := Graph.labels_of_insert hinsert
    cases hstored.symm.trans (hsame.trans hinserted)
    rw [hinsertedLabels, hsorted] at htype
    cases htype
    exact hname

end

/-- The secret dog is shown as a dog among the animals. -/
theorem typeName_of_inserted_dog : kennel.schema.concreteType? ["Animal", "Dog", "Animal"] = some dog ∧
    ∃ result node, (allAnimals, .ok result) ∈ (kennel.serve 0 [allAnimals] (kennelSession.openRequest (some reader))).1 ∧
      result.Contains node ∧ node.id = "d1" ∧ node.typeName = "Dog" := by
  obtain ⟨hlabels, hinserted⟩ := typeName_of_inserted (rfl : Schema.build [animalDecl, dogDecl] = .ok kennel.schema)
    (rfl : kennel.schema.entity? "Dog" = some dog) rfl
  have hcalls : ∀ call ∈ [allAnimals], call.Within kennelSession.requests.length :=
    List.forall_mem_singleton.mpr trivial
  obtain ⟨result, node, hmem, hnodes, hid⟩ : ∃ result node,
      (allAnimals, .ok result) ∈ (kennel.serve 0 [allAnimals] (kennelSession.openRequest (some reader))).1 ∧
        result.nodes = [node] ∧ node.id = "d1" := ⟨_, _, List.mem_cons_self, rfl, rfl⟩
  have hcontains : result.Contains node := ⟨[], result, .here result, by simp [hnodes]⟩
  obtain ⟨_, hshown⟩ := hinserted kennelSession .empty kennelSession.store.graph "d1" [("kind", .string "secret")] rfl rfl
  refine ⟨hlabels _ fun label => ?_, result, node, hmem, hcontains, hid,
    hshown (some reader) [allAnimals] hcalls allAnimals result hmem node hcontains hid⟩
  simp only [dog, EntityType.labels, List.mem_cons, List.not_mem_nil, or_false]
  tauto

end Engine
end GraphQuery
