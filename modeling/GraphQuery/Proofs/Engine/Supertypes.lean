import GraphQuery.Proofs.Authorization.Grants
import GraphQuery.Proofs.Engine.Calls
import GraphQuery.Proofs.Graph.Typed

/-!
# Authorization below the type of a level

A level is authorized by its own type: a node shown there is stored with that type or one below it, and passes the
filter that the permission demands of the type of the level (`Engine.authorized_of_serve`). What the permission demands
only of the type that the node is stored with is not asked of it there (`Engine.hidden_dog_shown`).
-/

namespace GraphQuery

/-- What the rules that forbid access to a type say of a node that a permission grants. -/
theorem Access.Grants.fails [PropertyTable] {access : Access} {schema : Schema} {graph : Graph}
    {permission : Permission} {entity : EntityType} {id : String} {visits : Nat}
    (h : access.Grants schema graph permission visits entity id) {authorization : Authorization}
    (hdeclared : entity.authorization? permission.name = some authorization) : ∀ rule ∈ authorization.disallow,
    access.rules.Stands entity permission (·.Fails graph id) rule := by
  cases visits with
  | zero => exact h.elim
  | succ visits =>
    obtain ⟨own, hown, _, hfails⟩ := h
    rw [hdeclared] at hown
    cases hown
    exact hfails

namespace Engine

/-- A node shown at a position is stored with the type there or one below it, and passes the filter that the permission
demands of the type there. The rules that forbid access to the type there, its own and those of its supertypes, are
definitely false of it. -/
theorem authorized_of_serve [PropertyTable] {engine : Engine} {decls : List EntityDecl} {permission : Permission}
    {session : Session} {calls : List Call} {call : Call} {result : Related Node}
    (hschema : Schema.build decls = .ok engine.schema) (hgraph : session.store.graph.Typed engine.schema)
    (hcalls : ∀ call ∈ calls, call.Within session.requests.length)
    (hkeys : (asked (engine.planner (some permission)) session.store.graph calls).Unambiguous)
    (hanswer : (call, .ok result) ∈
      (engine.serve session.requests.length calls (session.openRequest (some permission))).1) :
    ∃ plan, call.plan (engine.planner (some permission)) = .ok plan ∧
      ∀ position other, result.At position other → ∀ node ∈ other.nodes,
        ∃ entityType entity concrete filter, plan.root.typeAt position = some entityType ∧
          engine.schema.entity entityType = .ok entity ∧
          session.store.graph.StoredAs engine.schema node.id concrete ∧ concrete.isSubtypeOf entityType = true ∧
          engine.access.filter engine.schema entity permission = .ok filter ∧
          filter.Holds session.store.graph node.id ∧
          ∀ authorization, entity.authorization? permission.name = some authorization →
            ∀ rule ∈ authorization.disallow,
              engine.access.rules.Stands entity permission (·.Fails session.store.graph node.id) rule := by
  obtain ⟨plan, hplan, hsound⟩ := sound_of_serve hschema hgraph.built hcalls hkeys hanswer
  refine ⟨plan, hplan, fun position other hat node hnode => ?_⟩
  obtain ⟨entityType, htype, hlabel, entity, filter, hentity, hfilter, hholds⟩ := hsound.admitted hat hnode
  have hstored : session.store.graph.Stored node.id := Graph.stored_of_hasLabel hlabel
  obtain ⟨concrete, hconcrete⟩ := hgraph.storedAs (Schema.named_of_build hschema) hstored
  refine ⟨entityType, entity, concrete, filter, htype, hentity, hconcrete, hconcrete.isSubtypeOf hlabel, hfilter, hholds,
    fun authorization hdeclared => ?_⟩
  exact (Access.grants_of_holds hfilter hholds).fails hdeclared

/-! ## Dogs among animals -/

/-- Animals are readable without a rule. -/
def animalDecl : EntityDecl :=
  .declare "Animal" false [⟨"kind", .string, true⟩] [] [] [⟨"read", [], [], [], true⟩]

/-- Dogs are animals, and some of them are hidden. -/
def dogDecl : EntityDecl := .declare "Dog" false [] [] ["Animal"] [⟨"read", [], [], [⟨"hidden", []⟩], false⟩]

/-- The type of dogs, with what they have from animals. -/
def dog : EntityType := ⟨"Dog", false, [⟨"id", .id, false⟩, ⟨"kind", .string, true⟩], [], ["Animal"],
  [("read", ⟨[], [], [⟨"hidden", []⟩], true⟩)]⟩

/-- An engine over animals and dogs; secret ones are hidden. -/
def kennel : Engine where
  schema := ⟨[("Animal", ⟨"Animal", false, [⟨"id", .id, false⟩, ⟨"kind", .string, true⟩], [], [],
    [("read", ⟨[], [], [], true⟩)]⟩), ("Dog", dog)]⟩
  access := ⟨RuleRegistry.empty.register "hidden" fun _ => .ok (.property "kind" (.eq (.string "secret"))),
    Access.defaultMaxHops⟩
  budget := .default

/-- A secret dog. -/
def kennelSession : Session := ⟨⟨Graph.empty.addNode "d1" dog.labels [("kind", .string "secret")], 0, none⟩, []⟩

/-- The permission to read. -/
def reader : Permission := ⟨"read", []⟩

/-- All animals. -/
def allAnimals : Call := .connection "Animal" (.named "animals")

theorem kennel_typed : kennelSession.store.graph.Typed kennel.schema :=
  .insert "d1" [("kind", .string "secret")] .empty (rfl : kennel.schema.entity "Dog" = .ok dog) rfl rfl

/-- The secret dog passes what is demanded of animals, as all that are shown among them do. -/
theorem authorized_of_serve_animals : ∃ (result : Related Node) (node : Node) (entity : EntityType) (filter : Filter),
    (allAnimals, .ok result) ∈ (kennel.serve 0 [allAnimals] (kennelSession.openRequest (some reader))).1 ∧
      result.nodes = [node] ∧ kennel.schema.entity "Animal" = .ok entity ∧
      kennel.access.filter kennel.schema entity reader = .ok filter ∧
      filter.Holds kennelSession.store.graph node.id := by
  have hcalls : ∀ call ∈ [allAnimals], call.Within kennelSession.requests.length :=
    List.forall_mem_singleton.mpr trivial
  obtain ⟨plan, hplan, hanchor, hbranches, htypeAt⟩ : ∃ plan, allAnimals.plan (kennel.planner (some reader)) = .ok plan ∧
      plan.anchor = none ∧ plan.root.branches = [] ∧ plan.root.typeAt [] = some "Animal" := ⟨_, rfl, rfl, rfl, rfl⟩
  obtain ⟨result, node, hmem, hnodes⟩ : ∃ result node,
      (allAnimals, .ok result) ∈ (kennel.serve 0 [allAnimals] (kennelSession.openRequest (some reader))).1 ∧
        result.nodes = [node] := ⟨_, _, List.mem_cons_self, rfl⟩
  -- the call asks for no relationship
  have hkeys : (asked (kennel.planner (some reader)) kennelSession.store.graph [allAnimals]).Unambiguous := by
    intro typeName id relationship query _ _ hasks
    obtain ⟨branch, hbranch, _⟩ := asked_single hplan hanchor (by rw [hbranches]; exact nofun) hasks
    rw [hbranches] at hbranch
    cases hbranch
  obtain ⟨own, hown, hauthorized⟩ := authorized_of_serve
    (rfl : Schema.build [animalDecl, dogDecl] = .ok kennel.schema) kennel_typed hcalls hkeys hmem
  rw [hplan] at hown
  cases hown
  obtain ⟨entityType, entity, _, filter, htype, hentity, _, _, hfilter, hholds, _⟩ :=
    hauthorized [] result (.here result) node (by simp [hnodes])
  rw [htypeAt] at htype
  cases htype
  exact ⟨result, node, entity, filter, hmem, hnodes, hentity, hfilter, hholds⟩

/-- The secret dog is shown among the animals, though the filter that is demanded of dogs is false of it. -/
theorem hidden_dog_shown : ∃ (result : Related Node) (node : Node) (filter : Filter),
    Schema.build [animalDecl, dogDecl] = .ok kennel.schema ∧ kennelSession.store.graph.Typed kennel.schema ∧
      (allAnimals, .ok result) ∈ (kennel.serve 0 [allAnimals] (kennelSession.openRequest (some reader))).1 ∧
      node ∈ result.nodes ∧ kennelSession.store.graph.StoredAs kennel.schema node.id dog ∧
      kennel.access.filter kennel.schema dog reader = .ok filter ∧
      ¬ filter.Holds kennelSession.store.graph node.id := by
  refine ⟨_, _, _, rfl, kennel_typed, List.mem_cons_self, List.mem_cons_self, ⟨rfl, rfl, _, rfl, rfl⟩, rfl, ?_⟩
  intro h
  have hfails : Except.ok (some false) = Except.ok (some true) := h
  cases hfails

end Engine

end GraphQuery
