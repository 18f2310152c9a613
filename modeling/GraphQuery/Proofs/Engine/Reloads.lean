import GraphQuery.Proofs.Engine.Coherence
import GraphQuery.Proofs.Plan.Wanted

/-!
# Loads give what was attached

A connection attaches to its nodes what it finds below them. A load of the same field of such a node, in a new request,
asks the graph again and starts from the node. Both are planned alike (`Planner.below_field`) and show the same
(`Level.Planned.shows_load`), so the load gives what the connection attached (`Engine.load_of_serve`).
-/

namespace GraphQuery

section Loading

variable {planner : Planner} {graph : Graph} {asks : Asking} {request : Nat}

/-- The plan of a load shows what is attached to the node under the result key, when the level of the node has the same
planned for it there. -/
theorem Level.Planned.shows_load [PropertyTable] (hnamed : planner.schema.Named) {level query : Level}
    (hlevel : level.Planned planner graph asks) {node : Node}
    (hattaches : level.Attaches planner.schema graph request node) {relationship : RelationshipDef} {field : Field}
    (hbelow : level.below? field.resultKey node.typeName = some ⟨relationship, query, none⟩)
    (hload : planner.relationship node.typeName (.string node.id) field =
      .ok ⟨query, some ⟨node.typeName, .string node.id, relationship⟩⟩) :
    ∃ attached, node.relationship? field.resultKey = some attached ∧
      Plan.Shows planner graph asks request ⟨query, some ⟨node.typeName, .string node.id, relationship⟩⟩ attached := by
  obtain ⟨attached, hattached, ⟨branch, hbranch, hsub⟩, hshown⟩ := hattaches.attached hbelow
  have hquery := hlevel.below hbranch
  rw [hsub] at hquery
  exact ⟨attached, hattached, hquery, Planner.compiles_relationship hnamed hload hquery.compilable, _,
    Plan.candidates_anchored rfl hattaches.typed, hshown⟩

end Loading

namespace Engine

section Reloading

variable {engine : Engine} {permission : Option Permission} {session fresh : Session} {decls : List EntityDecl}
  {calls : List Call} {entityType : String} {field : Field} {result other : Related Node} {position : Position}
  {node : Node}

/-- Whatever a connection attaches to a node at any position, under the result key of the only field there that is wanted
under it, a load of that field of the node gives in a new request. -/
theorem load_of_serve [PropertyTable] (hschema : Schema.build decls = .ok engine.schema)
    (hgraph : session.store.graph.Built) (hloads : engine.LoadsShown session.requests.length calls
    (session.openRequest permission)) (hkeys : (asked (engine.planner permission) session.store.graph calls).Distinct)
    (hanswer : (.connection entityType field, .ok result) ∈
      (engine.serve session.requests.length calls (session.openRequest permission)).1)
    (hat : result.At position other) (hnode : node ∈ other.nodes)
    (hfresh : fresh.store.graph = session.store.graph) (houtage : fresh.store.outage = none) :
    ∃ entity inner fields, engine.schema.entity entityType = .ok entity ∧
      (engine.planner permission).wantedAt entity (Field.nodeSelection [field] .many) position =
        .ok (some (inner, fields)) ∧
      ∀ wanted relationship concrete, wanted.typeCondition = none →
        fields.filter (·.resultKey = wanted.resultKey) = [wanted] →
        inner.relationship? wanted.name = some relationship →
        engine.schema.entity node.typeName = .ok concrete →
        concrete.relationship? wanted.name = some relationship →
          ∃ attached after, node.relationship? wanted.resultKey = some attached ∧
            engine.load fresh.requests.length (node.movedTo fresh.requests.length) wanted (fresh.openRequest permission) =
              .ok (attached.movedTo fresh.requests.length) after := by
  have hnamed := Schema.named_of_build hschema
  have hg := hgraph.wellFormed
  obtain ⟨plan, hplan, hshows⟩ := shows_of_serve hschema hgraph hloads hkeys hanswer
  obtain ⟨entity, root, _, hentity, _, hroot, rfl⟩ := Planner.connection_eq_ok hplan
  obtain ⟨level, among, hlevel, hplanned, _, hother⟩ := hshows.level_at hnamed hg hat
  obtain ⟨less, inner, fields, _, _, hless, hwanted, hmade⟩ := Planner.level_at hroot hlevel
  refine ⟨entity, inner, fields, hentity, hwanted, fun wanted relationship concrete hcondition honly hrelationship
    hconcrete hdeclared => ?_⟩
  obtain ⟨query, hbelow, hload⟩ :=
    Planner.below_field hmade hless honly hcondition hrelationship hconcrete hdeclared (.string node.id)
  rw [hnamed.entity hconcrete] at hload
  obtain ⟨_, hmakes⟩ := hplanned.makes
  obtain ⟨_, hattaches⟩ := Level.attaches_of_shown hnamed hmakes.heads.sorted hother node hnode
  obtain ⟨attached, hattached, hagain⟩ := hplanned.shows_load hnamed hattaches hbelow hload
  have hcall : Call.plan (engine.planner permission) (.load node wanted) = .ok _ := hload
  obtain ⟨after, hafter⟩ := answer_openRequest hnamed hg (single_asked hkeys) hcall hagain hfresh houtage
  exact ⟨attached, after, hattached, hafter⟩

end Reloading

/-- A field that asks for nodes and those next to them. -/
def nextOfNodes : Field := ⟨"as", none, [], none, [⟨"nodes", none, [], none, [nextField]⟩]⟩

/-- A call for the nodes of the type and those next to them. -/
def nextCall : Call := .connection "A" nextOfNodes

/-- All that the call asks is what is next to a node. -/
theorem nextCall_distinct :
    (asked (ownedEngine.planner (some owner)) ownedSession.store.graph [nextCall]).Distinct := by
  obtain ⟨plan, branch, hplan, hfree, hbranches, hparts⟩ : ∃ plan branch,
      nextCall.plan (ownedEngine.planner (some owner)) = .ok plan ∧ plan.anchor = none ∧ plan.root.branches = [branch] ∧
        branch.sub.query.parts = [] := ⟨_, _, rfl, rfl, rfl, rfl⟩
  exact distinct_of_branch hplan hfree hbranches hparts

/-- The owner of the first node sees it next to itself, in the connection as in a new request. -/
theorem load_of_serve_next : ∃ (result attached : Related Node) (node : Node) (after : Session),
    (nextCall, .ok result) ∈ (ownedEngine.serve 0 [nextCall] (ownedSession.openRequest (some owner))).1 ∧
    result.nodes = [node] ∧ node.relationship? "next" = some attached ∧
    attached.nodes.map (·.id) = ["a"] ∧
    ownedEngine.load 1 (node.movedTo 1) nextField ((ownedSession.openRequest none).openRequest (some owner)) =
      .ok (attached.movedTo 1) after := by
  obtain ⟨result, middle, node, shown, hanswer, hnodes, htype, hshown, hids⟩ : ∃ result middle node shown,
      ownedEngine.answer 0 nextCall (ownedSession.openRequest (some owner)) = .ok result middle ∧
        result.nodes = [node] ∧ node.typeName = "A" ∧ node.relationship? "next" = some shown ∧
        shown.nodes.map (·.id) = ["a"] := ⟨_, _, _, _, rfl, rfl, rfl, rfl, rfl⟩
  have hmem : (nextCall, .ok result) ∈
      (ownedEngine.serve 0 [nextCall] (ownedSession.openRequest (some owner))).1 := mem_serve hanswer
  have hloads : ownedEngine.LoadsShown 0 [nextCall] (ownedSession.openRequest (some owner)) := loadsShown_single nofun
  obtain ⟨entity, inner, fields, hentity, hwanted, hagain⟩ :=
    load_of_serve (rfl : Schema.build [ownedDecl] = .ok ownedEngine.schema) ownedSession_built hloads nextCall_distinct
      hmem (.here result) (hnodes ▸ List.mem_cons_self : node ∈ result.nodes)
      (rfl : (ownedSession.openRequest none).store.graph = ownedSession.store.graph) rfl
  cases hwanted
  rw [htype] at hagain
  obtain ⟨attached, after, hattached, hload⟩ := hagain nextField nextOwned entity rfl rfl
    (by cases hentity; rfl) hentity (by cases hentity; rfl)
  have hsame : node.relationship? "next" = some attached := hattached
  rw [hshown] at hsame
  cases hsame
  exact ⟨result, shown, node, after, hmem, hnodes, hshown, hids, hload⟩

end Engine

end GraphQuery
