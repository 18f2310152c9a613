import GraphQuery.Proofs.Engine.Coherence
import GraphQuery.Proofs.Page.Issued

/-!
# Cursors of a request

Every page that a request hands out is issued under the order it was asked for (`Engine.issued_of_serve`): a query or a
connection gives a page under the order of its options, whatever the caches of the request hold, and the pages nested in
it are issued under the orders of their levels, when the keys of the caches tell apart what is asked of a node.
-/

namespace GraphQuery

/-- Nothing is said of the entries of a cache. -/
theorem ResultCache.true_entrywise : ResultCache.Entrywise (fun _ => True) fun _ _ _ _ => True :=
  ⟨fun _ _ _ _ _ _ _ => trivial, fun _ _ _ _ _ _ => trivial⟩

/-- Only loads start from a node. -/
theorem Call.anchor_of_plan [PropertyTable] {planner : Planner} {plan : Plan} {call : Call}
    (h : call.plan planner = .ok plan) (hnoload : ∀ node field, call ≠ .load node field) : plan.anchor = none := by
  cases call with
  | query entityType selection options checked => exact Planner.anchor_of_query h
  | connection entityType field => exact Planner.anchor_of_connection h
  | load node field => exact absurd rfl (hnoload node field)

namespace Engine

variable {engine : Engine} {graph : Graph} {permission : Option Permission} {request : Nat}

/-- The page of a query or a connection is issued under the order of its plan. -/
theorem keeps_issued [PropertyTable] (hnamed : engine.schema.Named) (hg : graph.WellFormed) {call : Call}
    (hcall : call.Within request) : Run.Keeps (Session.Holds graph permission request fun _ => True)
      (fun result => ∃ plan, call.plan (engine.planner permission) = .ok plan ∧
        (plan.anchor = none → ∀ page, result = .many page → page.Issued graph plan.root.options.order))
      (engine.answer request call) := by
  refine keeps_answer_of hnamed ResultCache.true_entrywise hcall (fun plan hplan _ => ?_)
    fun node field plan relationship _ hplan hanchor => ?_
  · have hplans := Call.plans hplan
    obtain ⟨_, _, _, hmakes⟩ := hplans.makes
    refine keeps_execute hnamed hg hplans
      (fun statement hcompile answer => Plan.assemblePage_eq hmakes hcompile answer)
      fun _ found _ hfind cache _ => ⟨fun page cache' hpage => ⟨fun _ other heq => ?_, trivial⟩, fun _ _ _ => trivial⟩
    obtain ⟨candidates, _, hroot⟩ := Result.bind_eq_ok.mp hfind
    cases heq
    exact Level.issued_of_presentPage hroot hpage
  · have hplans := Call.plans hplan
    obtain ⟨_, _, _, hmakes⟩ := hplans.makes
    refine ⟨keeps_execute hnamed hg hplans
      (fun statement hcompile answer => Plan.assemble_eq hmakes hcompile answer)
      fun _ _ _ _ _ _ => ⟨fun _ _ _ => ⟨trivial, trivial⟩, fun _ _ _ => trivial⟩, fun _ _ hfree => ?_⟩
    rw [hanchor] at hfree
    cases hfree

/-- Every page that a request gives to a query or a connection is issued under the order of its options, and the pages
nested in its answers are issued under the orders of the levels at their positions, when keys tell apart what is asked. -/
theorem issued_of_serve [PropertyTable] {decls : List EntityDecl} {session : Session} {calls : List Call} {call : Call}
    {result : Related Node} (hschema : Schema.build decls = .ok engine.schema) (hgraph : session.store.graph.Built)
    (hcalls : ∀ call ∈ calls, call.Within session.requests.length)
    (hanswer : (call, .ok result) ∈
      (engine.serve session.requests.length calls (session.openRequest permission)).1) :
    ∃ plan, call.plan (engine.planner permission) = .ok plan ∧
      ((∀ node field, call ≠ .load node field) → ∀ page, result = .many page →
        page.Issued session.store.graph plan.root.options.order) ∧
      (engine.LoadsShown session.requests.length calls (session.openRequest permission) →
        (asked (engine.planner permission) session.store.graph calls).Distinct →
          ∀ position page, result.At position (.many page) →
            ∃ level, plan.root.levelAt position = some level ∧
              page.Issued session.store.graph level.options.order) := by
  have hnamed := Schema.named_of_build hschema
  have hg := hgraph.wellFormed
  obtain ⟨plan, hplan, hissued⟩ := serve_induct (K := fun _ => True)
    (Q := fun call result => ∃ plan, call.plan (engine.planner permission) = .ok plan ∧
      (plan.anchor = none → ∀ page, result = .many page → page.Issued session.store.graph plan.root.options.order))
    (fun _ _ _ _ _ => trivial) (session.holds_openRequest permission trivial)
    (fun call hcall _ => keeps_issued hnamed hg (hcalls call hcall)) (fun _ _ _ _ _ => .inl trivial) call result hanswer
  refine ⟨plan, hplan, fun hnoload => hissued (Call.anchor_of_plan hplan hnoload),
    fun hloads hkeys position page hat => ?_⟩
  obtain ⟨shown, hshown, hshows⟩ := shows_of_serve hschema hgraph hloads hkeys hanswer
  rw [hplan] at hshown
  cases hshown
  obtain ⟨level, among, hlevel, hplanned, _, hpage⟩ := hshows.level_at hnamed hg hat
  obtain ⟨_, hmakes⟩ := hplanned.makes
  exact ⟨level, hlevel, Level.issued_of_shownFrom hmakes.heads.sorted hpage⟩

/-- The cursors of the nodes that the owner sees lead back to them, also next to one of them. -/
theorem issued_of_serve_owner : ∃ result page nested,
    (ownedCall, .ok result) ∈ (ownedEngine.serve 0 [ownedCall] (ownedSession.openRequest (some owner))).1 ∧
      result = .many page ∧ result.At [("next", "A")] (.many nested) ∧
      ∀ shown ∈ [page, nested], shown.ids = ["a"] ∧ ∀ item ∈ shown.items, ∃ values,
        Cursor.decode .byId item.cursor = .ok values ∧ List.lookup "id" values = some (.string "a") := by
  have hcalls : ∀ call ∈ [ownedCall], call.Within ownedSession.requests.length := List.forall_mem_singleton.mpr trivial
  obtain ⟨plan, branch, hplan⟩ := exists_ownedPlan
  obtain ⟨page, nested, node, after, _, hanswer⟩ := exists_ownedAnswer
  have hloads : ownedEngine.LoadsShown 0 [ownedCall] (ownedSession.openRequest (some owner)) := loadsShown_single nofun
  have hkeys : (asked (ownedEngine.planner (some owner)) ownedSession.store.graph [ownedCall]).Distinct :=
    distinct_of_branch hplan.planned hplan.free hplan.branches hplan.parts
  obtain ⟨own, hown, hpage, hpages⟩ := issued_of_serve (rfl : Schema.build [ownedDecl] = .ok ownedEngine.schema)
    ownedSession_built hcalls (mem_serve hanswer.answered)
  rw [hplan.planned] at hown
  cases hown
  obtain ⟨same, level, hsame, hlevel, hbelow⟩ : ∃ same level,
      ownedCall.plan (ownedEngine.planner (some owner)) = .ok same ∧
        same.root.levelAt [("next", "A")] = some level ∧ level.options.order = .byId := ⟨_, _, rfl, rfl, rfl⟩
  rw [hplan.planned] at hsame
  cases hsame
  obtain ⟨inner, hinner, hissued⟩ := hpages hloads hkeys _ _ hanswer.at_next
  rw [hlevel] at hinner
  cases hinner
  rw [hplan.order] at hpage
  rw [hbelow] at hissued
  have hid : page.ids = ["a"] := by
    rw [Page.ids, hanswer.nodes, List.map_singleton, hanswer.id]
  have hall : ∀ shown ∈ [page, nested], shown.ids = ["a"] ∧ shown.Issued ownedSession.store.graph .byId :=
    List.forall_mem_cons.mpr ⟨⟨hid, hpage nofun page rfl⟩, List.forall_mem_singleton.mpr ⟨hanswer.ids, hissued⟩⟩
  refine ⟨_, page, nested, mem_serve hanswer.answered, rfl, hanswer.at_next, fun shown hshown => ?_⟩
  obtain ⟨hids, hshown⟩ := hall shown hshown
  refine ⟨hids, fun item hitem => ?_⟩
  have hitemId : item.node.id = "a" := by
    have hmemId : item.node.id ∈ shown.ids := List.mem_map_of_mem (List.mem_map_of_mem hitem)
    rw [hids] at hmemId
    exact List.mem_singleton.mp hmemId
  have hstored : ownedSession.store.graph.Stored item.node.id := hitemId ▸ rfl
  have hback := hshown.leads_back ownedSession_built.wellFormed hitem hstored
  rwa [hitemId] at hback

end Engine
end GraphQuery
