import GraphQuery.Proofs.Authorization.Grants
import GraphQuery.Proofs.Engine.Calls

/-!
# Requests show granted nodes only

Whatever the calls of a request give, fresh or from its caches, shows and counts at every position only nodes that the
permission of the request grants for the type there (`Engine.granted_of_serve`), as long as the keys of the caches tell
apart what is asked of a node.
-/

namespace GraphQuery

/-- A planner under a permission admits granted nodes only. -/
theorem Planner.Admits.grants [PropertyTable] {planner : Planner} {graph : Graph} {permission : Permission}
    {entityType id : String} (hpermission : planner.permission = some permission)
    (h : planner.Admits graph entityType id) : ∃ entity, planner.schema.entity entityType = .ok entity ∧
      planner.access.Grants planner.schema graph permission (planner.access.maxHops + 1) entity id := by
  obtain ⟨_, entity, filter, hentity, hfilter, hholds⟩ := h
  rw [Planner.authorization, hpermission] at hfilter
  exact ⟨entity, hentity, Access.grants_of_holds hfilter hholds⟩

namespace Engine

/-- Whether a permission grants a node of a type, by the rules of an engine. -/
def Grants [PropertyTable] (engine : Engine) (graph : Graph) (permission : Permission) (entityType id : String) :
    Prop :=
  ∃ entity, engine.schema.entity entityType = .ok entity ∧
    engine.access.Grants engine.schema graph permission (engine.access.maxHops + 1) entity id

/-- Everything that the calls of a request show or count at a position is granted by the permission of the request for the
type there; nothing is shown or counted where the type declares nothing for the permission. -/
theorem granted_of_serve [PropertyTable] {engine : Engine} {decls : List EntityDecl} {permission : Permission}
    {session : Session} {calls : List Call} {call : Call} {result : Related Node}
    (hschema : Schema.build decls = .ok engine.schema) (hgraph : session.store.graph.Built)
    (hcalls : ∀ call ∈ calls, call.Within session.requests.length)
    (hkeys : (asked (engine.planner (some permission)) session.store.graph calls).Unambiguous)
    (hanswer : (call, .ok result) ∈
      (engine.serve session.requests.length calls (session.openRequest (some permission))).1) :
    ∃ plan, call.plan (engine.planner (some permission)) = .ok plan ∧
      ∀ position other, result.At position other → ∃ entityType, plan.root.typeAt position = some entityType ∧
        other.Counts (engine.Grants session.store.graph permission entityType) ∧
        ∀ entity, engine.schema.entity entityType = .ok entity → entity.authorization? permission.name = none →
          other.nodes = [] ∧ ∀ n, other.totalCount = some n → n = 0 := by
  obtain ⟨plan, hplan, hsound⟩ := sound_of_serve hschema hgraph hcalls hkeys hanswer
  refine ⟨plan, hplan, fun position other hat => ?_⟩
  obtain ⟨entityType, htype, hadmitted⟩ := hsound position other hat
  have hcounts : other.Counts (engine.Grants session.store.graph permission entityType) :=
    hadmitted.imp fun id h => h.grants rfl
  refine ⟨entityType, htype, hcounts, fun entity hentity hundeclared => ?_⟩
  obtain ⟨counted, _, hcounted, hnodes, htotal⟩ := hcounts
  have hnone : counted = [] := by
    refine List.eq_nil_iff_forall_not_mem.mpr fun id hid => ?_
    obtain ⟨declared, hdeclared, hgrants⟩ := hcounted id hid
    rw [hentity] at hdeclared
    cases hdeclared
    exact Access.not_grants hundeclared hgrants
  subst hnone
  refine ⟨List.eq_nil_iff_forall_not_mem.mpr fun node hnode => ?_, htotal⟩
  have hmem := hnodes node hnode
  cases hmem

/-! ## A request for one's own nodes -/

/-- A relationship from nodes of a type to nodes of the type. -/
def nextOwned : RelationshipDef := ⟨"next", "A", "A", "NEXT", .outgoing, .many, none⟩

/-- A type whose nodes are readable for their owner only. -/
def ownedDecl : EntityDecl := .declare "A" false [] [nextOwned] []
  [⟨"read", [⟨"matchesParameter", [("parameter", "owner")]⟩], [], [], false⟩]

/-- An engine over the schema of the type. -/
def ownedEngine : Engine where
  schema := ⟨[("A", ⟨"A", false, [⟨"id", .id, false⟩], [nextOwned], [],
    [("read", ⟨[⟨"matchesParameter", [("parameter", "owner")]⟩], [], [], false⟩)]⟩)]⟩
  access := ⟨.builtin, Access.defaultMaxHops⟩
  budget := .default

/-- Two nodes of the type, both next to the first. -/
def ownedSession : Session where
  store := ⟨⟨pairGraph.nodes, [⟨"a", "NEXT", "a"⟩, ⟨"a", "NEXT", "b"⟩]⟩, 0, none⟩
  requests := []

theorem ownedSession_built : ownedSession.store.graph.Built := by
  have hpair : pairGraph.Built := .addNode _ _ _ (.addNode _ _ _ .empty)
  have hloop := Graph.Built.addEdge hpair (rfl : pairGraph.addEdge "a" "NEXT" "a" = .ok _)
  exact hloop.addEdge (rfl : Graph.addEdge _ "a" "NEXT" "b" = .ok _)

/-- The permission of the owner of the first node. -/
def owner : Permission := ⟨"read", [("owner", .string "a")]⟩

/-- A query of the nodes of the type and those next to them. -/
def ownedCall : Call := .query "A" [.named "next"] ⟨.all, .byId, none, none, none, none, false⟩
  ⟨.all, .byId, none, none, none, none, false, rfl⟩

/-- The plan of the query asks one relationship of the nodes, and nothing of the related nodes. -/
structure OwnedPlan (plan : Plan) (branch : Branch) : Prop where
  planned : ownedCall.plan (ownedEngine.planner (some owner)) = .ok plan
  free : plan.anchor = none
  order : plan.root.options.order = .byId
  branches : plan.root.branches = [branch]
  relationship : branch.sub.relationship = nextOwned
  options : branch.sub.query.options = .default
  parts : branch.sub.query.parts = []
  typeAt : plan.root.typeAt [("next", "A")] = some "A"

theorem exists_ownedPlan : ∃ plan branch, OwnedPlan plan branch :=
  ⟨_, _, rfl, rfl, rfl, rfl, rfl, rfl, rfl, rfl⟩

/-- The owner of the first node sees it alone, also next to itself, and finds a load of the latter in the cache. -/
structure OwnedAnswer (page nested : Page Node) (node : Node) (after : Session) (load : Plan) : Prop where
  answered : ownedEngine.answer 0 ownedCall (ownedSession.openRequest (some owner)) = .ok (.many page) after
  nodes : page.nodes = [node]
  id : node.id = "a"
  typeName : node.typeName = "A"
  relationships : node.relationships = [("next", .many nested)]
  ids : nested.ids = ["a"]
  permission : after.permission 0 = some owner
  planned : (ownedEngine.planner (some owner)).relationship "A" (.string "a") (.named "next") = .ok load
  anchor : load.anchor = some ⟨"A", .string "a", nextOwned⟩
  options : load.root.options = .default
  parts : load.root.parts = []
  cached : ∃ hits misses,
    (Session.cell node).get after = ⟨[(.ofQuery nextOwned load.root, .ready (.many nested))], hits, misses⟩

theorem exists_ownedAnswer : ∃ page nested node after load, OwnedAnswer page nested node after load :=
  ⟨_, _, _, _, _, rfl, rfl, rfl, rfl, rfl, rfl, rfl, rfl, rfl, rfl, rfl, _, _, rfl⟩

theorem OwnedAnswer.at_next {page nested : Page Node} {node : Node} {after : Session} {load : Plan}
    (h : OwnedAnswer page nested node after load) : (Related.many page).At [("next", "A")] (.many nested) := by
  rw [← h.typeName]
  exact .down (by simp [Related.nodes, h.nodes]) (by simp [h.relationships]) (.here _)

/-- The owner of the first node sees it alone, also next to itself. -/
theorem granted_of_serve_owner : ∃ result other,
    (ownedCall, .ok result) ∈ (ownedEngine.serve 0 [ownedCall] (ownedSession.openRequest (some owner))).1 ∧
      result.nodes.map (·.id) = ["a"] ∧ result.At [("next", "A")] other ∧ other.nodes.map (·.id) = ["a"] ∧
      ownedEngine.Grants ownedSession.store.graph owner "A" "a" := by
  have hcalls : ∀ call ∈ [ownedCall], call.Within ownedSession.requests.length := List.forall_mem_singleton.mpr trivial
  obtain ⟨plan, branch, hplan⟩ := exists_ownedPlan
  obtain ⟨page, nested, node, after, _, hanswer⟩ := exists_ownedAnswer
  have hkeys : (asked (ownedEngine.planner (some owner)) ownedSession.store.graph [ownedCall]).Unambiguous := by
    intro typeName id relationship query relationship' query' h h' _
    obtain ⟨_, hquery⟩ := asked_of_branch hplan.planned hplan.free hplan.branches hplan.parts h
    obtain ⟨_, hquery'⟩ := asked_of_branch hplan.planned hplan.free hplan.branches hplan.parts h'
    rw [hquery, hquery']
  obtain ⟨own, hown, hgranted⟩ := granted_of_serve (rfl : Schema.build [ownedDecl] = .ok ownedEngine.schema)
    ownedSession_built hcalls hkeys (mem_serve hanswer.answered)
  rw [hplan.planned] at hown
  cases hown
  obtain ⟨entityType, htype, ⟨counted, _, hcounted, hshown, _⟩, _⟩ := hgranted _ _ hanswer.at_next
  rw [hplan.typeAt] at htype
  cases htype
  obtain ⟨beside, hbeside, hself⟩ : ∃ beside ∈ nested.nodes, beside.id = "a" := by
    refine List.mem_map.mp ?_
    rw [← Page.ids, hanswer.ids]
    exact List.mem_cons_self
  have hids : page.nodes.map (·.id) = ["a"] := by
    rw [hanswer.nodes, List.map_singleton, hanswer.id]
  exact ⟨.many page, .many nested, mem_serve hanswer.answered, hids, hanswer.at_next, hanswer.ids,
    hcounted "a" (hself ▸ hshown beside hbeside)⟩

end Engine
end GraphQuery
