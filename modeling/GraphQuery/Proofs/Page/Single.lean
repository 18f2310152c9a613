import GraphQuery.Proofs.Order.Keys
import GraphQuery.Proofs.Page.Coherent
import GraphQuery.Proofs.Page.Paging
import GraphQuery.Proofs.Plan.Wanted

/-!
# The node at the end of a single relationship

A sort key over a single relationship reads the first neighbour along it, by identifier. What is wanted along the same
relationship is planned as a level of its own, which takes one node by identifier (`Level.Lone`, made by
`Planner.Plans.lone` when there is no permission). Such a level shows the same neighbour with everything stored of it
(`Level.Lone.of_shownAlong`), so the key reads a property of the node that is shown (`Level.Lone.value_eq`).
-/

namespace GraphQuery

/-! ## Nodes that are in order already -/

namespace Order

variable {order : Order} {graph : Graph} {ids : List String}

/-- Nodes that are in order stay where they are. -/
theorem arrange_of_pairwise {kinds : List Value.Kind}
    (h : Rankable order.directions kinds (ids.map (order.keyed graph))) (hp : ids.Pairwise (order.before graph)) :
    order.arrange graph ids = ids := by
  have hranked : ids.map (order.keyed graph) = ranked order.directions (ids.map (order.keyed graph)) := by
    refine eq_sortBy h.linear h.nodup (.refl _) (List.pairwise_map.mpr (hp.imp fun hab => ?_))
    exact decide_eq_true hab
  rw [arrange, ← hranked, map_fst_keyed]

section ById

variable (hg : graph.WellFormed) (hs : ∀ id ∈ ids, graph.Stored id)

include hg hs

/-- By identifier all stored nodes can be put in order. -/
theorem rankable_byId (hn : ids.Nodup) : ∃ kinds, Rankable byId.directions kinds (ids.map (byId.keyed graph)) := by
  refine rankable hg proper_byId.2 hn hs fun key hkey => ⟨.string, fun id hid => .inr ?_⟩
  rw [List.mem_singleton.mp hkey]
  exact congrArg Value.kind? (Graph.value_id hg (hs id hid))

/-- Sorted identifiers are in order by identifier. -/
theorem pairwise_before_byId (hp : ids.Pairwise (· < ·)) : ids.Pairwise (byId.before graph) := by
  refine hp.imp_of_mem fun {a b} ha hb hlt => ?_
  have hvalues : ∀ id ∈ ids, byId.values graph id = [.string id] := fun id hid =>
    congrArg (fun value => [value]) (Graph.value_id hg (hs id hid))
  have hcompare : (Value.string a).compare (.string b) = .lt := compareOfLessAndEq_eq_lt.mpr hlt
  rw [before, hvalues a ha, hvalues b hb]
  exact (Ordering.then_eq_lt).mpr (.inl hcompare)

theorem arrange_byId (hp : ids.Pairwise (· < ·)) : byId.arrange graph ids = ids := by
  obtain ⟨kinds, hrank⟩ := rankable_byId hg hs (nodup_of_ascending hp)
  exact arrange_of_pairwise hrank (pairwise_before_byId hg hs hp)

end ById

end Order

/-! ## Levels for one node -/

/-- A level that takes, of the nodes along a relationship, the first one by identifier. -/
structure Level.Lone (relationship : RelationshipDef) (query : Level) : Prop where
  entityType : query.entityType = relationship.target
  options : query.options = .single
  condition : query.condition = .all
  limit : query.limit = some 1
  cardinality : query.cardinality = .one

section Planning

variable {planner : Planner} {entity : EntityType} {level : Level} {plan : Plan}

theorem Planner.authorization_of_free (hfree : planner.permission = none) (entity : EntityType) :
    planner.authorization entity = .ok .all := by
  unfold Planner.authorization
  rw [hfree]

variable [PropertyTable]

/-- The options of a single relationship, whatever the fields that ask for it. -/
theorem Planner.options_of_single {relationship : RelationshipDef} {field : Field} {others : List Field}
    {options : Options} (hone : relationship.isMany = false)
    (h : planner.relationshipOptions relationship entity field others = .ok options) : options = .single := by
  unfold Planner.relationshipOptions at h
  rw [hone] at h
  split at h
  · cases h
  · cases h
    rfl

/-- What is planned for a single relationship without a permission takes one node. -/
theorem Planner.lone_of_level (hnamed : planner.schema.Named) (hfree : planner.permission = none) {room : Nat}
    {selection : List Field} {options : Options} {cardinality : Cardinality}
    (h : planner.level room entity selection options cardinality = .ok level) {resultKey typeName : String}
    {sub : SubQuery Level} (hbelow : level.below? resultKey typeName = some sub)
    (hone : sub.relationship.isMany = false) : sub.query.Lone sub.relationship := by
  obtain ⟨groups, _, hfirst⟩ := below_of_level h resultKey typeName
  split at hfirst
  · rw [hbelow] at hfirst
    cases hfirst
  · rename_i group _
    obtain ⟨less, target, options', query, _, htarget, hoptions, hquery, hsub⟩ := hfirst
    rw [hbelow] at hsub
    cases hsub
    have hcardinality : group.relationship.cardinality = .one := RelationshipDef.isMany_eq_false.mp hone
    obtain rfl := options_of_single hone hoptions
    obtain ⟨nested, hover⟩ := levelOver_of_level hquery
    obtain ⟨authorization, _, _, _, hauthorization, _, _, rfl⟩ := levelOver_eq_ok.mp hover
    rw [authorization_of_free hfree] at hauthorization
    cases hauthorization
    exact ⟨hnamed.entity htarget, rfl, rfl, by rw [hcardinality]; rfl, hcardinality⟩

/-- The topmost level of a plan is planned. -/
theorem Planner.Plans.level_root (h : planner.Plans plan) : ∃ room entity selection options cardinality,
    planner.level room entity selection options cardinality = .ok plan.root := by
  cases h with
  | query _ h =>
    obtain ⟨_, _, _, hroot, rfl⟩ := Planner.query_eq_ok h
    exact ⟨_, _, _, _, _, hroot⟩
  | connection h =>
    obtain ⟨_, _, _, _, _, hroot, rfl⟩ := Planner.connection_eq_ok h
    exact ⟨_, _, _, _, _, hroot⟩
  | relationship h =>
    obtain ⟨_, _, _, _, _, _, _, _, _, hroot, rfl⟩ := Planner.relationship_eq_ok h
    exact ⟨_, _, _, _, _, hroot⟩

/-- Anywhere in a plan without a permission, what is planned for a single relationship takes one node. -/
theorem Planner.Plans.lone (h : planner.Plans plan) (hnamed : planner.schema.Named)
    (hfree : planner.permission = none) {position : Position} (hlevel : plan.root.levelAt position = some level)
    {resultKey typeName : String} {sub : SubQuery Level} (hbelow : level.below? resultKey typeName = some sub)
    (hone : sub.relationship.isMany = false) : sub.query.Lone sub.relationship := by
  obtain ⟨_, _, _, _, _, hroot⟩ := h.level_root
  obtain ⟨_, _, _, _, _, _, _, hmade⟩ := Planner.level_at hroot hlevel
  exact Planner.lone_of_level hnamed hfree hmade hbelow hone

end Planning

/-! ## What such a level shows -/

section Showing

variable {graph : Graph} {schema : Schema} {request : Nat} {level query : Level} {candidates : List String}
  {answer : Answer Found} {relationship : RelationshipDef}

/-- What a level finds of a node has the properties that are stored of it. -/
theorem Level.properties_of_find [PropertyTable] (h : level.find graph candidates = .ok answer) {found : Found}
    (hfound : found ∈ answer.rows) : ∃ node, graph.node? found.id = some node ∧ found.properties = node.properties := by
  obtain ⟨passing, _, _, hrows⟩ := Level.find_eq_ok.mp h
  obtain ⟨keyed, _, hrow⟩ := Result.member_of_mem_mapM (Result.mapM_eq_ok.mpr hrows) found hfound
  obtain ⟨node, hnode, hrow⟩ := Result.bind_eq_ok.mp hrow
  obtain ⟨_, _, hrow⟩ := Result.bind_eq_ok.mp hrow
  cases hrow
  exact ⟨node, Graph.node_eq_ok.mp hnode, rfl⟩

theorem Level.stored_of_shownNode {found : Found} {node : Node} (h : level.shownNode schema request found = .ok node) :
    node.id = found.id ∧ node.properties = found.properties := by
  obtain ⟨entityType, options, condition, limit, cardinality, parts⟩ := level
  rw [Level.shownNode] at h
  obtain ⟨_, _, h⟩ := Result.bind_eq_ok.mp h
  obtain ⟨_, _, h⟩ := Result.bind_eq_ok.mp h
  cases h
  exact ⟨rfl, rfl⟩

variable [PropertyTable]

/-- The node that is shown of what a level finds has the properties of the stored node. -/
theorem Level.property_of_shownNode (hfind : level.find graph candidates = .ok answer) {found : Found}
    (hfound : found ∈ answer.rows) {node : Node} (h : level.shownNode schema request found = .ok node)
    (name : String) : node.property name = graph.value node.id name := by
  obtain ⟨stored, hstored, hproperties⟩ := Level.properties_of_find hfind hfound
  obtain ⟨hid, hshown⟩ := Level.stored_of_shownNode h
  rw [Node.property, Graph.value, hid, hstored, hshown, hproperties]

namespace Level.Lone

variable (h : query.Lone relationship)

include h

/-- A level for one node finds the first of sorted candidates. -/
theorem ids_of_find (hg : graph.WellFormed) (hp : candidates.Pairwise (· < ·))
    (hs : ∀ id ∈ candidates, graph.Stored id) (hfind : query.find graph candidates = .ok answer) :
    answer.rows.map (·.id) = candidates.take 1 := by
  obtain ⟨passing, hpassing, _, hrows⟩ := Level.find_eq_ok.mp hfind
  have hall : passing = candidates := by
    obtain ⟨_, rfl⟩ := Result.filterM_eq_ok hpassing
    refine List.filter_eq_self.mpr fun id _ => Result.isTrue_eq_true.mpr ?_
    rw [h.condition, show Filter.all.verdict graph id = .ok (some true) from Filter.holds_all]
    rfl
  subst hall
  have hbeyond : (passing.filter fun id => query.options.beyond graph id = some true) = passing := by
    refine List.filter_eq_self.mpr fun id _ => decide_eq_true ?_
    rw [h.options]
    rfl
  obtain ⟨kinds, hrank⟩ := Order.rankable_byId hg hs (nodup_of_ascending hp)
  have hpaged : query.paged graph passing = (passing.take 1).map (Order.byId.keyed graph) := by
    have hpage : Options.single.pageRows (some 1) (passing.map (Options.single.order.keyed graph)) =
        ((Options.single.order.arrange graph passing).take 1).map (Order.byId.keyed graph) := Options.pageRows_eq hrank
    rw [Level.paged, hbeyond, h.options, h.limit, hpage, show Options.single.order = .byId from rfl,
      Order.arrange_byId hg hs hp]
  have hids : answer.rows.map (·.id) = (query.paged graph passing).map (·.1) := by
    rw [← List.forall₂_eq_eq_eq, List.forall₂_map_left_iff, List.forall₂_map_right_iff]
    exact hrows.flip.imp fun _ _ hrow => (Level.findRow_eq_ok hrow).1
  rw [hids, hpaged, Order.map_fst_keyed]

/-- A level for one node shows the first neighbour along its relationship, if there is one. -/
theorem of_shownAlong (hg : graph.WellFormed) {id : String} {result : Related Node}
    (hshown : query.shownAlong schema graph request relationship id = .ok result) :
    ∃ related, result = .one related ∧ related.map (·.id) = (graph.reached id relationship.step).head? ∧
      ∀ node ∈ related, ∀ name, node.property name = graph.value node.id name := by
  rw [Level.shownAlong, h.entityType] at hshown
  obtain ⟨answer, hfind, hshown⟩ := Result.bind_eq_ok.mp hshown
  have hids := h.ids_of_find hg (pairwise_sortNames _) (fun _ hid => Graph.stored_of_mem_neighbours hid) hfind
  have hhead : (answer.rows.map (·.id)).head? = (graph.reached id relationship.step).head? := by
    rw [hids, List.head?_take]
    rfl
  unfold Level.shown Level.shownRelated at hshown
  rw [h.cardinality] at hshown
  dsimp only at hshown
  cases hrows : answer.rows with
  | nil =>
    rw [hrows] at hhead hshown
    cases hshown
    exact ⟨none, rfl, hhead, by simp⟩
  | cons found rest =>
    rw [hrows] at hhead hshown
    obtain ⟨node, hnode, hshown⟩ := Result.bind_eq_ok.mp hshown
    cases hshown
    have hfound : found ∈ answer.rows := hrows ▸ List.mem_cons_self
    refine ⟨some node, rfl, ?_, fun other hother => ?_⟩
    · rw [← hhead, Option.map_some, (Level.stored_of_shownNode hnode).1]
      rfl
    · cases hother
      exact Level.property_of_shownNode hfind hfound hnode

/-- A sort key over the relationship reads the property of the node that is shown; it reads null when there is none. -/
theorem value_eq (hg : graph.WellFormed) {id : String} {result : Related Node}
    (hshown : query.shownAlong schema graph request relationship id = .ok result) (name : String) :
    ∃ related, result = .one related ∧
      (OrderPath.related relationship name).value graph id = (related.map (·.property name)).getD .null := by
  obtain ⟨related, hresult, hids, hproperties⟩ := h.of_shownAlong hg hshown
  refine ⟨related, hresult, ?_⟩
  rw [OrderPath.value]
  cases hreached : graph.reached id relationship.step with
  | nil =>
    rw [hreached, List.head?_nil, Option.map_eq_none_iff] at hids
    rw [hids]
    rfl
  | cons first rest =>
    rw [hreached, List.head?_cons, Option.map_eq_some_iff] at hids
    obtain ⟨node, rfl, rfl⟩ := hids
    exact (hproperties node rfl name).symm

end Level.Lone

end Showing

end GraphQuery
