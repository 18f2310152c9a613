import GraphQuery.Proofs.Cache.Kept
import GraphQuery.Proofs.Filter.Holds
import GraphQuery.Proofs.Page.Positions
import GraphQuery.Proofs.Page.Presented
import GraphQuery.Proofs.Plan.Adequacy
import Mathlib.Data.List.Nodup

/-!
# Results show what is admitted

A planner admits a node for a type when the node has the label of the type and the filter of the permission holds on
it. Presenting what a level finds gives results that are sound for the level, and keeps the caches of the request sound,
where earlier results may stand in for new ones (`Planner.Plans.keeps_present`). This needs that the keys of the caches
tell apart what is asked of a node (`Asking.Unambiguous`).
-/

namespace GraphQuery

/-! ## What is asked of nodes -/

/-- Which relationships are asked of which nodes, and what is wanted of the related nodes. -/
abbrev Asking := (typeName id : String) → RelationshipDef → Level → Prop

/-- Whatever is asked of one node under one key has the same types at every position. -/
def Asking.Unambiguous (asks : Asking) : Prop :=
  ∀ typeName id relationship query relationship' query', asks typeName id relationship query →
    asks typeName id relationship' query' → CacheKey.ofQuery relationship query = CacheKey.ofQuery relationship' query' →
    query.typeAt = query'.typeAt

/-- What a level and the levels below it ask of the nodes of a graph. -/
inductive Level.Asks (graph : Graph) : Level → Asking
  | own {level : Level} {branch : Branch} {typeName id : String} : graph.hasLabel id level.entityType = true →
      branch ∈ level.branches → branch.sub.appliesTo typeName = true →
      Asks graph level typeName id branch.sub.relationship branch.sub.query
  | nested {level query : Level} {branch : Branch} {typeName id : String} {relationship : RelationshipDef} :
      branch ∈ level.branches → Asks graph branch.sub.query typeName id relationship query →
      Asks graph level typeName id relationship query

/-- A level with nothing below it asks nothing. -/
theorem Level.not_asks {graph : Graph} {level query : Level} {typeName id : String} {relationship : RelationshipDef}
    (hparts : level.parts = []) : ¬ level.Asks graph typeName id relationship query := by
  have hnone : level.branches = [] := by
    rw [Level.branches, hparts]
    rfl
  intro hasks
  cases hasks with
  | own _ hbranch _ => rw [hnone] at hbranch; cases hbranch
  | nested hbranch _ => rw [hnone] at hbranch; cases hbranch

/-- A result is sound for whatever is asked of a node under a key. -/
def SoundFor (admits : (entityType id : String) → Prop) (asks : Asking) (typeName id : String) (key : CacheKey)
    (result : Related Node) : Prop :=
  ∀ relationship query, asks typeName id relationship query → CacheKey.ofQuery relationship query = key →
    result.Sound admits query.typeAt

/-- Every result in the caches of a request is sound for whatever is asked of its node under its key. -/
def ResultCache.Sound (admits : (entityType id : String) → Prop) (asks : Asking) (cache : ResultCache) : Prop :=
  cache.All (SoundFor admits asks)

theorem Asking.Unambiguous.soundFor {asks : Asking} (hun : asks.Unambiguous)
    {admits : (entityType id : String) → Prop} {typeName id : String} {relationship : RelationshipDef} {query : Level}
    {result : Related Node} (hasks : asks typeName id relationship query) (h : result.Sound admits query.typeAt) :
    SoundFor admits asks typeName id (.ofQuery relationship query) result := by
  intro relationship' query' hasks' hkey
  rw [hun _ _ _ _ _ _ hasks' hasks hkey]
  exact h

/-! ## Presenting -/

section Presenting

variable {schema : Schema} {admits : (entityType id : String) → Prop} {asks : Asking} {found : Found}
  {typeName : String}

/-- A result that is kept, or an earlier one that is kept already, is sound. -/
theorem keeps_keep (hun : asks.Unambiguous) {id : String} {relationship : RelationshipDef} {query : Level}
    (hasks : asks typeName id relationship query) {result : Related Node} (h : result.Sound admits query.typeAt) :
    Run.Keeps (ResultCache.Sound admits asks) (·.Sound admits query.typeAt)
      (keep typeName id (.ofQuery relationship query) result) := by
  refine Run.keeps_modifyGet fun cache hcache => ?_
  obtain ⟨hkept, hrest⟩ := (hcache typeName id).insertReady (hun.soundFor hasks h)
  exact ⟨hkept relationship query hasks rfl, RequestCache.All.set hcache hrest⟩

/-- What presenting the result of a branch that applies needs, and that it gives a sound result. -/
def Branch.Presents (schema : Schema) (admits : (entityType id : String) → Prop) (asks : Asking) (found : Found)
    (typeName : String) (branch : Branch) : Prop :=
  branch.sub.appliesTo typeName = true → asks typeName found.id branch.sub.relationship branch.sub.query ∧
    Run.Keeps (ResultCache.Sound admits asks) (·.Sound admits branch.sub.query.typeAt)
      (branch.sub.query.present schema
        ((List.lookup (branch.resultKey, branch.index) found.related).getD .empty))

/-- A result is sound for the first of several sub-queries that applies. -/
def SoundFirst (admits : (entityType id : String) → Prop) (typeName : String) (subs : List (SubQuery Level))
    (result : Related Node) : Prop :=
  ∃ sub, subs.find? (·.appliesTo typeName) = some sub ∧ result.Sound admits sub.query.typeAt

theorem keeps_presentFirst (hun : asks.Unambiguous) {resultKey : String} : ∀ {subs : List (SubQuery Level)} {i : Nat},
    (∀ branch ∈ Level.branchesOfSubs resultKey subs i, branch.Presents schema admits asks found typeName) →
      Run.Keeps (ResultCache.Sound admits asks)
        (fun first => ∀ result, first = some result → SoundFirst admits typeName subs result)
        (Level.presentFirst schema typeName found resultKey subs i)
  | [], i, _ => by
    rw [Level.presentFirst]
    refine Run.keeps_pure fun result heq => ?_
    cases heq
  | ⟨relationship, query, onlyOnTypes⟩ :: rest, i, h => by
    obtain ⟨hfirst, hrest⟩ := List.forall_mem_cons.mp h
    rw [Level.presentFirst]
    by_cases happlies : SubQuery.appliesTo ⟨relationship, (), onlyOnTypes⟩ typeName = true
    · obtain ⟨hasks, hpresent⟩ := hfirst happlies
      rw [if_pos happlies]
      refine hpresent.bind fun result hresult => (keeps_keep hun hasks hresult).bind fun kept hkept => ?_
      refine Run.keeps_pure fun other heq => ⟨⟨relationship, query, onlyOnTypes⟩, ?_, ?_⟩
      · exact List.find?_cons_of_pos happlies
      · cases heq
        exact hkept
    · have hskip : (⟨relationship, query, onlyOnTypes⟩ :: rest : List (SubQuery Level)).find? (·.appliesTo typeName) =
          rest.find? (·.appliesTo typeName) := List.find?_cons_of_neg happlies
      rw [if_neg happlies]
      refine (keeps_presentFirst hun hrest).imp fun first hfound result heq => ?_
      obtain ⟨sub, hsub, hsound⟩ := hfound result heq
      exact ⟨sub, hskip.trans hsub, hsound⟩

theorem keeps_presentParts (hun : asks.Unambiguous) : ∀ {parts : List (String × List (SubQuery Level))},
    (∀ branch ∈ Level.branchesOfParts parts, branch.Presents schema admits asks found typeName) →
      Run.Keeps (ResultCache.Sound admits asks)
        (fun results => ∀ entry ∈ results, ∃ subs, (entry.1, subs) ∈ parts ∧ SoundFirst admits typeName subs entry.2)
        (Level.presentParts schema typeName found parts)
  | [], _ => by
    rw [Level.presentParts]
    refine Run.keeps_pure fun entry hentry => ?_
    cases hentry
  | (resultKey, subs) :: rest, h => by
    have hrest : Run.Keeps (ResultCache.Sound admits asks)
        (fun results => ∀ entry ∈ results, ∃ others, (entry.1, others) ∈ (resultKey, subs) :: rest ∧
          SoundFirst admits typeName others entry.2) (Level.presentParts schema typeName found rest) := by
      refine (keeps_presentParts hun fun branch hbranch => h branch (List.mem_append_right _ hbranch)).imp
        fun results hresults entry hentry => ?_
      obtain ⟨others, hothers, hfound⟩ := hresults entry hentry
      exact ⟨others, List.mem_cons_of_mem (resultKey, subs) hothers, hfound⟩
    rw [Level.presentParts]
    refine (keeps_presentFirst hun fun branch hbranch => h branch (List.mem_append_left _ hbranch)).bind
      fun first hfirst => ?_
    cases first with
    | none => exact hrest
    | some result =>
      refine hrest.bind fun results hresults => Run.keeps_pure fun entry hentry => ?_
      rcases List.mem_cons.mp hentry with rfl | hentry
      · exact ⟨subs, List.mem_cons_self, hfirst result rfl⟩
      · exact hresults entry hentry

/-- What is presented of a node: the node that was found, with sound results below. -/
def Level.Shows (admits : (entityType id : String) → Prop) (level : Level) (found : Found) (node : Node) : Prop :=
  node.id = found.id ∧ ∀ entry ∈ node.relationships,
    ∃ sub, level.below? entry.1 node.typeName = some sub ∧ entry.2.Sound admits sub.query.typeAt

theorem Level.keeps_presentNode (hun : asks.Unambiguous) {level : Level} (hsorted : Table.Sorted level.parts)
    (h : ∀ typeName, ∀ branch ∈ level.branches, branch.Presents schema admits asks found typeName) :
    Run.Keeps (ResultCache.Sound admits asks) (level.Shows admits found) (level.presentNode schema found) := by
  obtain ⟨entityType, options, condition, limit, cardinality, parts⟩ := level
  rw [Level.presentNode]
  refine (Run.keeps_ofExcept _).bind fun entity _ => (Run.keeps_modify fun cache hcache => ?_).bind fun _ _ => ?_
  · exact RequestCache.All.see hcache entity.name found.id
  · refine (keeps_presentParts hun (h entity.name)).bind fun relationships hrelationships => ?_
    refine Run.keeps_get.bind fun cache _ => Run.keeps_pure ⟨rfl, fun entry hentry => ?_⟩
    obtain ⟨subs, hpart, sub, hsub, hsound⟩ := hrelationships entry hentry
    refine ⟨sub, ?_, hsound⟩
    rw [Level.below?, Level.part?, (Table.lookup_eq_some_iff hsorted).mpr hpart]
    exact hsub

/-- A level presents different nodes that are admitted, and counts no others. -/
structure Answer.Counts (admits : (id : String) → Prop) (counted : List String) (answer : Answer Found) : Prop where
  nodup : counted.Nodup
  admitted : ∀ id ∈ counted, admits id
  rows : ∀ found ∈ answer.rows, found.id ∈ counted
  total : ∀ n, answer.totalCount = some n → n = counted.length

theorem Options.mem_of_slice {α : Type} {options : Options} {rows : List α} {x : α} (h : x ∈ (options.slice rows).1) :
    x ∈ rows := by
  unfold Options.slice at h
  split at h
  · exact List.mem_of_mem_take h
  · exact List.mem_of_mem_drop h
  · exact h

theorem Answer.Counts.sound {level : Level} {answer : Answer Found} {counted : List String} {result : Related Node}
    (h : answer.Counts (admits level.entityType) counted)
    (htotal : ∀ n, result.totalCount = some n → n = counted.length)
    (hnodes : ∀ node ∈ result.nodes, ∃ found ∈ answer.rows, level.Shows admits found node) :
    result.Sound admits level.typeAt := by
  refine Level.sound_of ⟨counted, h.nodup, h.admitted, fun node hnode => ?_, htotal⟩ fun node hnode => ?_
  · obtain ⟨found, hfound, hid, _⟩ := hnodes node hnode
    exact hid ▸ h.rows found hfound
  · obtain ⟨found, hfound, _, hbelow⟩ := hnodes node hnode
    exact hbelow

section Answers

variable {level : Level} {answer : Answer Found} {counted : List String}
  (hcounts : answer.Counts (admits level.entityType) counted)
  (hrows : ∀ found ∈ answer.rows,
    Run.Keeps (ResultCache.Sound admits asks) (level.Shows admits found) (level.presentNode schema found))

include hcounts hrows

theorem Level.keeps_presentPage : Run.Keeps (ResultCache.Sound admits asks)
    (fun page => (Related.many page).Sound admits level.typeAt) (level.presentPage schema answer) := by
  unfold Level.presentPage Options.presentPage
  have hitems : Run.Keeps (ResultCache.Sound admits asks)
      (fun items => ∀ item ∈ items, ∃ found ∈ (level.options.slice answer.rows).1, level.Shows admits found item.node)
      ((level.options.slice answer.rows).1.mapM (level.options.presentItem (level.presentNode schema))) := by
    refine Run.Keeps.mapM fun found hfound => ?_
    exact (hrows found (Options.mem_of_slice hfound)).bind fun node hnode => Run.keeps_pure hnode
  refine hitems.bind fun items hitem => Run.keeps_pure (hcounts.sound hcounts.total fun node hnode => ?_)
  obtain ⟨item, hmem, rfl⟩ := List.mem_map.mp hnode
  obtain ⟨found, hfound, hshows⟩ := hitem item hmem
  exact ⟨found, Options.mem_of_slice hfound, hshows⟩

theorem Level.keeps_present :
    Run.Keeps (ResultCache.Sound admits asks) (·.Sound admits level.typeAt) (level.present schema answer) := by
  unfold Level.present Level.presentRelated
  cases level.cardinality with
  | one =>
    obtain ⟨totalCount, rows⟩ := answer
    cases rows with
    | nil => exact Run.keeps_pure (hcounts.sound nofun nofun)
    | cons found rest =>
      refine (hrows found List.mem_cons_self).bind fun node hnode => Run.keeps_pure (hcounts.sound nofun ?_)
      intro other hother
      rw [List.mem_singleton.mp hother]
      exact ⟨found, List.mem_cons_self, hnode⟩
  | many => exact (Level.keeps_presentPage hcounts hrows).bind fun page hpage => Run.keeps_pure hpage

end Answers

end Presenting

/-! ## Levels that planning makes -/

section Planned

variable {planner : Planner} {graph : Graph} {asks : Asking} {entity : EntityType} {level : Level}

variable [PropertyTable]

/-- A planner admits a node for a type when the node has the label of the type and the filter of the permission holds on
it. -/
def Planner.Admits (planner : Planner) (graph : Graph) (entityType id : String) : Prop :=
  graph.hasLabel id entityType = true ∧ ∃ entity filter, planner.schema.entity entityType = .ok entity ∧
    planner.authorization entity = .ok filter ∧ filter.Holds graph id

theorem Planner.Heads.admits (h : planner.Heads entity level)
    (hentity : planner.schema.entity level.entityType = .ok entity) {id : String}
    (hlabel : graph.hasLabel id level.entityType = true) (hholds : level.condition.Holds graph id) :
    planner.Admits graph level.entityType id := by
  obtain ⟨authorization, hauthorization, hcondition⟩ := h.condition
  rw [hcondition] at hholds
  exact ⟨hlabel, entity, authorization, hentity, hauthorization, Filter.holds_of_conjoin hholds authorization (by simp)⟩

/-- A level finds, and counts, candidates that its filter holds on. -/
theorem Level.counts_of_find {candidates : List String} {answer : Answer Found} {admits : (id : String) → Prop}
    (hn : candidates.Nodup) (hadmits : ∀ id ∈ candidates, level.condition.Holds graph id → admits id)
    (h : level.find graph candidates = .ok answer) : ∃ counted, answer.Counts admits counted := by
  obtain ⟨passing, hpassing, htotal, hrows⟩ := Level.find_eq_ok.mp h
  have hsub := Level.passing_sublist hpassing
  refine ⟨passing, hn.sublist hsub, fun id hid => ?_, fun found hfound => ?_, fun n hcount => ?_⟩
  · exact hadmits id (hsub.subset hid) (Level.holds_of_passing hpassing id hid)
  · obtain ⟨keyed, hkeyed, hrow⟩ := Result.member_of_mem_mapM (Result.mapM_eq_ok.mpr hrows) found hfound
    rw [(Level.findRow_eq_ok hrow).1]
    exact Level.mem_of_paged hkeyed
  · rw [htotal] at hcount
    split at hcount
    · cases hcount
      rfl
    · cases hcount

/-- What is found for a branch of a level is found by its own level among the neighbours. -/
theorem Level.find_of_lookup {candidates : List String} {answer other : Answer Found} (hsorted : Table.Sorted level.parts)
    (h : level.find graph candidates = .ok answer) {found : Found} (hfound : found ∈ answer.rows) {branch : Branch}
    (hbranch : branch ∈ level.branches)
    (hlookup : List.lookup (branch.resultKey, branch.index) found.related = some other) :
    branch.sub.query.find graph (graph.neighbours found.id branch.sub.relationship.label
      branch.sub.relationship.direction branch.sub.query.entityType) = .ok other := by
  obtain ⟨passing, _, _, hrows⟩ := Level.find_eq_ok.mp h
  obtain ⟨keyed, _, hrow⟩ := Result.member_of_mem_mapM (Result.mapM_eq_ok.mpr hrows) found hfound
  obtain ⟨node, _, hrow⟩ := Result.bind_eq_ok.mp hrow
  obtain ⟨related, hrelated, hrow⟩ := Result.bind_eq_ok.mp hrow
  cases hrow
  obtain ⟨before, after, hsplit, _⟩ := List.lookup_eq_some_iff.mp hlookup
  have hmem : ((branch.resultKey, branch.index), other) ∈ related := by
    have hrelated : related = before ++ ((branch.resultKey, branch.index), other) :: after := hsplit
    simp [hrelated]
  obtain ⟨owner, howner, hplace, hother⟩ := Level.of_mem_findBranches hrelated _ hmem
  have howner : owner = branch :=
    List.inj_on_of_nodup_map (Level.nodup_places hsorted) howner hbranch hplace.symm
  rw [howner] at hother
  exact hother

/-- Presenting what a level finds shows nodes with sound results below, and keeps the caches sound. -/
theorem Planner.Makes.keeps_presentNode (hnamed : planner.schema.Named) (hun : asks.Unambiguous)
    (hmakes : planner.Makes entity level) : ∀ {candidates : List String} {answer : Answer Found},
      planner.schema.entity level.entityType = .ok entity → candidates.Nodup →
      (∀ id ∈ candidates, graph.hasLabel id level.entityType = true) →
      (∀ typeName id relationship query, level.Asks graph typeName id relationship query →
        asks typeName id relationship query) →
      level.find graph candidates = .ok answer →
        (∃ counted, answer.Counts (planner.Admits graph level.entityType) counted) ∧ ∀ found ∈ answer.rows,
          Run.Keeps (ResultCache.Sound (planner.Admits graph) asks) (level.Shows (planner.Admits graph) found)
            (level.presentNode planner.schema found) := by
  induction hmakes with
  | @mk entity level hheads hcardinality htargets hnested ih =>
    intro candidates answer hentity hn hlabels hasks hfind
    obtain ⟨counted, hcounts⟩ := Level.counts_of_find hn (fun id hid hholds =>
      hheads.admits hentity (hlabels id hid) hholds) hfind
    refine ⟨⟨counted, hcounts⟩, fun found hfound => ?_⟩
    refine Level.keeps_presentNode hun hheads.sorted fun typeName branch hbranch happlies => ?_
    have hlabel : graph.hasLabel found.id level.entityType = true := by
      obtain ⟨hlabel, _⟩ := hcounts.admitted found.id (hcounts.rows found hfound)
      exact hlabel
    refine ⟨hasks typeName found.id _ _ (.own hlabel hbranch happlies), ?_⟩
    obtain ⟨target, htarget⟩ := htargets branch hbranch
    have hquery : planner.schema.entity branch.sub.query.entityType = .ok target := by
      rw [(hnested branch hbranch target htarget).heads.entityType, hnamed.entity htarget]
      exact htarget
    cases hlookup : List.lookup (branch.resultKey, branch.index) found.related with
    | none =>
      have hempty : (Answer.empty : Answer Found).Counts (planner.Admits graph branch.sub.query.entityType) [] :=
        ⟨.nil, nofun, nofun, nofun⟩
      exact Level.keeps_present hempty nofun
    | some other =>
      obtain ⟨⟨others, hothers⟩, hrows⟩ := ih branch hbranch target htarget hquery Graph.nodup_neighbours
        (fun id hid => (Graph.mem_neighbours.mp hid).2)
        (fun typeName id relationship query h => hasks typeName id relationship query (.nested hbranch h))
        (Level.find_of_lookup hheads.sorted hfind hfound hbranch hlookup)
      exact Level.keeps_present hothers hrows

/-! ## Plans -/

/-- What a plan asks of the nodes of a graph: what its levels ask, and its own relationship of the node it starts
from. -/
def Plan.Asks (graph : Graph) (plan : Plan) : Asking := fun typeName id relationship query =>
  plan.root.Asks graph typeName id relationship query ∨
    (plan.anchor = some ⟨typeName, .string id, relationship⟩ ∧ query = plan.root)

omit [PropertyTable] in
/-- A plan starts from different nodes of the type of its topmost level. -/
theorem Plan.candidates_eq_ok (hg : graph.WellFormed) {plan : Plan} {candidates : List String}
    (h : plan.candidates graph = .ok candidates) :
    candidates.Nodup ∧ ∀ id ∈ candidates, graph.hasLabel id plan.root.entityType = true := by
  unfold Plan.candidates at h
  cases hanchor : plan.anchor with
  | none =>
    rw [hanchor] at h
    cases h
    exact ⟨Graph.nodup_labelled hg, fun id hid => Graph.hasLabel_of_mem_labelled hg hid⟩
  | some anchor =>
    rw [hanchor] at h
    simp only at h
    split at h
    · cases h
      split
      · exact ⟨Graph.nodup_neighbours, fun id hid => (Graph.mem_neighbours.mp hid).2⟩
      · exact ⟨.nil, nofun⟩
    · cases h

section Plans

variable {plan : Plan} {answer : Answer Found} (hnamed : planner.schema.Named) (hg : graph.WellFormed)
  (hun : asks.Unambiguous) (hplan : planner.Plans plan)
  (hasks : ∀ typeName id relationship query, plan.Asks graph typeName id relationship query →
    asks typeName id relationship query)
  (hfind : plan.find graph = .ok answer)

include hnamed hg hun hplan hasks hfind

theorem Planner.Plans.keeps_presentNode :
    (∃ counted, answer.Counts (planner.Admits graph plan.root.entityType) counted) ∧ ∀ found ∈ answer.rows,
      Run.Keeps (ResultCache.Sound (planner.Admits graph) asks) (plan.root.Shows (planner.Admits graph) found)
        (plan.root.presentNode planner.schema found) := by
  obtain ⟨name, entity, hentity, hmakes⟩ := hplan.makes
  obtain ⟨candidates, hcandidates, hroot⟩ := Result.bind_eq_ok.mp hfind
  obtain ⟨hn, hlabels⟩ := Plan.candidates_eq_ok hg hcandidates
  have htype : planner.schema.entity plan.root.entityType = .ok entity := by
    rw [hmakes.heads.entityType, hnamed.entity hentity]
    exact hentity
  exact hmakes.keeps_presentNode hnamed hun htype hn hlabels
    (fun typeName id relationship query h => hasks typeName id relationship query (.inl h)) hroot

/-- Presenting the page of what a plan finds. -/
theorem Planner.Plans.keeps_presentPage :
    Run.Keeps (ResultCache.Sound (planner.Admits graph) asks)
      (fun page => (Related.many page).Sound (planner.Admits graph) plan.root.typeAt)
      (plan.root.presentPage planner.schema answer) := by
  obtain ⟨⟨counted, hcounts⟩, hrows⟩ := hplan.keeps_presentNode hnamed hg hun hasks hfind
  exact Level.keeps_presentPage hcounts hrows

/-- Presenting what a plan finds gives a result that is sound for the plan, and keeps the caches sound. -/
theorem Planner.Plans.keeps_present :
    Run.Keeps (ResultCache.Sound (planner.Admits graph) asks) (·.Sound (planner.Admits graph) plan.root.typeAt)
      (plan.root.present planner.schema answer) := by
  obtain ⟨⟨counted, hcounts⟩, hrows⟩ := hplan.keeps_presentNode hnamed hg hun hasks hfind
  exact Level.keeps_present hcounts hrows

end Plans

end Planned

end GraphQuery
