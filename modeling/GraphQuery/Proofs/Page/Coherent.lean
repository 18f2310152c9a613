import GraphQuery.Proofs.Page.Shown
import GraphQuery.Proofs.Plan.Paged

/-!
# Caches leave no trace in results

A cache is coherent when every result in it is the one of the relationship it is asked for, made anew
(`ResultCache.Coherent`). From a coherent cache presenting what a level finds gives what the level shows without caches,
and the cache stays coherent (`Level.Planned.gives_present`): an earlier result that stands in for a new one is the same.
This needs that keys tell apart what is asked of a node (`Asking.Distinct`).

What stands at a position of a result is shown by the level at that position (`Level.Planned.shown_at`).
-/

namespace GraphQuery

/-! ## Levels of relationships -/

/-- The levels that planning makes for a relationship. -/
structure Planner.MakesFor (planner : Planner) (relationship : RelationshipDef) (query : Level) : Prop where
  cardinality : query.cardinality = relationship.cardinality
  makes : ∃ target, planner.schema.entity relationship.target = .ok target ∧ planner.Makes target query

section Making

variable {planner : Planner} {entity : EntityType} {level query other : Level} {relationship : RelationshipDef}
  {graph : Graph}

/-- The level planned for a relationship is determined by its options and what is wanted below it. -/
theorem Planner.MakesFor.unique (h : planner.MakesFor relationship query) (h' : planner.MakesFor relationship other)
    (hoptions : query.options = other.options) (hparts : query.parts = other.parts) : query = other := by
  obtain ⟨target, htarget, hmakes⟩ := h.makes
  obtain ⟨target', htarget', hmakes'⟩ := h'.makes
  rw [htarget] at htarget'
  cases htarget'
  obtain ⟨authorization, hauthorization, hcondition⟩ := hmakes.heads.condition
  obtain ⟨authorization', hauthorization', hcondition'⟩ := hmakes'.heads.condition
  rw [hauthorization] at hauthorization'
  cases hauthorization'
  have hcardinality : query.cardinality = other.cardinality := h.cardinality.trans h'.cardinality.symm
  have htype : query.entityType = other.entityType := hmakes.heads.entityType.trans hmakes'.heads.entityType.symm
  have hfilter : query.condition = other.condition := by rw [hcondition, hcondition', hoptions]
  have hlimit : query.limit = other.limit := by rw [hmakes.heads.limit, hmakes'.heads.limit, hoptions, hcardinality]
  obtain ⟨entityType, options, condition, limit, cardinality, parts⟩ := query
  obtain ⟨entityType', options', condition', limit', cardinality', parts'⟩ := other
  simp only at htype hoptions hfilter hlimit hcardinality hparts
  rw [htype, hoptions, hfilter, hlimit, hcardinality, hparts]

theorem Planner.Makes.madeFor (h : planner.Makes entity level) {branch : Branch} (hbranch : branch ∈ level.branches) :
    planner.MakesFor branch.sub.relationship branch.sub.query := by
  cases h with
  | mk _ hcardinality htargets hnested =>
    obtain ⟨target, htarget⟩ := htargets branch hbranch
    exact ⟨hcardinality branch hbranch, target, htarget, hnested branch hbranch target htarget⟩

/-- Whatever a level asks of a node was planned for its relationship. -/
theorem Level.Asks.made {typeName id : String} (hasks : level.Asks graph typeName id relationship query) :
    ∀ {entity : EntityType}, planner.Makes entity level → planner.MakesFor relationship query := by
  induction hasks with
  | own _ hbranch _ => exact fun hmakes => hmakes.madeFor hbranch
  | nested hbranch _ ih =>
    intro entity hmakes
    obtain ⟨target, _, hbelow⟩ := (hmakes.madeFor hbranch).makes
    exact ih hbelow

/-- The topmost level of the load of a relationship is planned for it. -/
theorem Planner.Plans.madeFor [PropertyTable] {plan : Plan} (h : planner.Plans plan) {anchor : Anchor}
    (hanchor : plan.anchor = some anchor) : planner.MakesFor anchor.relationship plan.root := by
  cases h with
  | query _ h =>
    obtain ⟨_, _, h⟩ := Result.bind_eq_ok.mp h
    obtain ⟨_, _, h⟩ := Result.bind_eq_ok.mp h
    cases h
    cases hanchor
  | connection h =>
    obtain ⟨_, _, _, _, _, _, rfl⟩ := Planner.connection_eq_ok h
    cases hanchor
  | relationship h =>
    obtain ⟨parent, _, h⟩ := Result.bind_eq_ok.mp h
    split at h
    · cases h
    · rename_i declared _
      obtain ⟨target, htarget, h⟩ := Result.bind_eq_ok.mp h
      obtain ⟨options, hoptions, h⟩ := Result.bind_eq_ok.mp h
      obtain ⟨root, hroot, h⟩ := Result.bind_eq_ok.mp h
      cases h
      cases hanchor
      obtain ⟨hmakes, hcardinality, _⟩ := Planner.makes (Planner.exclusive_of_relationshipOptions hoptions) hroot
      exact ⟨hcardinality, target, htarget, hmakes⟩

end Making

/-! ## Keys -/

/-- Whatever is asked of one node under one key is the same: the relationship, its options and everything planned below
it. -/
def Asking.Distinct (asks : Asking) : Prop :=
  ∀ typeName id relationship query relationship' query', asks typeName id relationship query →
    asks typeName id relationship' query' → CacheKey.ofQuery relationship query = CacheKey.ofQuery relationship' query' →
    relationship = relationship' ∧ query.options = query'.options ∧ query.parts = query'.parts

/-- Under one key one level is asked of a node, along one relationship. -/
def Asking.Single (asks : Asking) : Prop :=
  ∀ typeName id relationship query relationship' query', asks typeName id relationship query →
    asks typeName id relationship' query' → CacheKey.ofQuery relationship query = CacheKey.ofQuery relationship' query' →
    relationship = relationship' ∧ query = query'

theorem Asking.Distinct.single {asks : Asking} (h : asks.Distinct) {planner : Planner}
    (hmade : ∀ typeName id relationship query, asks typeName id relationship query →
      planner.MakesFor relationship query) : asks.Single := by
  intro typeName id relationship query relationship' query' hasks hasks' hkey
  obtain ⟨hrelationship, hoptions, hparts⟩ := h _ _ _ _ _ _ hasks hasks' hkey
  have hmakes' := hmade _ _ _ _ hasks'
  rw [← hrelationship] at hmakes'
  exact ⟨hrelationship, (hmade _ _ _ _ hasks).unique hmakes' hoptions hparts⟩

/-! ## Coherent caches -/

/-- A level that compiles, from some names and parameters. -/
def Level.Compilable (schema : Schema) (level : Level) : Prop :=
  ∃ source resultKey subQuery onlyOnTypes b block b',
    level.compile schema source resultKey subQuery onlyOnTypes b = .ok (block, b')

variable [PropertyTable]

/-- A result is the one of every relationship that is asked of a node under a key. -/
def CoherentFor (schema : Schema) (graph : Graph) (asks : Asking) (request : Nat) (typeName id : String) (key : CacheKey)
    (result : Related Node) : Prop :=
  ∀ relationship query, asks typeName id relationship query → CacheKey.ofQuery relationship query = key →
    query.Compilable schema ∧ query.shownAlong schema graph request relationship id = .ok result

/-- The caches of a request hold the results of the relationships they are asked for. -/
structure ResultCache.Coherent (schema : Schema) (graph : Graph) (asks : Asking) (request : Nat) (cache : ResultCache) :
    Prop where
  belongs : cache.request = request
  entries : cache.All (CoherentFor schema graph asks request)

section Presenting

variable {schema : Schema} {graph : Graph} {asks : Asking} {request : Nat} {found : Found} {typeName id : String}
  {relationship : RelationshipDef} {query level : Level} {result : Related Node}

theorem Asking.Single.coherentFor (hsingle : asks.Single) (hasks : asks typeName id relationship query)
    (hcompilable : query.Compilable schema)
    (hshown : query.shownAlong schema graph request relationship id = .ok result) :
    CoherentFor schema graph asks request typeName id (.ofQuery relationship query) result := by
  intro relationship' query' hasks' hkey
  obtain ⟨rfl, rfl⟩ := hsingle _ _ _ _ _ _ hasks' hasks hkey
  exact ⟨hcompilable, hshown⟩

namespace ResultCache.Coherent

variable {cache : ResultCache}

theorem empty (schema : Schema) (graph : Graph) (asks : Asking) (request : Nat) :
    ResultCache.Coherent schema graph asks request (.empty request) :=
  ⟨rfl, RequestCache.all_empty request⟩

theorem set (h : ResultCache.Coherent schema graph asks request cache) {node : RelationshipCache (Related Node)}
    (hnode : node.All (CoherentFor schema graph asks request typeName id)) :
    ResultCache.Coherent schema graph asks request (cache.set typeName id node) :=
  ⟨h.belongs, RequestCache.All.set h.entries hnode⟩

theorem see (h : ResultCache.Coherent schema graph asks request cache) (typeName id : String) :
    ResultCache.Coherent schema graph asks request (cache.see typeName id) :=
  h.set (h.entries typeName id)

end ResultCache.Coherent

/-- The result of a relationship is the one that counts when it is kept: an earlier one under its key is the same. -/
theorem gives_keep (hsingle : asks.Single) (hasks : asks typeName id relationship query)
    (hcompilable : query.Compilable schema)
    (hshown : query.shownAlong schema graph request relationship id = .ok result) :
    Run.Gives (ResultCache.Coherent schema graph asks request) (.ok result)
      (keep typeName id (.ofQuery relationship query) result) := by
  refine Run.gives_modifyGet fun cache hcache => ?_
  obtain ⟨hkept, hrest⟩ :=
    (hcache.entries typeName id).insertReady (hsingle.coherentFor hasks hcompilable hshown)
  obtain ⟨_, hsame⟩ := hkept relationship query hasks rfl
  exact ⟨Except.ok.inj (hsame.symm.trans hshown), hcache.set hrest⟩

/-- What presenting a branch gives, and that keeping its result changes nothing. -/
structure Branch.Gives (schema : Schema) (graph : Graph) (asks : Asking) (request : Nat) (found : Found)
    (typeName : String) (branch : Branch) : Prop where
  present : Run.Gives (ResultCache.Coherent schema graph asks request) (branch.shown schema request found)
    (branch.sub.query.present schema ((List.lookup (branch.resultKey, branch.index) found.related).getD .empty))
  keep : ∀ result, branch.shown schema request found = .ok result →
    Run.Gives (ResultCache.Coherent schema graph asks request) (.ok result)
      (keep typeName found.id (.ofQuery branch.sub.relationship branch.sub.query) result)

theorem gives_presentFirst {resultKey : String} : ∀ {subs : List (SubQuery Level)} {i : Nat},
    (∀ branch ∈ Level.branchesOfSubs resultKey subs i, branch.sub.appliesTo typeName = true →
      branch.Gives schema graph asks request found typeName) →
      Run.Gives (ResultCache.Coherent schema graph asks request)
        (Level.shownFirst schema request typeName found resultKey subs i)
        (Level.presentFirst schema typeName found resultKey subs i)
  | [], i, _ => by
    rw [Level.shownFirst, Level.presentFirst]
    exact Run.gives_pure none
  | ⟨relationship, query, onlyOnTypes⟩ :: rest, i, h => by
    obtain ⟨hfirst, hrest⟩ := List.forall_mem_cons.mp h
    rw [Level.shownFirst, Level.presentFirst]
    split
    · rename_i happlies
      have hbranch := hfirst happlies
      refine hbranch.present.bind fun result hresult => ?_
      have hkept : Run.Gives (ResultCache.Coherent schema graph asks request) (Except.ok result >>= fun a => pure (some a))
          (keep typeName found.id (.ofQuery relationship query) result >>= fun a => pure (some a)) :=
        (hbranch.keep result hresult).bind fun kept _ => Run.gives_pure (some kept)
      exact hkept
    · exact gives_presentFirst hrest

theorem gives_presentParts : ∀ {parts : List (String × List (SubQuery Level))},
    (∀ branch ∈ Level.branchesOfParts parts, branch.sub.appliesTo typeName = true →
      branch.Gives schema graph asks request found typeName) →
      Run.Gives (ResultCache.Coherent schema graph asks request)
        (Level.shownParts schema request typeName found parts) (Level.presentParts schema typeName found parts)
  | [], _ => by
    rw [Level.shownParts, Level.presentParts]
    exact Run.gives_pure []
  | (resultKey, subs) :: rest, h => by
    have hrest : Run.Gives (ResultCache.Coherent schema graph asks request)
        (Level.shownParts schema request typeName found rest) (Level.presentParts schema typeName found rest) :=
      gives_presentParts fun branch hbranch => h branch (List.mem_append_right _ hbranch)
    rw [Level.shownParts, Level.presentParts]
    refine (gives_presentFirst fun branch hbranch => h branch (List.mem_append_left _ hbranch)).bind fun first _ => ?_
    cases first with
    | none => exact hrest
    | some result => exact hrest.bind fun results _ => Run.gives_pure ((resultKey, result) :: results)

/-- Presenting a node gives what the level shows when presenting each branch does. -/
theorem Level.gives_presentNode (h : ∀ entity, found.concreteType schema = .ok entity → ∀ branch ∈ level.branches,
    branch.sub.appliesTo entity.name = true → branch.Gives schema graph asks request found entity.name) :
    Run.Gives (ResultCache.Coherent schema graph asks request) (level.shownNode schema request found)
      (level.presentNode schema found) := by
  obtain ⟨entityType, options, condition, limit, cardinality, parts⟩ := level
  rw [Level.shownNode, Level.presentNode]
  refine (Run.gives_ofExcept _).bind fun entity hentity => ?_
  refine Run.Gives.modify_bind (fun cache hcache => hcache.see entity.name found.id) ?_
  refine (gives_presentParts (h entity hentity)).bind fun relationships _ => ?_
  refine Run.Gives.get_bind fun cache hcache => ?_
  rw [hcache.belongs]
  exact Run.gives_pure _

section Answers

variable {answer : Answer Found} (hrows : ∀ found ∈ answer.rows,
  Run.Gives (ResultCache.Coherent schema graph asks request) (level.shownNode schema request found)
    (level.presentNode schema found))

include hrows

theorem Level.gives_presentPage : Run.Gives (ResultCache.Coherent schema graph asks request)
    (level.shownPage schema request answer) (level.presentPage schema answer) := by
  unfold Level.shownPage Level.presentPage Options.shownPage Options.presentPage
  refine (Run.Gives.mapM fun found hfound => ?_).bind fun items _ => Run.gives_pure _
  exact (hrows found (Options.mem_of_slice hfound)).bind fun node _ => Run.gives_pure _

theorem Level.gives_present : Run.Gives (ResultCache.Coherent schema graph asks request)
    (level.shown schema request answer) (level.present schema answer) := by
  unfold Level.shown Level.present Level.shownRelated Level.presentRelated
  cases level.cardinality with
  | one =>
    obtain ⟨totalCount, rows⟩ := answer
    cases rows with
    | nil => exact Run.gives_pure _
    | cons found rest => exact (hrows found List.mem_cons_self).bind fun node _ => Run.gives_pure _
  | many => exact (Level.gives_presentPage hrows).bind fun page _ => Run.gives_pure _

end Answers

end Presenting

/-! ## Planned levels -/

/-- A level that a planner made, that compiles, and whose questions are among others. -/
structure Level.Planned (planner : Planner) (graph : Graph) (asks : Asking) (level : Level) : Prop where
  makes : ∃ entity, planner.Makes entity level
  compilable : level.Compilable planner.schema
  asked : ∀ typeName id relationship query, level.Asks graph typeName id relationship query →
    asks typeName id relationship query

section Planned

variable {planner : Planner} {graph : Graph} {asks : Asking} {request : Nat} {level : Level} {candidates : List String}

omit [PropertyTable] in
theorem Compiles.of_mem {schema : Schema} {entity : EntityType} {var : String} {branches : List Branch}
    {children : List Block} {b b' : Bindings} (h : Compiles schema entity var branches b children b') :
    ∀ branch ∈ branches, schema.requireSubQuery entity ⟨branch.sub.relationship, (), branch.sub.onlyOnTypes⟩ = .ok () ∧
      branch.sub.query.Compilable schema := by
  induction h with
  | nil => exact nofun
  | cons hrequire hchild _ ih =>
    exact List.forall_mem_cons.mpr ⟨⟨hrequire, _, _, _, _, _, _, _, hchild⟩, ih⟩

omit [PropertyTable] in
/-- The branches of a level that compiles do, and their relationships are ones of the type of the level. -/
theorem Level.Compilable.below {schema : Schema} (h : level.Compilable schema) :
    ∃ entity, schema.plannedType level.entityType = .ok entity ∧ ∀ branch ∈ level.branches,
      schema.requireSubQuery entity ⟨branch.sub.relationship, (), branch.sub.onlyOnTypes⟩ = .ok () ∧
        branch.sub.query.Compilable schema := by
  obtain ⟨_, _, _, _, _, _, _, hlevel⟩ := h
  obtain ⟨entity, _, _, _, hentity, _, _, hchildren, _⟩ := Level.compile_eq_ok.mp hlevel
  exact ⟨entity, hentity, hchildren.of_mem⟩

omit [PropertyTable] in
theorem Level.Planned.below (h : level.Planned planner graph asks) {branch : Branch}
    (hbranch : branch ∈ level.branches) : branch.sub.query.Planned planner graph asks := by
  obtain ⟨entity, hmakes⟩ := h.makes
  obtain ⟨target, _, hbelow⟩ := (hmakes.madeFor hbranch).makes
  obtain ⟨_, _, hcompilable⟩ := h.compilable.below
  exact ⟨⟨target, hbelow⟩, (hcompilable branch hbranch).2, fun typeName id relationship query hasks =>
    h.asked typeName id relationship query (.nested hbranch hasks)⟩

/-- A branch that applies to what a level finds gives what the branch shows, when the level of the branch does. -/
theorem Level.Planned.gives_branch (hnamed : planner.schema.Named) (hsingle : asks.Single)
    (hlevel : level.Planned planner graph asks) {answer : Answer Found}
    (hlabels : ∀ id ∈ candidates, graph.hasLabel id level.entityType = true)
    (hfind : level.find graph candidates = .ok answer) {found : Found} (hfound : found ∈ answer.rows)
    {concrete : EntityType} (hconcrete : found.concreteType planner.schema = .ok concrete) {branch : Branch}
    (hbranch : branch ∈ level.branches) (happlies : branch.sub.appliesTo concrete.name = true)
    (hbelow : ∀ {candidates : List String} {answer : Answer Found},
      (∀ id ∈ candidates, graph.hasLabel id branch.sub.query.entityType = true) →
      branch.sub.query.find graph candidates = .ok answer → ∀ found ∈ answer.rows,
        Run.Gives (ResultCache.Coherent planner.schema graph asks request)
          (branch.sub.query.shownNode planner.schema request found)
          (branch.sub.query.presentNode planner.schema found)) :
    branch.Gives planner.schema graph asks request found concrete.name := by
  obtain ⟨entity, hmakes⟩ := hlevel.makes
  have hsorted := hmakes.heads.sorted
  have hlabelled := SubQuery.appliesToLabels_of happlies (Found.name_of_concreteType hnamed hconcrete)
  obtain ⟨other, hlookup, hother⟩ := Level.lookup_of_find hsorted hfind hfound hbranch hlabelled
  have hshown : branch.shown planner.schema request found = branch.sub.query.shownAlong planner.schema graph request
      branch.sub.relationship found.id := Level.shown_branch hsorted hfind hfound hbranch hlabelled
  have hlabel := hlabels found.id (Level.of_mem_find hfind hfound).1
  refine ⟨?_, fun result hresult => ?_⟩
  · rw [Branch.shown, hlookup]
    exact Level.gives_present (hbelow (fun id hid => (Graph.mem_neighbours.mp hid).2) hother)
  · exact gives_keep hsingle (hlevel.asked _ _ _ _ (.own hlabel hbranch happlies)) (hlevel.below hbranch).compilable
      (hshown ▸ hresult)

/-- Presenting what a level finds gives the nodes that the level shows, from every coherent cache. -/
theorem Level.Planned.gives_presentNode (hnamed : planner.schema.Named) (hsingle : asks.Single) :
    ∀ {level : Level}, level.Planned planner graph asks → ∀ {candidates : List String} {answer : Answer Found},
      (∀ id ∈ candidates, graph.hasLabel id level.entityType = true) → level.find graph candidates = .ok answer →
        ∀ found ∈ answer.rows, Run.Gives (ResultCache.Coherent planner.schema graph asks request)
          (level.shownNode planner.schema request found) (level.presentNode planner.schema found) := by
  intro level
  induction level using Level.induct with
  | step level ih =>
    intro hlevel candidates answer hlabels hfind found hfound
    exact Level.gives_presentNode fun concrete hconcrete branch hbranch happlies =>
      hlevel.gives_branch hnamed hsingle hlabels hfind hfound hconcrete hbranch happlies
        (ih branch hbranch (hlevel.below hbranch))

end Planned

/-! ## Positions -/

/-- The level at a position of a level. -/
def Level.levelAt : Level → Position → Option Level
  | level, [] => some level
  | level, (resultKey, typeName) :: rest =>
    (level.below? resultKey typeName).bind fun sub => levelAt sub.query rest

/-- What stands at a position of a result that a level shows is shown by the level at that position. -/
theorem Level.Planned.shown_at {planner : Planner} {graph : Graph} {asks : Asking} {request : Nat}
    (hnamed : planner.schema.Named) {result other : Related Node} {position : Position}
    (hat : result.At position other) : ∀ {level : Level} {candidates : List String},
      level.Planned planner graph asks → (∀ id ∈ candidates, graph.hasLabel id level.entityType = true) →
      level.shownFrom planner.schema graph request candidates = .ok result →
        ∃ inner among, level.levelAt position = some inner ∧ inner.Planned planner graph asks ∧
          (∀ id ∈ among, graph.hasLabel id inner.entityType = true) ∧
          inner.shownFrom planner.schema graph request among = .ok other := by
  induction hat with
  | here result => exact fun hlevel hlabels hshown => ⟨_, _, rfl, hlevel, hlabels, hshown⟩
  | @down result other final node resultKey rest hnode hentry _ ih =>
    intro level candidates hlevel hlabels hshown
    obtain ⟨entity, hmakes⟩ := hlevel.makes
    obtain ⟨_, hattaches⟩ := Level.attaches_of_shown hnamed hmakes.heads.sorted hshown node hnode
    obtain ⟨branch, hbranch, hbelow, hother⟩ := hattaches.entries _ hentry
    obtain ⟨inner, among, hinner, hplanned⟩ := ih (hlevel.below hbranch)
      (fun id hid => (Graph.mem_neighbours.mp hid).2) hother
    refine ⟨inner, among, ?_, hplanned⟩
    rw [Level.levelAt, hbelow]
    exact hinner

end GraphQuery
