import GraphQuery.Proofs.Engine.Granted
import GraphQuery.Proofs.Page.Coherent

/-!
# Requests give what new requests give

The loads of a request are of nodes that its earlier answers show (`Engine.LoadsShown`). Then every call keeps the caches
of the request coherent and its answer is what its plan shows without caches (`Engine.keeps_coherent`), and so is
everything that is attached to the nodes of the answer. A new request shows the same (`Plan.Shows.execute`), so whatever
a request hands out is what a new request gives (`Engine.coherent_of_serve`).
-/

namespace GraphQuery

/-! ## Histories -/

/-- A result shows a node at some position. -/
def Related.Contains (result : Related Node) (node : Node) : Prop :=
  ∃ position other, result.At position other ∧ node ∈ other.nodes

namespace Engine

variable [PropertyTable]

/-- Every load is of a node that an earlier answer shows. -/
def LoadsShown (engine : Engine) (request : Nat) (calls : List Call) (session : Session) : Prop :=
  ∀ before node field after, calls = before ++ .load node field :: after →
    ∃ call result, (call, .ok result) ∈ (engine.serve request before session).1 ∧ result.Contains node

/-- A single call that is no load loads nothing else. -/
theorem loadsShown_single {engine : Engine} {request : Nat} {call : Call} {session : Session}
    (h : ∀ node field, call ≠ .load node field) : engine.LoadsShown request [call] session := by
  intro before node field after hsplit
  cases before with
  | nil => exact absurd (List.cons.inj hsplit).1 (h node field)
  | cons first before => simp at hsplit

/-- What every call keeps, when its loads are of known nodes, the whole request keeps when whatever its answers show is
known. -/
theorem serve_induct {engine : Engine} {request : Nat} {J : Session → Prop} {K : Node → Prop}
    {Q : Call → Related Node → Prop} (hknown : ∀ call result, Q call result → ∀ node, result.Contains node → K node) :
    ∀ {calls : List Call} {session : Session}, J session →
      (∀ call ∈ calls, (∀ node field, call = .load node field → K node) →
        Run.Keeps J (Q call) (engine.answer request call)) →
      (∀ before node field after, calls = before ++ .load node field :: after → K node ∨
        ∃ call result, (call, .ok result) ∈ (engine.serve request before session).1 ∧ result.Contains node) →
      ∀ call result, (call, .ok result) ∈ (engine.serve request calls session).1 → Q call result
  | [], session, _, _, _, call, result, hmem => by
    rw [serve] at hmem
    cases hmem
  | first :: rest, session, hs, hcalls, hloads, call, result, hmem => by
    obtain ⟨hfirst, hrest⟩ := List.forall_mem_cons.mp hcalls
    have hown : ∀ node field, first = .load node field → K node := by
      intro node field heq
      rcases hloads [] node field rest (by rw [heq]; rfl) with hnode | ⟨_, _, hnone, _⟩
      · exact hnode
      · rw [serve] at hnone
        cases hnone
    obtain ⟨outcome, after, hafter, hQ, hserve⟩ := serve_cons (hfirst hown) hs
    rw [hserve] at hmem
    rcases List.mem_cons.mp hmem with heq | hmem
    · cases heq
      exact hQ result rfl
    · refine serve_induct hknown hafter hrest (fun before node field later hsplit => ?_) call result hmem
      rcases hloads (first :: before) node field later (by rw [hsplit]; rfl) with hnode | ⟨other, shown, hother, hshows⟩
      · exact .inl hnode
      · rw [hserve] at hother
        rcases List.mem_cons.mp hother with heq | hother
        · cases heq
          exact .inl (hknown _ _ (hQ shown rfl) node hshows)
        · exact .inr ⟨other, shown, hother, hshows⟩

end Engine

/-! ## What plans show -/

/-- A result is what a plan shows in a request: its levels were planned, it compiles, and its topmost level shows the
result of the nodes that the plan starts from. -/
structure Plan.Shows [PropertyTable] (planner : Planner) (graph : Graph) (asks : Asking) (request : Nat) (plan : Plan)
    (result : Related Node) : Prop where
  planned : plan.root.Planned planner graph asks
  compiles : ∃ statement, plan.compile planner.schema = .ok statement
  shown : ∃ candidates, plan.candidates graph = .ok candidates ∧
    plan.root.shownFrom planner.schema graph request candidates = .ok result

section Compiling

variable {schema : Schema} {plan : Plan} {anchor : Anchor} {parent : EntityType}

theorem Plan.root_compilable {statement : Statement} (h : plan.compile schema = .ok statement) :
    plan.root.Compilable schema := by
  obtain ⟨_, _, _, _, hroot, _⟩ := Plan.compile_eq_ok h
  exact ⟨_, _, _, _, _, _, _, hroot⟩

/-- A plan that starts from a node compiles when its topmost level does and the type of the node has the relationship. -/
theorem Plan.compiles_anchored (hroot : plan.root.Compilable schema) (hanchor : plan.anchor = some anchor)
    (hparent : schema.plannedType anchor.parentType = .ok parent)
    (hrelationship : parent.requireRelationship anchor.relationship = .ok ()) :
    ∃ statement, plan.compile schema = .ok statement := by
  obtain ⟨_, _, _, _, _, _, _, hcompile⟩ := hroot
  have hsource : ∃ source, Plan.source schema .empty plan.anchor = .ok source := by
    rw [hanchor]
    exact ⟨_, Result.bind_eq_ok.mpr ⟨parent, hparent, Result.bind_eq_ok.mpr ⟨(), hrelationship, rfl⟩⟩⟩
  obtain ⟨source, hsource⟩ := hsource
  obtain ⟨block, b, hblock⟩ := Level.compile_total hcompile source.1 "" 0 none source.2
  exact ⟨_, Result.bind_eq_ok.mpr ⟨source, hsource, Result.bind_eq_ok.mpr ⟨_, hblock, rfl⟩⟩⟩

/-- The plan of a load compiles when its topmost level does. -/
theorem Planner.compiles_relationship [PropertyTable] {planner : Planner} (hnamed : planner.schema.Named)
    {parentType : String} {parentId : Value} {field : Field} (h : planner.relationship parentType parentId field = .ok
    plan) (hroot : plan.root.Compilable planner.schema) : ∃ statement, plan.compile planner.schema = .ok statement := by
  obtain ⟨parent, relationship, target, options, root, hparent, hrelationship, _, _, _, rfl⟩ :=
    Planner.relationship_eq_ok h
  refine Plan.compiles_anchored hroot rfl ?_ (EntityType.requireRelationship_own hrelationship)
  show planner.schema.plannedType parent.name = .ok parent
  rw [hnamed.entity hparent]
  exact Schema.plannedType_eq_ok.mpr hparent

end Compiling

/-- The plan of a sub-query for one node of a level of a type. -/
def SubQuery.planFor (sub : SubQuery Level) (entityType : String) (node : Node) : Plan where
  root := sub.query
  anchor := some
    { parentType := match sub.onlyOnTypes with
        | none => entityType
        | some _ => node.typeName
      parentId := .string node.id
      relationship := sub.relationship }

section Showing

variable {planner : Planner} {graph : Graph} {asks : Asking} {request : Nat} {plan : Plan} {result : Related Node}

theorem Plan.candidates_anchored {parentType parentId : String} {relationship : RelationshipDef}
    (hanchor : plan.anchor = some ⟨parentType, .string parentId, relationship⟩)
    (hlabel : graph.hasLabel parentId parentType = true) : plan.candidates graph =
      .ok (graph.neighbours parentId relationship.label relationship.direction plan.root.entityType) := by
  unfold Plan.candidates
  simp [hanchor, hlabel]

theorem Schema.requireSubQuery_of_mem {schema : Schema} {entity : EntityType} {relationship : RelationshipDef} :
    ∀ {types : List String}, schema.requireSubQuery entity ⟨relationship, (), some types⟩ = .ok () → ∀ name ∈ types,
      ∃ scope, schema.plannedType name = .ok scope ∧ scope.requireRelationship relationship = .ok ()
  | [], _, name, hname => by cases hname
  | first :: rest, h, name, hname => by
    rw [Schema.requireSubQuery] at h
    obtain ⟨_, hfirst, hrest⟩ := Result.bind_eq_ok.mp h
    rcases List.mem_cons.mp hname with rfl | hname
    · obtain ⟨scope, hscope, hfirst⟩ := Result.bind_eq_ok.mp hfirst
      refine ⟨scope, hscope, ?_⟩
      split at hfirst
      · cases hfirst
      · exact hfirst
    · exact Schema.requireSubQuery_of_mem hrest name hname

variable [PropertyTable]

/-- What is attached to a node of a result is what the plan of the sub-query for the node shows. -/
theorem Level.Planned.shows_entry (hnamed : planner.schema.Named) {level : Level} {candidates : List String}
    (hlevel : level.Planned planner graph asks) (hlabels : ∀ id ∈ candidates, graph.hasLabel id level.entityType = true)
    (hshown : level.shownFrom planner.schema graph request candidates = .ok result) {node : Node}
    (hnode : node ∈ result.nodes) {entry : String × Related Node} (hentry : entry ∈ node.relationships) :
    ∃ sub, level.below? entry.1 node.typeName = some sub ∧
      (sub.planFor level.entityType node).Shows planner graph asks request entry.2 := by
  obtain ⟨_, hmakes⟩ := hlevel.makes
  obtain ⟨hmem, hattaches⟩ := Level.attaches_of_shown hnamed hmakes.heads.sorted hshown node hnode
  obtain ⟨branch, hbranch, hbelow, hother⟩ := hattaches.entries entry hentry
  obtain ⟨entity, hentity, hbranches⟩ := hlevel.compilable.below
  obtain ⟨hrequire, hcompilable⟩ := hbranches branch hbranch
  refine ⟨branch.sub, hbelow, ?_⟩
  -- the type that the plan starts from has the relationship, and is a label of the node
  obtain ⟨parentType, hanchor, hlabel, parent, hparent, hrelationship⟩ : ∃ parentType,
      (branch.sub.planFor level.entityType node).anchor =
        some ⟨parentType, .string node.id, branch.sub.relationship⟩ ∧
      graph.hasLabel node.id parentType = true ∧ ∃ parent, planner.schema.plannedType parentType = .ok parent ∧
        parent.requireRelationship branch.sub.relationship = .ok () := by
    unfold SubQuery.planFor
    cases honly : branch.sub.onlyOnTypes with
    | none =>
      rw [honly] at hrequire
      exact ⟨_, rfl, hlabels node.id hmem, entity, hentity, hrequire⟩
    | some types =>
      rw [honly] at hrequire
      have happlies : node.typeName ∈ types := by
        obtain ⟨subs, _, hfind⟩ := Option.bind_eq_some_iff.mp hbelow
        have hsub := List.find?_some hfind
        simpa [SubQuery.appliesTo, honly] using hsub
      exact ⟨_, rfl, hattaches.typed, Schema.requireSubQuery_of_mem hrequire _ happlies⟩
  exact ⟨hlevel.below hbranch, Plan.compiles_anchored hcompilable hanchor hparent hrelationship, _,
    Plan.candidates_anchored hanchor hlabel, hother⟩

/-- What stands at a position of a result that a plan shows is shown by the level at that position. -/
theorem Plan.Shows.level_at (hnamed : planner.schema.Named) (hg : graph.WellFormed)
    (h : plan.Shows planner graph asks request result) {position : Position} {other : Related Node}
    (hat : result.At position other) :
    ∃ level among, plan.root.levelAt position = some level ∧ level.Planned planner graph asks ∧
      (∀ id ∈ among, graph.hasLabel id level.entityType = true) ∧
      level.shownFrom planner.schema graph request among = .ok other := by
  obtain ⟨candidates, hcandidates, hshown⟩ := h.shown
  obtain ⟨_, hlabels⟩ := Plan.candidates_eq_ok hg hcandidates
  exact Level.Planned.shown_at hnamed hat h.planned hlabels hshown

/-- What stands at a position of a result that a plan shows has its level there, and whatever is attached to its nodes is
what the plan of the sub-query for the node shows. -/
theorem Plan.Shows.entry_at (hnamed : planner.schema.Named) (hg : graph.WellFormed)
    (h : plan.Shows planner graph asks request result) {position : Position} {other : Related Node}
    (hat : result.At position other) {node : Node} (hnode : node ∈ other.nodes) {entry : String × Related Node}
    (hentry : entry ∈ node.relationships) :
    ∃ level sub, plan.root.levelAt position = some level ∧ level.below? entry.1 node.typeName = some sub ∧
      (sub.planFor level.entityType node).Shows planner graph asks request entry.2 := by
  obtain ⟨level, among, hlevel, hplanned, hamong, hother⟩ := h.level_at hnamed hg hat
  obtain ⟨sub, hsub, hshows⟩ := hplanned.shows_entry hnamed hamong hother hnode hentry
  exact ⟨level, sub, hlevel, hsub, hshows⟩

/-- A node of a result that a plan shows belongs to the request, and is stored with its type among its labels. -/
theorem Plan.Shows.known (hnamed : planner.schema.Named) (hg : graph.WellFormed)
    (h : plan.Shows planner graph asks request result) {node : Node} (hnode : result.Contains node) :
    node.request = request ∧ graph.hasLabel node.id node.typeName = true := by
  obtain ⟨position, other, hat, hmem⟩ := hnode
  obtain ⟨level, among, _, hplanned, _, hother⟩ := h.level_at hnamed hg hat
  obtain ⟨_, hmakes⟩ := hplanned.makes
  obtain ⟨_, hattaches⟩ := Level.attaches_of_shown hnamed hmakes.heads.sorted hother node hmem
  exact ⟨hattaches.belongs, hattaches.typed⟩

omit [PropertyTable] in
theorem Level.shown_of_shownPage {level : Level} {schema : Schema} (hmany : level.cardinality = .many)
    {answer : Answer Found} {page : Page Node} (h : level.shownPage schema request answer = .ok page) :
    level.shown schema request answer = .ok (.many page) := by
  unfold Level.shownPage at h
  unfold Level.shown Level.shownRelated
  rw [hmany]
  simp only [h]
  rfl

end Showing

/-! ## Answering -/

section Answering

variable {engine : Engine} {graph : Graph} {permission : Option Permission} {request : Nat} {asks : Asking}

variable [PropertyTable]

theorem ResultCache.coherent_entrywise (schema : Schema) (graph : Graph) (asks : Asking) (request : Nat) :
    ResultCache.Entrywise (ResultCache.Coherent schema graph asks request) (CoherentFor schema graph asks request) :=
  ⟨fun _ h => h.entries, fun _ _ _ _ h hnode => h.set hnode⟩

/-- The pages of a request are those of levels for many nodes. -/
theorem Planner.Plans.many {planner : Planner} {plan : Plan} (h : planner.Plans plan) (hanchor : plan.anchor = none) :
    plan.root.cardinality = .many := by
  cases h with
  | query hbuild h =>
    obtain ⟨entity, _, h⟩ := Result.bind_eq_ok.mp h
    obtain ⟨root, hroot, h⟩ := Result.bind_eq_ok.mp h
    cases h
    exact (Planner.makes (Options.exclusive_of_build hbuild) hroot).2.1
  | connection h =>
    obtain ⟨_, _, _, _, hoptions, hroot, rfl⟩ := Planner.connection_eq_ok h
    exact (Planner.makes (Field.exclusive_of_options hoptions) hroot).2.1
  | relationship h =>
    obtain ⟨parent, _, h⟩ := Result.bind_eq_ok.mp h
    split at h
    · cases h
    · obtain ⟨_, _, h⟩ := Result.bind_eq_ok.mp h
      obtain ⟨_, _, h⟩ := Result.bind_eq_ok.mp h
      obtain ⟨_, _, h⟩ := Result.bind_eq_ok.mp h
      cases h
      cases hanchor

/-- Keys that tell apart what is asked in a request lead to one level and one relationship each. -/
theorem single_asked {planner : Planner} {calls : List Call} (hkeys : (asked planner graph calls).Distinct) :
    (asked planner graph calls).Single := by
  have hmade : ∀ typeName id relationship query, asked planner graph calls typeName id relationship query →
      planner.MakesFor relationship query := by
    rintro typeName id relationship query ⟨call, _, plan, hplan, hasks⟩
    rcases hasks with hasks | ⟨hanchor, rfl⟩
    · obtain ⟨_, entity, _, hmakes⟩ := (Call.plans hplan).makes
      exact hasks.made hmakes
    · exact (Call.plans hplan).madeFor hanchor
  exact hkeys.single hmade

/-- Everything that a plan asks is along one relationship, with the options of a field without arguments and nothing
below. -/
structure Plan.AsksOnly (relationship : RelationshipDef) (plan : Plan) : Prop where
  below : ∀ branch ∈ plan.root.branches, branch.sub.relationship = relationship ∧
    branch.sub.query.options = .default ∧ branch.sub.query.parts = []
  own : ∀ anchor, plan.anchor = some anchor → anchor.relationship = relationship ∧
    plan.root.options = .default ∧ plan.root.parts = []

omit [PropertyTable] in
theorem Plan.AsksOnly.of_free {plan : Plan} {branch : Branch} (hfree : plan.anchor = none)
    (hbranches : plan.root.branches = [branch]) (hoptions : branch.sub.query.options = .default)
    (hparts : branch.sub.query.parts = []) : plan.AsksOnly branch.sub.relationship where
  below other hother := by
    rw [hbranches] at hother
    rw [List.mem_singleton.mp hother]
    exact ⟨rfl, hoptions, hparts⟩
  own anchor hanchor := by
    rw [hfree] at hanchor
    cases hanchor

omit [PropertyTable] in
theorem Plan.AsksOnly.of_leaf {plan : Plan} {anchor : Anchor} (hanchor : plan.anchor = some anchor)
    (hoptions : plan.root.options = .default) (hparts : plan.root.parts = []) :
    plan.AsksOnly anchor.relationship where
  below other hother := by
    rw [Level.branches, hparts] at hother
    cases hother
  own other hother := by
    rw [hanchor] at hother
    cases hother
    exact ⟨rfl, hoptions, hparts⟩

/-- Keys tell apart what is asked when it is all the same. -/
theorem distinct_asked {planner : Planner} {calls : List Call} (relationship : RelationshipDef)
    (h : ∀ call ∈ calls, ∀ plan, call.plan planner = .ok plan → plan.AsksOnly relationship) :
    (asked planner graph calls).Distinct := by
  have hall : ∀ typeName id along query, asked planner graph calls typeName id along query →
      along = relationship ∧ query.options = .default ∧ query.parts = [] := by
    rintro typeName id along query ⟨call, hcall, plan, hplan, hasks⟩
    have honly := h call hcall plan hplan
    rcases hasks with hasks | ⟨hanchor, rfl⟩
    · cases hasks with
      | own _ hbranch _ => exact honly.below _ hbranch
      | nested hbranch hasks => exact absurd hasks (Level.not_asks (honly.below _ hbranch).2.2)
    · exact honly.own _ hanchor
  intro typeName id along query along' query' hasks hasks' _
  obtain ⟨halong, hoptions, hparts⟩ := hall _ _ _ _ hasks
  obtain ⟨halong', hoptions', hparts'⟩ := hall _ _ _ _ hasks'
  exact ⟨halong.trans halong'.symm, hoptions.trans hoptions'.symm, hparts.trans hparts'.symm⟩

/-- Keys tell apart what a call asks when all of it is one relationship of the nodes it returns. -/
theorem distinct_of_branch {planner : Planner} {call : Call} {plan : Plan} {branch : Branch}
    (hplan : call.plan planner = .ok plan) (hfree : plan.anchor = none) (hbranches : plan.root.branches = [branch])
    (hparts : branch.sub.query.parts = []) : (asked planner graph [call]).Distinct := by
  intro typeName id relationship query relationship' query' hasks hasks' _
  obtain ⟨rfl, rfl⟩ := asked_of_branch hplan hfree hbranches hparts hasks
  obtain ⟨rfl, rfl⟩ := asked_of_branch hplan hfree hbranches hparts hasks'
  exact ⟨rfl, rfl, rfl⟩

namespace Engine

section Executing

variable {plan : Plan} (hnamed : engine.schema.Named) (hg : graph.WellFormed) (hsingle : asks.Single)
  (hplans : (engine.planner permission).Plans plan)
  (hasks : ∀ typeName id relationship query, plan.Asks graph typeName id relationship query →
    asks typeName id relationship query)

include hplans hasks

/-- The topmost level of a plan that compiles was planned. -/
theorem planned_root (hcompilable : plan.root.Compilable engine.schema) :
    plan.root.Planned (engine.planner permission) graph asks := by
  obtain ⟨_, entity, _, hmakes⟩ := hplans.makes
  exact ⟨⟨entity, hmakes⟩, hcompilable, fun typeName id relationship query h =>
    hasks typeName id relationship query (.inl h)⟩

include hnamed hg hsingle

/-- Executing a plan for a page keeps the caches coherent, and gives what the plan shows. -/
theorem keeps_shows (hanchor : plan.anchor = none) :
    Run.Keeps (Session.Holds graph permission request (ResultCache.Coherent engine.schema graph asks request))
      (fun page => plan.Shows (engine.planner permission) graph asks request (.many page))
      (engine.execute request plan Level.assemblePage) := by
  obtain ⟨_, entity, _, hmakes⟩ := hplans.makes
  refine keeps_execute hnamed hg hplans
    (fun statement hcompile answer => Plan.assemblePage_eq hmakes hcompile answer)
    fun statement found hcompile hfind => ?_
  obtain ⟨candidates, hcandidates, hroot⟩ := Result.bind_eq_ok.mp hfind
  obtain ⟨_, hlabels⟩ := Plan.candidates_eq_ok hg hcandidates
  have hlevel := planned_root hplans hasks (Plan.root_compilable hcompile)
  refine (Level.gives_presentPage (hlevel.gives_presentNode hnamed hsingle hlabels hroot)).keeps.imp
    fun page hpage => ?_
  exact ⟨hlevel, ⟨statement, hcompile⟩, candidates, hcandidates,
    Result.bind_eq_ok.mpr ⟨found, hroot, Level.shown_of_shownPage (hplans.many hanchor) hpage⟩⟩

/-- Executing the plan of a load keeps the caches coherent, and gives a result that may be kept under its key. -/
theorem keeps_coherentFor {typeName id : String} {relationship : RelationshipDef}
    (hanchor : plan.anchor = some ⟨typeName, .string id, relationship⟩) (htyped : graph.hasLabel id typeName = true) :
    Run.Keeps (Session.Holds graph permission request (ResultCache.Coherent engine.schema graph asks request))
      (CoherentFor engine.schema graph asks request typeName id (.ofQuery relationship plan.root))
      (engine.execute request plan Level.assemble) := by
  obtain ⟨_, entity, _, hmakes⟩ := hplans.makes
  refine keeps_execute hnamed hg hplans
    (fun statement hcompile answer => Plan.assemble_eq hmakes hcompile answer)
    fun statement found hcompile hfind => ?_
  obtain ⟨candidates, hcandidates, hroot⟩ := Result.bind_eq_ok.mp hfind
  obtain ⟨_, hlabels⟩ := Plan.candidates_eq_ok hg hcandidates
  have hcompilable := Plan.root_compilable hcompile
  have hlevel := planned_root hplans hasks hcompilable
  refine (Level.gives_present (hlevel.gives_presentNode hnamed hsingle hlabels hroot)).keeps.imp fun result hresult => ?_
  rw [Plan.candidates_anchored hanchor htyped] at hcandidates
  cases hcandidates
  exact hsingle.coherentFor (hasks _ _ _ _ (.inr ⟨hanchor, rfl⟩)) hcompilable
    (Result.bind_eq_ok.mpr ⟨found, hroot, hresult⟩)

end Executing

/-- A call keeps the caches coherent, and its answer is what its plan shows. -/
theorem keeps_coherent (hnamed : engine.schema.Named) (hg : graph.WellFormed) (hsingle : asks.Single) {call : Call}
    (hknown : ∀ node field, call = .load node field →
      node.request = request ∧ graph.hasLabel node.id node.typeName = true)
    (hasks : ∀ plan, call.plan (engine.planner permission) = .ok plan →
      ∀ typeName id relationship query, plan.Asks graph typeName id relationship query →
        asks typeName id relationship query) :
    Run.Keeps
      (Session.Holds graph permission request (ResultCache.Coherent engine.schema graph asks request))
      (fun result => ∃ plan, call.plan (engine.planner permission) = .ok plan ∧
        plan.Shows (engine.planner permission) graph asks request result)
      (engine.answer request call) := by
  have hwithin : call.Within request := by
    cases call with
    | load node field => exact (hknown node field rfl).1
    | _ => trivial
  refine keeps_answer_of hnamed (ResultCache.coherent_entrywise engine.schema graph asks request) hwithin
    (fun plan hplan hanchor => keeps_shows hnamed hg hsingle (Call.plans hplan) (hasks plan hplan) hanchor)
    fun node field plan relationship hload hplan hanchor => ?_
  obtain ⟨_, htyped⟩ := hknown node field hload
  refine ⟨keeps_coherentFor hnamed hg hsingle (Call.plans hplan) (hasks plan hplan) hanchor htyped,
    fun result hresult => ?_⟩
  -- a result from the cache is the one of the plan, too
  have hown : asks node.typeName node.id relationship plan.root := hasks plan hplan _ _ _ _ (.inr ⟨hanchor, rfl⟩)
  obtain ⟨hcompilable, hshown⟩ := hresult relationship plan.root hown rfl
  have hlevel := planned_root (Call.plans hplan) (hasks plan hplan) hcompilable
  subst hload
  exact ⟨hlevel, Planner.compiles_relationship hnamed hplan hcompilable, _, Plan.candidates_anchored hanchor htyped,
    hshown⟩

end Engine

end Answering

/-! ## New requests -/

/-- A call in another request: a load is of the node as that request shows it. -/
def Call.movedTo (request : Nat) : Call → Call
  | .load node field => .load (node.movedTo request) field
  | call => call

section Renewing

variable {engine : Engine} {graph : Graph} {permission : Option Permission} {request number : Nat} {asks : Asking}
  {plan : Plan} {result : Related Node} {session : Session}

section

variable [PropertyTable]

/-- The caches of a new request are coherent, whatever is asked. -/
theorem Session.coherent_openRequest (schema : Schema) (asks : Asking) {fresh : Session}
    (permission : Option Permission) (hgraph : fresh.store.graph = graph) :
    (fresh.openRequest permission).Holds graph permission fresh.requests.length
      (ResultCache.Coherent schema graph asks fresh.requests.length) := by
  subst hgraph
  exact fresh.holds_openRequest permission (ResultCache.Coherent.empty schema _ asks _)

/-- Executing a plan in a request with coherent caches gives what it shows in any other request. -/
theorem Plan.Shows.execute (hnamed : engine.schema.Named) (hg : graph.WellFormed) (hsingle : asks.Single)
    (h : plan.Shows (engine.planner permission) graph asks number result)
    (hs : session.Holds graph permission request (ResultCache.Coherent engine.schema graph asks request))
    (houtage : session.store.outage = none) :
    ∃ after, engine.execute request plan Level.assemble session = .ok (result.movedTo request) after := by
  obtain ⟨_, hmakes⟩ := h.planned.makes
  obtain ⟨candidates, hcandidates, hshown⟩ := h.shown
  obtain ⟨_, hlabels⟩ := Plan.candidates_eq_ok hg hcandidates
  obtain ⟨found, hfind, hshown⟩ := Result.bind_eq_ok.mp hshown
  have hgives : Run.Gives (ResultCache.Coherent engine.schema graph asks request)
      (plan.root.shown engine.schema request found) (plan.root.present engine.schema found) :=
    Level.gives_present (h.planned.gives_presentNode hnamed hsingle hlabels hfind)
  have hmoved : plan.root.shown engine.schema request found = .ok (result.movedTo request) := by
    rw [Level.shown_movedTo _ request number]
    exact congrArg (Related.movedTo request <$> ·) hshown
  rw [hmoved] at hgives
  obtain ⟨cache, hpresent, _⟩ := hgives.ok hs.cache
  refine ⟨_, (Engine.executeRelated_eq_ok hmakes rfl hnamed (hs.graph ▸ hg)).mpr
    ⟨houtage, h.compiles, found, cache, ?_, hpresent, rfl⟩⟩
  rw [hs.graph, Plan.find, hcandidates]
  exact hfind

/-- Executing a plan for a page in a request with coherent caches gives what it shows in any other request. -/
theorem Plan.Shows.executePage (hnamed : engine.schema.Named) (hg : graph.WellFormed) (hsingle : asks.Single)
    (hplan : (engine.planner permission).Plans plan) (hmany : plan.root.cardinality = .many)
    (h : plan.Shows (engine.planner permission) graph asks number result)
    (hs : session.Holds graph permission request (ResultCache.Coherent engine.schema graph asks request))
    (houtage : session.store.outage = none) : ∃ page after, result = .many page ∧
      engine.execute request plan Level.assemblePage session = .ok (page.movedTo request) after := by
  obtain ⟨candidates, hcandidates, hshown⟩ := h.shown
  obtain ⟨_, hlabels⟩ := Plan.candidates_eq_ok hg hcandidates
  obtain ⟨found, hfind, hshown⟩ := Result.bind_eq_ok.mp hshown
  unfold Level.shown Level.shownRelated at hshown
  rw [hmany] at hshown
  obtain ⟨page, hpage, hshown⟩ := Result.bind_eq_ok.mp hshown
  cases hshown
  have hgives : Run.Gives (ResultCache.Coherent engine.schema graph asks request)
      (plan.root.shownPage engine.schema request found) (plan.root.presentPage engine.schema found) :=
    Level.gives_presentPage (h.planned.gives_presentNode hnamed hsingle hlabels hfind)
  have hmoved : plan.root.shownPage engine.schema request found = .ok (page.movedTo request) := by
    rw [Level.shownPage_movedTo _ request number]
    exact congrArg (Page.movedTo request <$> ·) hpage
  rw [hmoved] at hgives
  obtain ⟨cache, hpresent, _⟩ := hgives.ok hs.cache
  refine ⟨page, _, rfl, (Engine.executePage_eq_ok hplan rfl hnamed (hs.graph ▸ hg)).mpr
    ⟨houtage, h.compiles, found, cache, ?_, hpresent, rfl⟩⟩
  rw [hs.graph, Plan.find, hcandidates]
  exact hfind

end

namespace Engine

section

variable [PropertyTable]

section Loading

variable {node : Node} {field : Field} {anchor : Anchor}
  (hplan : (engine.planner (session.permission request)).relationship node.typeName (.string node.id) field = .ok plan)
  (hanchor : plan.anchor = some anchor)

include hplan hanchor

theorem planLoad_eq_ok :
    engine.planLoad request node field session = .ok (plan, .ofQuery anchor.relationship plan.root) session := by
  refine planning_eq_ok.mpr ⟨Result.bind_eq_ok.mpr ⟨plan, hplan, ?_⟩, rfl⟩
  rw [hanchor]
  rfl

/-- A load whose result is in the cache of its node gives it, without the store. -/
theorem load_of_ready
    (hslot : ((Session.cell node).get session).slot? (.ofQuery anchor.relationship plan.root) = some (.ready result)) :
    ∃ after, engine.load request node field session = .ok result after ∧ after.store = session.store := by
  obtain ⟨cache, hcache⟩ := Cell.getOrCompute_of_ready hslot (engine.execute request plan Level.assemble)
  exact ⟨_, Run.bind_eq_ok.mpr ⟨_, session, planLoad_eq_ok hplan hanchor, hcache⟩, rfl⟩

/-- A load whose result is not in the cache of its node executes its plan. -/
theorem load_of_none
    (hslot : ((Session.cell node).get session).slot? (.ofQuery anchor.relationship plan.root) = none) {last : Session}
    (h : engine.execute request plan Level.assemble ((Session.cell node).set session
      (((Session.cell node).get session).start (.ofQuery anchor.relationship plan.root)).2) = .ok result last) :
    ∃ after, engine.load request node field session = .ok result after := by
  obtain ⟨after, hafter⟩ := Cell.getOrCompute_of_none hslot h
  exact ⟨after, Run.bind_eq_ok.mpr ⟨_, session, planLoad_eq_ok hplan hanchor, hafter⟩⟩

end Loading

/-- A call gives in a new request what its plan shows in any other. -/
theorem answer_openRequest (hnamed : engine.schema.Named) (hg : graph.WellFormed) (hsingle : asks.Single) {call : Call}
    (hplan : call.plan (engine.planner permission) = .ok plan)
    (h : plan.Shows (engine.planner permission) graph asks number result) {fresh : Session}
    (hgraph : fresh.store.graph = graph) (houtage : fresh.store.outage = none) :
    ∃ after, engine.answer fresh.requests.length (call.movedTo fresh.requests.length) (fresh.openRequest permission) =
      .ok (result.movedTo fresh.requests.length) after := by
  have hs := Session.coherent_openRequest engine.schema asks permission hgraph
  have hplans := Call.plans hplan
  cases call with
  | query entityType selection options checked =>
    have hmany := hplans.many (Planner.anchor_of_query hplan)
    obtain ⟨page, after, rfl, hexecute⟩ := h.executePage hnamed hg hsingle hplans hmany hs houtage
    refine ⟨after, Run.bind_eq_ok.mpr ⟨_, after, Run.bind_eq_ok.mpr ⟨plan, _, ?_, hexecute⟩, rfl⟩⟩
    exact planning_eq_ok.mpr ⟨by rw [hs.permission]; exact hplan, rfl⟩
  | connection entityType field =>
    have hmany := hplans.many (Planner.anchor_of_connection hplan)
    obtain ⟨page, after, rfl, hexecute⟩ := h.executePage hnamed hg hsingle hplans hmany hs houtage
    refine ⟨after, Run.bind_eq_ok.mpr ⟨_, after, Run.bind_eq_ok.mpr ⟨plan, _, ?_, hexecute⟩, rfl⟩⟩
    exact planning_eq_ok.mpr ⟨by rw [hs.permission]; exact hplan, rfl⟩
  | load node field =>
    obtain ⟨anchor, hanchor⟩ := Planner.anchor_of_relationship hplan
    have hcell : (Session.cell (node.movedTo fresh.requests.length)).get (fresh.openRequest permission) = .empty := by
      simp only [Session.cell, Node.movedTo_request, Session.cache_openRequest]
      rfl
    -- marking the result as being computed leaves the caches coherent
    have hmarked : ((Session.cell (node.movedTo fresh.requests.length)).set (fresh.openRequest permission)
        (((Session.cell (node.movedTo fresh.requests.length)).get (fresh.openRequest permission)).start
          (.ofQuery anchor.relationship plan.root)).2).Holds graph permission fresh.requests.length
        (ResultCache.Coherent engine.schema graph asks fresh.requests.length) := by
      rw [hcell]
      simp only [Session.cell, Node.movedTo_request]
      exact hs.setCache (hs.cache.set (RelationshipCache.all_empty.start _).2)
    obtain ⟨after, hexecute⟩ := h.execute hnamed hg hsingle hmarked houtage
    refine load_of_none ?_ hanchor (by rw [hcell]; rfl) hexecute
    rw [hs.permission, Node.movedTo_typeName, Node.movedTo_id]
    exact hplan

section Serving

variable {decls : List EntityDecl} {calls : List Call} {call : Call}
  (hschema : Schema.build decls = .ok engine.schema) (hgraph : session.store.graph.Built)
  (hloads : engine.LoadsShown session.requests.length calls (session.openRequest permission))
  (hkeys : (asked (engine.planner permission) session.store.graph calls).Distinct)
  (hanswer : (call, .ok result) ∈ (engine.serve session.requests.length calls (session.openRequest permission)).1)

include hschema hgraph hloads hkeys hanswer

/-- Every answer of a request is what the plan of the call shows. -/
theorem shows_of_serve : ∃ plan, call.plan (engine.planner permission) = .ok plan ∧
    plan.Shows (engine.planner permission) session.store.graph
      (asked (engine.planner permission) session.store.graph calls) session.requests.length result := by
  have hnamed := Schema.named_of_build hschema
  have hg := hgraph.wellFormed
  have hsingle := single_asked hkeys
  refine serve_induct (K := fun node => node.request = session.requests.length ∧
      session.store.graph.hasLabel node.id node.typeName = true)
    (Q := fun call result => ∃ plan, call.plan (engine.planner permission) = .ok plan ∧
      plan.Shows (engine.planner permission) session.store.graph
        (asked (engine.planner permission) session.store.graph calls) session.requests.length result)
    (fun _ _ ⟨_, _, hshows⟩ _ hnode => hshows.known hnamed hg hnode)
    (session.holds_openRequest permission (ResultCache.Coherent.empty _ _ _ _))
    (fun call hcall hknown => keeps_coherent hnamed hg hsingle hknown
      fun plan hplan typeName id relationship query hasks => ⟨call, hcall, plan, hplan, hasks⟩)
    (fun before node field after hsplit => .inr (hloads before node field after hsplit)) call result hanswer

/-- Whatever a request hands out, the answers to its calls and every result of a relationship that is attached to a node of
them, is what the same call and the plan of the sub-query for that node give in a new request. -/
theorem coherent_of_serve {fresh : Session} (hfresh : fresh.store.graph = session.store.graph)
    (houtage : fresh.store.outage = none) :
    (∃ after, engine.answer fresh.requests.length (call.movedTo fresh.requests.length) (fresh.openRequest permission) =
      .ok (result.movedTo fresh.requests.length) after) ∧
    ∃ plan, call.plan (engine.planner permission) = .ok plan ∧
      ∀ position other, result.At position other → ∀ node ∈ other.nodes, ∀ entry ∈ node.relationships,
        ∃ level sub, plan.root.levelAt position = some level ∧ level.below? entry.1 node.typeName = some sub ∧
          ∃ after, engine.execute fresh.requests.length (sub.planFor level.entityType node) Level.assemble
            (fresh.openRequest permission) = .ok (entry.2.movedTo fresh.requests.length) after := by
  have hnamed := Schema.named_of_build hschema
  have hg := hgraph.wellFormed
  have hsingle := single_asked hkeys
  obtain ⟨plan, hplan, hshows⟩ := shows_of_serve hschema hgraph hloads hkeys hanswer
  refine ⟨answer_openRequest hnamed hg hsingle hplan hshows hfresh houtage, plan, hplan,
    fun position other hat node hnode entry hentry => ?_⟩
  obtain ⟨level, sub, hlevel, hsub, hentryShows⟩ := hshows.entry_at hnamed hg hat hnode hentry
  exact ⟨level, sub, hlevel, hsub, hentryShows.execute hnamed hg hsingle
    (Session.coherent_openRequest engine.schema _ permission hfresh) houtage⟩

end Serving

end

/-! ## What was shown before -/

/-- The nodes next to a node of the type. -/
def nextField : Field := .named "next"

/-- A load of what a query attached to a node gives it from the cache, and a new request loads the same. -/
theorem coherent_of_serve_next : ∃ (result attached : Related Node) (node : Node) (after : Session),
    (ownedCall, .ok result) ∈
      (ownedEngine.serve 0 [ownedCall, .load node nextField] (ownedSession.openRequest (some owner))).1 ∧
    (.load node nextField, .ok attached) ∈
      (ownedEngine.serve 0 [ownedCall, .load node nextField] (ownedSession.openRequest (some owner))).1 ∧
    result.nodes = [node] ∧ node.relationships = [("next", attached)] ∧
    ownedEngine.answer 1 (.load (node.movedTo 1) nextField)
      ((ownedSession.openRequest none).openRequest (some owner)) = .ok (attached.movedTo 1) after := by
  obtain ⟨own, branch, hown⟩ := exists_ownedPlan
  obtain ⟨page, nested, node, middle, plan, hquery⟩ := exists_ownedAnswer
  have hplan : (ownedEngine.planner (some owner)).relationship node.typeName (.string node.id) nextField = .ok plan := by
    rw [hquery.typeName, hquery.id]
    exact hquery.planned
  -- the query attaches a result, and the load finds it
  have hready : ((Session.cell node).get middle).slot? (.ofQuery nextOwned plan.root) = some (.ready (.many nested)) := by
    obtain ⟨_, _, hcache⟩ := hquery.cached
    rw [hcache]
    simp [RelationshipCache.slot?]
  obtain ⟨after, hload, _⟩ := load_of_ready (hquery.permission ▸ hplan) hquery.anchor hready
  have hanswer : ownedEngine.answer 0 (.load node nextField) middle = .ok (.many nested) after := hload
  have hserve : (ownedEngine.serve 0 [ownedCall, .load node nextField] (ownedSession.openRequest (some owner))).1 =
      [(ownedCall, .ok (.many page)), (.load node nextField, .ok (.many nested))] := by
    rw [serve_ok hquery.answered, serve_ok hanswer, serve]
  have hloads : ownedEngine.LoadsShown 0 [ownedCall, .load node nextField] (ownedSession.openRequest (some owner)) := by
    intro before other field later hsplit
    cases before with
    | nil => cases hsplit
    | cons first before =>
      cases before with
      | nil =>
        cases hsplit
        exact ⟨ownedCall, .many page, mem_serve hquery.answered, [], _, .here _, by simp [Related.nodes, hquery.nodes]⟩
      | cons second before => simp at hsplit
  -- all that is asked is what is next to a node
  have hkeys : (asked (ownedEngine.planner (some owner)) ownedSession.store.graph
      [ownedCall, .load node nextField]).Distinct := by
    refine distinct_asked nextOwned fun call hcall asking hasking => ?_
    rcases List.mem_cons.mp hcall with rfl | hcall
    · rw [hown.planned] at hasking
      cases hasking
      exact hown.relationship ▸ .of_free hown.free hown.branches hown.options hown.parts
    · rw [List.mem_singleton.mp hcall] at hasking
      have hasking : (ownedEngine.planner (some owner)).relationship node.typeName (.string node.id) nextField =
          .ok asking := hasking
      rw [hplan] at hasking
      cases hasking
      exact .of_leaf hquery.anchor hquery.options hquery.parts
  have hmem : (Call.load node nextField, .ok (.many nested)) ∈
      (ownedEngine.serve 0 [ownedCall, .load node nextField] (ownedSession.openRequest (some owner))).1 := by
    rw [hserve]
    exact List.mem_cons_of_mem _ List.mem_cons_self
  have hgraph : (ownedSession.openRequest none).store.graph = ownedSession.store.graph := rfl
  obtain ⟨⟨last, hagain⟩, _⟩ := coherent_of_serve (rfl : Schema.build [ownedDecl] = .ok ownedEngine.schema)
    ownedSession_built hloads hkeys hmem hgraph rfl
  exact ⟨.many page, .many nested, node, last, mem_serve hquery.answered, hmem, hquery.nodes, hquery.relationships,
    hagain⟩

end Engine

end Renewing

end GraphQuery
