import GraphQuery.Proofs.Engine.Execute
import GraphQuery.Proofs.Page.Admitted

/-!
# The calls of a request

A request is a sequence of calls: queries, connections and loads of relationships of nodes. Every call, whether it
succeeds or fails, leaves the graph and the permission as they are and the caches of the request sound; what it gives is
sound for its plan (`Engine.keeps_answer`). So are all answers of a request (`Engine.sound_of_serve`).
-/

namespace GraphQuery

/-! ## Calls -/

/-- Options that were checked when they were built. -/
def Options.Checked (options : Options) : Prop :=
  ∃ filter order after before first last countsTotal,
    Options.build filter order after before first last countsTotal = .ok options

/-- A call of a request. -/
inductive Call where
  | query (entityType : String) (selection : List Field) (options : Options) (checked : options.Checked)
  | connection (entityType : String) (field : Field)
  /-- Loads a relationship of a node of an earlier result. -/
  | load (node : Node) (field : Field)

section

variable [PropertyTable]

/-- The plan of a call. -/
def Call.plan (planner : Planner) : Call → Result Plan
  | query entityType selection options _ => planner.query entityType selection options
  | connection entityType field => planner.connection entityType field
  | load node field => planner.relationship node.typeName (.string node.id) field

theorem Call.plans {planner : Planner} {plan : Plan} : ∀ {call : Call}, call.plan planner = .ok plan → planner.Plans plan
  | .query _ _ _ checked, h => by
    obtain ⟨_, _, _, _, _, _, _, hbuild⟩ := checked
    exact .query hbuild h
  | .connection _ _, h => .connection h
  | .load _ _, h => .relationship h

/-- Whether a call loads from nodes of a request only. -/
def Call.Within (request : Nat) : Call → Prop
  | load node _ => node.request = request
  | _ => True

/-- What several calls ask of the nodes of a graph. -/
def asked (planner : Planner) (graph : Graph) (calls : List Call) : Asking := fun typeName id relationship query =>
  ∃ call ∈ calls, ∃ plan, call.plan planner = .ok plan ∧ plan.Asks graph typeName id relationship query

/-- A single call asks the relationships of the nodes it returns, when nothing is wanted of the related nodes. -/
theorem asked_single {planner : Planner} {graph : Graph} {call : Call} {plan : Plan} {typeName id : String}
    {relationship : RelationshipDef} {query : Level} (hplan : call.plan planner = .ok plan) (hfree : plan.anchor = none)
    (hbelow : ∀ branch ∈ plan.root.branches, branch.sub.query.parts = [])
    (h : asked planner graph [call] typeName id relationship query) :
    ∃ branch ∈ plan.root.branches, branch.sub.relationship = relationship ∧ branch.sub.query = query := by
  obtain ⟨other, hother, own, hown, hasks⟩ := h
  rw [List.mem_singleton.mp hother, hplan] at hown
  cases hown
  rcases hasks with hasks | ⟨hanchor, _⟩
  · cases hasks with
    | own _ hbranch _ => exact ⟨_, hbranch, rfl, rfl⟩
    | nested hbranch hasks => exact absurd hasks (Level.not_asks (hbelow _ hbranch))
  · rw [hfree] at hanchor
    cases hanchor

/-- With one relationship of the nodes it returns, a single call asks that one only. -/
theorem asked_of_branch {planner : Planner} {graph : Graph} {call : Call} {plan : Plan} {branch : Branch}
    {typeName id : String} {relationship : RelationshipDef} {query : Level} (hplan : call.plan planner = .ok plan)
    (hfree : plan.anchor = none) (hbranches : plan.root.branches = [branch]) (hparts : branch.sub.query.parts = [])
    (h : asked planner graph [call] typeName id relationship query) :
    relationship = branch.sub.relationship ∧ query = branch.sub.query := by
  have hbelow : ∀ other ∈ plan.root.branches, other.sub.query.parts = [] := by
    rw [hbranches]
    exact List.forall_mem_singleton.mpr hparts
  obtain ⟨other, hother, rfl, rfl⟩ := asked_single hplan hfree hbelow h
  rw [hbranches] at hother
  rw [List.mem_singleton.mp hother]
  exact ⟨rfl, rfl⟩

namespace Engine

/-- The answer to a call. -/
def answer (engine : Engine) (request : Nat) : Call → Run Session (Related Node)
  | .query entityType selection options _ => return .many (← engine.query request entityType selection options)
  | .connection entityType field => return .many (← engine.connection request entityType field)
  | .load node field => engine.load request node field

/-- The answers to several calls one after the other. A call that fails does not end the request. -/
def serve (engine : Engine) (request : Nat) : List Call → Session → List (Call × Result (Related Node)) × Session
  | [], session => ([], session)
  | call :: rest, session =>
    match engine.answer request call session with
    | .ok result session =>
      ((call, .ok result) :: (serve engine request rest session).1, (serve engine request rest session).2)
    | .error e session =>
      ((call, .error e) :: (serve engine request rest session).1, (serve engine request rest session).2)

/-- A call that succeeds is answered, and the others after it. -/
theorem serve_ok {engine : Engine} {request : Nat} {call : Call} {session after : Session} {result : Related Node}
    (h : engine.answer request call session = .ok result after) (rest : List Call) :
    engine.serve request (call :: rest) session =
      ((call, .ok result) :: (engine.serve request rest after).1, (engine.serve request rest after).2) := by
  rw [serve, h]

theorem mem_serve {engine : Engine} {request : Nat} {call : Call} {session after : Session} {result : Related Node}
    {rest : List Call} (h : engine.answer request call session = .ok result after) :
    (call, .ok result) ∈ (engine.serve request (call :: rest) session).1 := by
  rw [serve_ok h]
  exact List.mem_cons_self

/-- The first of several calls ends in a session that keeps what the call keeps, from which the others are answered. -/
theorem serve_cons {engine : Engine} {request : Nat} {J : Session → Prop} {P : Related Node → Prop} {first : Call}
    (h : Run.Keeps J P (engine.answer request first)) {session : Session} (hs : J session) : ∃ outcome after, J after ∧
      (∀ result, outcome = .ok result → P result) ∧ ∀ rest, (engine.serve request (first :: rest) session).1 =
        (first, outcome) :: (engine.serve request rest after).1 := by
  obtain ⟨hok, herror⟩ := h session hs
  cases hanswer : engine.answer request first session with
  | ok answer after =>
    obtain ⟨hP, hafter⟩ := hok answer after hanswer
    refine ⟨.ok answer, after, hafter, fun result heq => ?_, fun rest => ?_⟩
    · cases heq
      exact hP
    · rw [serve, hanswer]
  | error e after =>
    refine ⟨.error e, after, herror e after hanswer, nofun, fun rest => ?_⟩
    rw [serve, hanswer]

/-- What every call keeps, the calls of a request keep. -/
theorem keeps_serve {engine : Engine} {request : Nat} {J : Session → Prop} : ∀ {calls : List Call}
    {session : Session}, J session → (∀ call ∈ calls, Run.Keeps J (fun _ => True) (engine.answer request call)) →
      J (engine.serve request calls session).2
  | [], session, hs, _ => by
    rw [serve]
    exact hs
  | call :: rest, session, hs, h => by
    obtain ⟨hcall, hrest⟩ := List.forall_mem_cons.mp h
    obtain ⟨hok, herror⟩ := hcall session hs
    rw [serve]
    cases hanswer : engine.answer request call session with
    | ok result after => exact keeps_serve (hok result after hanswer).2 hrest
    | error e after => exact keeps_serve (herror e after hanswer) hrest

/-- What every call gives, every answer of a request has. -/
theorem forall_serve {engine : Engine} {request : Nat} {J : Session → Prop} {Q : Call → Related Node → Prop} :
    ∀ {calls : List Call} {session : Session}, J session →
      (∀ call ∈ calls, Run.Keeps J (Q call) (engine.answer request call)) →
        ∀ call result, (call, .ok result) ∈ (engine.serve request calls session).1 → Q call result
  | [], session, _, _, call, result, hmem => by
    rw [serve] at hmem
    cases hmem
  | first :: rest, session, hs, hcalls, call, result, hmem => by
    obtain ⟨hfirst, hrest⟩ := List.forall_mem_cons.mp hcalls
    obtain ⟨outcome, after, hafter, hQ, hserve⟩ := serve_cons hfirst hs
    rw [hserve] at hmem
    rcases List.mem_cons.mp hmem with heq | hmem
    · cases heq
      exact hQ result rfl
    · exact forall_serve hafter hrest call result hmem

end Engine

end

/-! ## Sessions of a request -/

/-- A property of caches that says something of every entry, and nothing else of the entries. -/
structure ResultCache.Entrywise (I : ResultCache → Prop)
    (E : (typeName id : String) → CacheKey → Related Node → Prop) : Prop where
  entries : ∀ cache, I cache → cache.All E
  set : ∀ cache typeName id node, I cache → node.All (E typeName id) → I (cache.set typeName id node)

theorem ResultCache.sound_entrywise (admits : (entityType id : String) → Prop) (asks : Asking) :
    ResultCache.Entrywise (ResultCache.Sound admits asks) (SoundFor admits asks) :=
  ⟨fun _ h => h, fun _ _ _ _ h hnode => RequestCache.All.set h hnode⟩

namespace Session

/-- A request of a session stands on a graph and has a permission, and its caches have a property. -/
structure Holds (graph : Graph) (permission : Option Permission) (request : Nat) (I : ResultCache → Prop)
    (session : Session) : Prop where
  graph : session.store.graph = graph
  permission : session.permission request = permission
  cache : I (session.cache request)

variable {graph : Graph} {permission : Option Permission} {request : Nat} {I : ResultCache → Prop} {session : Session}

/-- The caches that are set are found, if the request is open; the caches of one that is not are empty. -/
theorem cache_setCache (session : Session) (request : Nat) (cache : ResultCache) :
    (session.setCache request cache).cache request =
      if session.requests[request]?.isSome then cache else session.cache request := by
  unfold Session.cache Session.setCache
  simp only [List.getElem?_modify]
  cases session.requests[request]? <;> simp

theorem Holds.setCache (h : session.Holds graph permission request I) {cache : ResultCache} (hcache : I cache) :
    (session.setCache request cache).Holds graph permission request I where
  graph := h.graph
  permission := by rw [setCache_permission, h.permission]
  cache := by
    rw [cache_setCache]
    split
    · exact hcache
    · exact h.cache

/-- A request that was just opened has nothing in its caches. -/
@[simp] theorem cache_openRequest (session : Session) (permission : Option Permission) :
    (session.openRequest permission).cache session.requests.length = .empty session.requests.length := by
  simp [Session.cache, openRequest]

/-- A request that was just opened has the permission it was opened with, and nothing in its caches. -/
theorem holds_openRequest (session : Session) (permission : Option Permission)
    (hempty : I (.empty session.requests.length)) :
    (session.openRequest permission).Holds session.store.graph permission session.requests.length I where
  graph := rfl
  permission := by simp [Session.permission, openRequest]
  cache := by
    rw [cache_openRequest]
    exact hempty

/-- Running a statement. -/
theorem keeps_execute [PropertyTable] (statement : Statement) :
    Run.Keeps (Holds graph permission request I) (fun answer => graph.run statement = .ok answer)
      (Session.execute statement) := by
  intro session hs
  refine ⟨fun answer session' h => ?_, fun e session' h => ?_⟩
  · obtain ⟨_, hrun, rfl⟩ := execute_eq_ok.mp h
    rw [hs.graph] at hrun
    exact ⟨hrun, hs.graph, hs.permission, hs.cache⟩
  · unfold Session.execute Store.execute at h
    cases houtage : session.store.outage with
    | some message =>
      rw [houtage] at h
      cases h
      exact ⟨hs.graph, hs.permission, hs.cache⟩
    | none =>
      rw [houtage] at h
      cases hrun : session.store.graph.run statement with
      | ok answer =>
        rw [hrun] at h
        cases h
      | error error =>
        rw [hrun] at h
        cases h
        exact ⟨hs.graph, hs.permission, hs.cache⟩

/-- Assembling with the caches of the request. -/
theorem keeps_assembling {α : Type} {P : α → Prop} {assembly : Assembly α} (h : Run.Keeps I P assembly) :
    Run.Keeps (Holds graph permission request I) P (Session.assembling request assembly) := by
  intro session hs
  obtain ⟨hok, herror⟩ := h (session.cache request) hs.cache
  unfold Session.assembling
  cases hrun : assembly (session.cache request) with
  | ok a cache =>
    obtain ⟨ha, hcache⟩ := hok a cache hrun
    refine ⟨fun b session' h => ?_, fun e session' h => ?_⟩
    · cases h
      exact ⟨ha, hs.setCache hcache⟩
    · cases h
  | error e cache =>
    refine ⟨fun b session' h => ?_, fun e' session' h => ?_⟩
    · cases h
    · cases h
      exact hs.setCache (herror e cache hrun)

end Session

/-! ## Answering -/

namespace Engine

variable {engine : Engine} {graph : Graph} {permission : Option Permission} {request : Nat} {I : ResultCache → Prop}
  {E : (typeName id : String) → CacheKey → Related Node → Prop} {asks : Asking} {plan : Plan}

theorem keeps_planning {α : Type} {J : Session → Prop} (hJ : ∀ session, J session → session.permission request = permission)
    (make : Planner → Result α) :
    Run.Keeps J (fun a => make (engine.planner permission) = .ok a) (engine.planning request make) := by
  unfold Engine.planning
  refine Run.keeps_get.bind fun session hs => ?_
  rw [hJ session hs]
  exact Run.keeps_ofExcept _

variable [PropertyTable]

/-- Executing a plan keeps what assembling the answers to its statement keeps. -/
theorem keeps_execute_of {α : Type} {P : α → Prop} {assemble : Level → Schema → Block → Answer Row → Assembly α}
    (h : ∀ statement answer, plan.compile engine.schema = .ok statement → graph.run statement = .ok answer →
      Run.Keeps I P (assemble plan.root engine.schema statement.root answer)) :
    Run.Keeps (Session.Holds graph permission request I) P (engine.execute request plan assemble) := by
  unfold Engine.execute
  exact (Run.keeps_ofExcept _).bind fun statement hcompile => (Session.keeps_execute statement).bind fun answer hrun =>
    Session.keeps_assembling (h statement answer hcompile hrun)

/-- Executing a plan presents what the plan finds. -/
theorem keeps_execute {α : Type} {P : α → Prop} {assemble : Level → Schema → Block → Answer Row → Assembly α}
    {present : Answer Found → Assembly α} (hnamed : engine.schema.Named) (hg : graph.WellFormed)
    (hplan : (engine.planner permission).Plans plan)
    (hassemble : ∀ statement, plan.compile engine.schema = .ok statement → ∀ answer,
      assemble plan.root engine.schema statement.root answer = present (answer.map (plan.root.view statement.root)))
    (hpresent : ∀ statement found, plan.compile engine.schema = .ok statement → plan.find graph = .ok found →
      Run.Keeps I P (present found)) :
    Run.Keeps (Session.Holds graph permission request I) P (engine.execute request plan assemble) := by
  refine keeps_execute_of fun statement answer hcompile hrun => ?_
  rw [hassemble statement hcompile]
  refine hpresent statement _ hcompile ?_
  have hfind := hplan.view_run hnamed hg hcompile
  rw [hrun] at hfind
  exact hfind.symm

/-- What planning a load gives: the plan of the load, anchored at the node, and the key of its result. -/
theorem planLoad_of_eq_ok {planner : Planner} (hnamed : planner.schema.Named) {node : Node} {field : Field}
    {key : CacheKey}
    (h : (do
      let plan ← planner.relationship node.typeName (.string node.id) field
      match plan.anchor with
      | some anchor => return (plan, CacheKey.ofQuery anchor.relationship plan.root)
      | none => throw (.planCompilation (.notARelationship field.name node.typeName)) : Result (Plan × CacheKey)) =
        .ok (plan, key)) :
    (Call.load node field).plan planner = .ok plan ∧ ∃ relationship,
      plan.anchor = some ⟨node.typeName, .string node.id, relationship⟩ ∧ key = .ofQuery relationship plan.root := by
  obtain ⟨made, hmade, h⟩ := Result.bind_eq_ok.mp h
  obtain ⟨parent, hparent, hrelationship⟩ := Result.bind_eq_ok.mp hmade
  split at hrelationship
  · cases hrelationship
  · rename_i relationship _
    obtain ⟨target, _, hrelationship⟩ := Result.bind_eq_ok.mp hrelationship
    obtain ⟨options, _, hrelationship⟩ := Result.bind_eq_ok.mp hrelationship
    obtain ⟨root, _, hrelationship⟩ := Result.bind_eq_ok.mp hrelationship
    cases hrelationship
    cases h
    exact ⟨hmade, relationship, by rw [hnamed.entity hparent], rfl⟩

/-- A call keeps a property of the session and its answer has a property of its plan, when this is so of executing the plan
for a page, and of finding or computing the result of a load in the cache of its node. -/
theorem keeps_answer_by (hnamed : engine.schema.Named) {J : Session → Prop}
    (hJ : ∀ session, J session → session.permission request = permission) {P : Plan → Related Node → Prop} {call : Call}
    (hpage : ∀ plan, call.plan (engine.planner permission) = .ok plan → plan.anchor = none →
      Run.Keeps J (fun page => P plan (.many page)) (engine.execute request plan Level.assemblePage))
    (hload : ∀ node field plan relationship, call = .load node field →
      call.plan (engine.planner permission) = .ok plan →
      plan.anchor = some ⟨node.typeName, .string node.id, relationship⟩ →
        Run.Keeps J (P plan) ((Session.cell node).getOrCompute (.ofQuery relationship plan.root)
          (engine.execute request plan Level.assemble))) :
    Run.Keeps J (fun result => ∃ plan, call.plan (engine.planner permission) = .ok plan ∧ P plan result)
      (engine.answer request call) := by
  cases call with
  | query entityType selection options checked =>
    refine Run.Keeps.bind (P := fun page => ∃ plan,
      (engine.planner permission).query entityType selection options = .ok plan ∧ P plan (.many page)) ?_
      fun page hpage => Run.keeps_pure hpage
    refine (keeps_planning hJ _).bind fun plan hplan => ?_
    have hanchor : plan.anchor = none := Planner.anchor_of_query hplan
    exact (hpage plan hplan hanchor).imp fun page hpage => ⟨plan, hplan, hpage⟩
  | connection entityType field =>
    refine Run.Keeps.bind (P := fun page => ∃ plan, (engine.planner permission).connection entityType field = .ok plan ∧
        P plan (.many page)) ?_
      fun page hpage => Run.keeps_pure hpage
    refine (keeps_planning hJ _).bind fun plan hplan => ?_
    have hanchor : plan.anchor = none := Planner.anchor_of_connection hplan
    exact (hpage plan hplan hanchor).imp fun page hpage => ⟨plan, hplan, hpage⟩
  | load node field =>
    refine (keeps_planning hJ _).bind fun ⟨plan, key⟩ hmade => ?_
    obtain ⟨hplan, relationship, hanchor, rfl⟩ := planLoad_of_eq_ok hnamed hmade
    exact (hload node field plan relationship rfl hplan hanchor).imp fun result hresult => ⟨plan, hplan, hresult⟩

/-- A call keeps a property of every entry of the caches and its answer has a property of its plan, when this is so of
executing the plan for a page, and of executing the plan of a load and keeping its result. -/
theorem keeps_answer_of (hnamed : engine.schema.Named) (hI : ResultCache.Entrywise I E)
    {P : Plan → Related Node → Prop} {call : Call} (hcall : call.Within request)
    (hpage : ∀ plan, call.plan (engine.planner permission) = .ok plan → plan.anchor = none →
      Run.Keeps (Session.Holds graph permission request I) (fun page => P plan (.many page))
        (engine.execute request plan Level.assemblePage))
    (hload : ∀ node field plan relationship, call = .load node field →
      call.plan (engine.planner permission) = .ok plan →
      plan.anchor = some ⟨node.typeName, .string node.id, relationship⟩ →
        Run.Keeps (Session.Holds graph permission request I)
          (E node.typeName node.id (.ofQuery relationship plan.root)) (engine.execute request plan Level.assemble) ∧
        ∀ result, E node.typeName node.id (.ofQuery relationship plan.root) result → P plan result) :
    Run.Keeps (Session.Holds graph permission request I)
      (fun result => ∃ plan, call.plan (engine.planner permission) = .ok plan ∧ P plan result)
      (engine.answer request call) := by
  refine keeps_answer_by hnamed (fun _ hs => hs.permission) hpage fun node field plan relationship heq hplan hanchor => ?_
  obtain ⟨hcompute, hresult⟩ := hload node field plan relationship heq hplan hanchor
  subst heq
  have hnode : node.request = request := hcall
  subst hnode
  exact (Cell.keeps_getOrCompute (fun session hs => hI.entries _ hs.cache node.typeName node.id)
    (fun session cache hs hcache => hs.setCache (hI.set _ _ _ _ hs.cache hcache)) hcompute).imp hresult

section Answers

variable {admits : (entityType id : String) → Prop} (hnamed : engine.schema.Named) (hg : graph.WellFormed)
  (hun : asks.Unambiguous)

include hnamed hg hun

/-- A call keeps the caches sound and its answer is sound for its plan. -/
theorem keeps_answer {call : Call} (hcall : call.Within request)
    (hasks : ∀ plan, call.plan (engine.planner permission) = .ok plan →
      ∀ typeName id relationship query, plan.Asks graph typeName id relationship query →
        asks typeName id relationship query) :
    Run.Keeps
      (Session.Holds graph permission request (ResultCache.Sound ((engine.planner permission).Admits graph) asks))
      (fun result => ∃ plan, call.plan (engine.planner permission) = .ok plan ∧
        result.Sound ((engine.planner permission).Admits graph) plan.root.typeAt)
      (engine.answer request call) := by
  refine keeps_answer_of hnamed (ResultCache.sound_entrywise _ asks) hcall (fun plan hplan _ => ?_)
    fun node field plan relationship _ hplan hanchor => ?_
  · have hplans := Call.plans hplan
    obtain ⟨_, _, _, hmakes⟩ := hplans.makes
    exact keeps_execute hnamed hg hplans (fun statement hcompile answer => Plan.assemblePage_eq hmakes hcompile answer)
      fun _ found _ hfind => hplans.keeps_presentPage hnamed hg hun (hasks plan hplan) hfind
  · have hplans := Call.plans hplan
    obtain ⟨_, _, _, hmakes⟩ := hplans.makes
    have hown : asks node.typeName node.id relationship plan.root := hasks plan hplan _ _ _ _ (.inr ⟨hanchor, rfl⟩)
    refine ⟨?_, fun result hsound => hsound relationship plan.root hown rfl⟩
    refine (keeps_execute hnamed hg hplans
      (fun statement hcompile answer => Plan.assemble_eq hmakes hcompile answer)
      fun _ found _ hfind => hplans.keeps_present hnamed hg hun (hasks plan hplan) hfind).imp fun result hsound => ?_
    exact hun.soundFor hown hsound

/-- The answers to several calls are sound for their plans. -/
theorem sound_serve {calls : List Call} {session : Session}
    (hs : session.Holds graph permission request (ResultCache.Sound ((engine.planner permission).Admits graph) asks))
    (hcalls : ∀ call ∈ calls, call.Within request)
    (hasks : ∀ typeName id relationship query,
      asked (engine.planner permission) graph calls typeName id relationship query → asks typeName id relationship query) :
    ∀ call result, (call, .ok result) ∈ (engine.serve request calls session).1 →
      ∃ plan, call.plan (engine.planner permission) = .ok plan ∧
        result.Sound ((engine.planner permission).Admits graph) plan.root.typeAt :=
  forall_serve hs fun call hcall => keeps_answer hnamed hg hun (hcalls call hcall)
    fun plan hplan typeName id relationship query h => hasks typeName id relationship query ⟨call, hcall, plan, hplan, h⟩

end Answers

/-- The answers to the calls of a request that was just opened are sound for their plans, when the keys of the caches
tell apart what the calls ask. -/
theorem sound_of_serve {decls : List EntityDecl} {session : Session} {calls : List Call}
    (hschema : Schema.build decls = .ok engine.schema) (hgraph : session.store.graph.Built)
    (hcalls : ∀ call ∈ calls, call.Within session.requests.length)
    (hun : (asked (engine.planner permission) session.store.graph calls).Unambiguous) {call : Call}
    {result : Related Node}
    (h : (call, .ok result) ∈ (engine.serve session.requests.length calls (session.openRequest permission)).1) :
    ∃ plan, call.plan (engine.planner permission) = .ok plan ∧
      result.Sound ((engine.planner permission).Admits session.store.graph) plan.root.typeAt :=
  sound_serve (Schema.named_of_build hschema) hgraph.wellFormed hun
    (session.holds_openRequest permission (RequestCache.all_empty _)) hcalls (fun _ _ _ _ hasked => hasked) call result h

end Engine

end GraphQuery
