import GraphQuery.Proofs.Engine.Reloads
import GraphQuery.Proofs.Page.Ready

/-!
# Loads of what was queried run no statement

A connection runs one statement, and keeps whatever it attaches to its nodes in the caches of the request
(`Engine.files_connection`). No later call loses what is ready there (`Engine.keeps_ready`). A load of a field of a node
of the connection is planned like the field was, so it asks for the same key, and it is answered from the cache with the
very result that is attached (`Engine.load_of_connection`). A call whose plan does not compile runs no statement at all.
-/

namespace GraphQuery

namespace Engine

/-! ## Calls lose nothing -/

section

variable [PropertyTable]

section Keeping

variable {engine : Engine} {graph : Graph} {permission : Option Permission} {request : Nat} {typeName id : String}
  {key : CacheKey} {result : Related Node}

/-- A call loses no result that is ready in the caches of its request. -/
theorem keeps_ready (hnamed : engine.schema.Named) {call : Call} (hcall : call.Within request) :
    Run.Keeps (Session.Holds graph permission request (ResultCache.Ready · typeName id key result)) (fun _ => True)
      (engine.answer request call) := by
  have hassembles := assembles_ready engine.schema typeName id key result
  refine (keeps_answer_by (P := fun _ _ => True) hnamed (fun _ hs => hs.permission) (fun plan _ _ => ?_)
    fun node field plan relationship heq _ _ => ?_).imp fun _ _ => trivial
  · exact keeps_execute_of fun statement answer _ _ => hassembles.keeps_page (fun _ _ => trivial) plan.root statement.root
  · subst heq
    have hnode : node.request = request := hcall
    subst hnode
    refine Cell.keeps_getOrCompute_apart
      (fun session cache hs hsame => hs.setCache (hs.cache.set fun htype hid => ?_))
      (fun session hs hmissing later cache hlater hsame => hlater.setCache (hlater.cache.set fun htype hid => ?_))
      (keeps_execute_of fun statement answer _ _ =>
        hassembles.keeps_related (fun _ _ => trivial) plan.root statement.root)
    · subst htype hid
      rw [hsame]
      exact hs.cache
    · subst htype hid
      have hne : key ≠ .ofQuery relationship plan.root := by
        rintro rfl
        exact hmissing result hs.cache
      rw [hsame key hne]
      exact hlater.cache

end Keeping

/-! ## Calls that do not compile -/

section Refusing

variable {engine : Engine} {request : Nat} {session : Session}

/-- A plan that does not compile is refused before a statement is run. -/
theorem keeps_execute_of_refused {α : Type} {plan : Plan}
    {assemble : Level → Schema → Block → Answer Row → Assembly α} {J : Session → Prop} {P : α → Prop}
    (h : ∀ statement, plan.compile engine.schema ≠ .ok statement) :
    Run.Keeps J P (engine.execute request plan assemble) := by
  unfold Engine.execute
  exact (Run.keeps_ofExcept _).bind fun statement hcompile => absurd hcompile (h statement)

/-- A call without a plan that compiles leaves the store as it is, and is answered at most from the cache of a node. -/
theorem store_of_refused (hnamed : engine.schema.Named) {call : Call}
    (h : ∀ plan statement, call.plan (engine.planner (session.permission request)) = .ok plan →
      plan.compile engine.schema ≠ .ok statement) :
    (engine.serve request [call] session).2.store = session.store ∧
      ∀ result, (call, .ok result) ∈ (engine.serve request [call] session).1 →
        ∃ node field, call = .load node field := by
  have hkeeps : Run.Keeps (fun later : Session =>
        later.store = session.store ∧ later.permission request = session.permission request)
      (fun _ => ∃ node field, call = .load node field) (engine.answer request call) := by
    refine (keeps_answer_by (P := fun _ _ => ∃ node field, call = .load node field) hnamed (fun _ hs => hs.2)
      (fun plan hplan _ => keeps_execute_of_refused fun statement => h plan statement hplan)
      fun node field plan relationship heq hplan _ => ?_).imp fun _ ⟨_, _, hload⟩ => hload
    refine (Cell.keeps_getOrCompute (P := fun _ _ => True) (fun _ _ _ _ _ => trivial) (fun later cache hs _ => ?_)
      (keeps_execute_of_refused fun statement => h plan statement hplan)).imp fun _ _ => ⟨node, field, heq⟩
    exact ⟨hs.1, (Session.setCache_permission ..).trans hs.2⟩
  obtain ⟨hok, herror⟩ := hkeeps session ⟨rfl, rfl⟩
  rw [serve]
  cases hanswer : engine.answer request call session with
  | ok result after =>
    obtain ⟨hload, hstore, _⟩ := hok result after hanswer
    exact ⟨hstore, fun _ _ => hload⟩
  | error e after =>
    refine ⟨(herror e after hanswer).1, fun result hresult => ?_⟩
    cases List.mem_singleton.mp hresult

end Refusing

/-! ## Loads from the cache -/

section Connecting

variable {engine : Engine} {permission : Option Permission} {session after : Session} {decls : List EntityDecl}
  {entityType : String} {field : Field} {page : Page Node}

/-- A connection in a new request runs one statement, shows what its plan does, and files whatever it attaches. -/
theorem files_connection (hnamed : engine.schema.Named) (hg : session.store.graph.WellFormed)
    (hsingle : (asked (engine.planner permission) session.store.graph [.connection entityType field]).Single)
    (h : engine.connection session.requests.length entityType field (session.openRequest permission) = .ok page after) :
    after.store.executed = session.store.executed + 1 ∧
    ∃ plan, (engine.planner permission).connection entityType field = .ok plan ∧
      plan.Shows (engine.planner permission) session.store.graph
        (asked (engine.planner permission) session.store.graph [.connection entityType field])
        session.requests.length (.many page) ∧
      after.Holds session.store.graph permission session.requests.length
        (fun cache => plan.root.Filed cache (.many page)) := by
  have hopen := session.holds_openRequest permission (ResultCache.Coherent.empty engine.schema session.store.graph
    (asked (engine.planner permission) session.store.graph [.connection entityType field]) session.requests.length)
  have hasks : ∀ plan, (engine.planner permission).connection entityType field = .ok plan →
      ∀ typeName id relationship query, plan.Asks session.store.graph typeName id relationship query →
        asked (engine.planner permission) session.store.graph [.connection entityType field] typeName id relationship
          query :=
    fun plan hplan _ _ _ _ hasks => ⟨_, List.mem_cons_self, plan, hplan, hasks⟩
  obtain ⟨plan, hplan, hexecute⟩ := connection_eq_ok.mp h
  rw [hopen.permission] at hplan
  have hplans : (engine.planner permission).Plans plan := .connection hplan
  obtain ⟨hshows, hcoherent⟩ := (keeps_shows hnamed hg hsingle hplans (hasks plan hplan)
    (Planner.anchor_of_connection hplan) _ hopen).1 page after hexecute
  obtain ⟨_, ⟨statement, hcompile⟩, found, cache, hfind, hpresent, rfl⟩ :=
    (executePage_eq_ok hplans rfl hnamed (hopen.graph.symm ▸ hg)).mp hexecute
  refine ⟨rfl, plan, hplan, hshows, rfl, hcoherent.permission, ?_⟩
  obtain ⟨candidates, hcandidates, hroot⟩ := Result.bind_eq_ok.mp hfind
  obtain ⟨_, hlabels⟩ := Plan.candidates_eq_ok hg hcandidates
  rw [Session.cache_openRequest] at hpresent
  obtain ⟨_, _, hfiled⟩ := Level.advances_presentPage
    (hshows.planned.advances_presentNode hnamed hsingle hlabels hroot) _ page cache
    (.empty engine.schema session.store.graph _ session.requests.length) hpresent
  rw [Session.cache_setCache, if_pos]
  · exact hfiled
  · simp [Session.counted, Session.openRequest]

/-- A connection in a new request runs one statement. Whatever it attaches to a node at any position, under the result
key of the only field there that is wanted under it, a load of that field of the node gives at any later time in the
request, without the store. A call without a plan that compiles runs no statement. -/
theorem load_of_connection (hschema : Schema.build decls = .ok engine.schema) (hgraph : session.store.graph.Built)
    (hkeys : (asked (engine.planner permission) session.store.graph [.connection entityType field]).Distinct)
    (h : engine.connection session.requests.length entityType field (session.openRequest permission) = .ok page after) :
    after.store.executed = session.store.executed + 1 ∧
    (∀ position other node, (Related.many page).At position other → node ∈ other.nodes →
      ∃ entity inner fields, engine.schema.entity entityType = .ok entity ∧
        (engine.planner permission).wantedAt entity (Field.nodeSelection [field] .many) position =
          .ok (some (inner, fields)) ∧
        ∀ wanted relationship concrete, wanted.typeCondition = none →
          fields.filter (·.resultKey = wanted.resultKey) = [wanted] →
          inner.relationship? wanted.name = some relationship →
          engine.schema.entity node.typeName = .ok concrete →
          concrete.relationship? wanted.name = some relationship →
            ∃ attached, node.relationship? wanted.resultKey = some attached ∧
              ∀ calls : List Call, (∀ call ∈ calls, call.Within session.requests.length) →
                ∃ last, engine.load session.requests.length node wanted
                    (engine.serve session.requests.length calls after).2 = .ok attached last ∧
                  last.store = (engine.serve session.requests.length calls after).2.store) ∧
    ∀ (current : Session) (request : Nat) (call : Call),
      (∀ plan statement, call.plan (engine.planner (current.permission request)) = .ok plan →
        plan.compile engine.schema ≠ .ok statement) →
      (engine.serve request [call] current).2.store = current.store ∧
        ∀ result, (call, .ok result) ∈ (engine.serve request [call] current).1 →
          ∃ node wanted, call = .load node wanted := by
  have hnamed := Schema.named_of_build hschema
  have hg := hgraph.wellFormed
  obtain ⟨hexecuted, plan, hplan, hshows, hafter⟩ := files_connection hnamed hg (single_asked hkeys) h
  refine ⟨hexecuted, fun position other node hat hnode => ?_, fun current request call => store_of_refused hnamed⟩
  obtain ⟨entity, root, _, hentity, _, hroot, rfl⟩ := Planner.connection_eq_ok hplan
  obtain ⟨level, among, hlevel, hplanned, _, hother⟩ := hshows.level_at hnamed hg hat
  obtain ⟨less, inner, fields, _, _, hless, hwanted, hmade⟩ := Planner.level_at hroot hlevel
  refine ⟨entity, inner, fields, hentity, hwanted, fun wanted relationship concrete hcondition honly hrelationship
    hconcrete hdeclared => ?_⟩
  obtain ⟨query, hbelow, hload⟩ :=
    Planner.below_field hmade hless honly hcondition hrelationship hconcrete hdeclared (.string node.id)
  rw [hnamed.entity hconcrete] at hload
  obtain ⟨_, hmakes⟩ := hplanned.makes
  obtain ⟨_, hattaches⟩ := Level.attaches_of_shown hnamed hmakes.heads.sorted hother node hnode
  obtain ⟨attached, hattached, _⟩ := hplanned.shows_load hnamed hattaches hbelow hload
  refine ⟨attached, hattached, fun calls hcalls => ?_⟩
  -- the key of the load is the one under which the attached result is filed
  have hready : after.Holds session.store.graph permission session.requests.length
      (ResultCache.Ready · node.typeName node.id (.ofQuery relationship query) attached) :=
    ⟨hafter.graph, hafter.permission,
      hafter.cache position other hat level hlevel node hnode _ (Table.mem_of_lookup hattached) _ hbelow⟩
  have hlater := keeps_serve hready fun call hcall => keeps_ready hnamed (hcalls call hcall)
  refine load_of_ready (hlater.permission ▸ hload) rfl ?_
  rw [Session.cell, hattaches.belongs]
  exact hlater.cache

end Connecting

end

/-- A call for the nodes of the type alone. -/
def aloneCall : Call := .connection "A" (.named "as")

/-- After the connection and another one, which run one statement each, the owner of the first node loads what is next
to it without a third. -/
theorem load_of_connection_next : ∃ (page : Page Node) (attached : Related Node) (node : Node) (after last : Session),
    ownedEngine.connection 0 "A" nextOfNodes (ownedSession.openRequest (some owner)) = .ok page after ∧
      after.store.executed = 1 ∧ page.nodes = [node] ∧ node.relationship? "next" = some attached ∧
      attached.nodes.map (·.id) = ["a"] ∧
      ownedEngine.load 0 node nextField (ownedEngine.serve 0 [aloneCall] after).2 = .ok attached last ∧
      last.store.executed = 2 := by
  obtain ⟨page, after, node, shown, hconnection, hnodes, htype, hshown, hids, hcounted⟩ : ∃ page after node shown,
      ownedEngine.connection 0 "A" nextOfNodes (ownedSession.openRequest (some owner)) = .ok page after ∧
        page.nodes = [node] ∧ node.typeName = "A" ∧ node.relationship? "next" = some shown ∧
        shown.nodes.map (·.id) = ["a"] ∧ (ownedEngine.serve 0 [aloneCall] after).2.store.executed = 2 :=
    ⟨_, _, _, _, rfl, rfl, rfl, rfl, rfl, rfl⟩
  obtain ⟨hexecuted, hloads, _⟩ := load_of_connection (rfl : Schema.build [ownedDecl] = .ok ownedEngine.schema)
    ownedSession_built nextCall_distinct hconnection
  obtain ⟨entity, inner, fields, hentity, hwanted, hload⟩ :=
    hloads [] (.many page) node (.here _) (hnodes ▸ List.mem_cons_self : node ∈ page.nodes)
  cases hwanted
  rw [htype] at hload
  obtain ⟨attached, hattached, hlater⟩ := hload nextField nextOwned entity rfl rfl (by cases hentity; rfl) hentity
    (by cases hentity; rfl)
  have hsame : node.relationship? "next" = some attached := hattached
  rw [hshown] at hsame
  cases hsame
  obtain ⟨last, hlast, hstore⟩ := hlater [aloneCall] (List.forall_mem_singleton.mpr trivial)
  exact ⟨page, shown, node, after, last, hconnection, hexecuted, hnodes, hshown, hids, hlast,
    (congrArg Store.executed hstore).trans hcounted⟩

end Engine

end GraphQuery
