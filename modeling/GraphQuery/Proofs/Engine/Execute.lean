import GraphQuery.Engine.Basic
import GraphQuery.Proofs.Plan.Adequacy
import GraphQuery.Proofs.Run

/-!
# What executing a plan does

Executing a plan that was made for a request finds what the plan finds, counts one statement, and presents what was
found with the caches of the request (`Engine.executePage_eq_ok`, `Engine.executeRelated_eq_ok`). Neither the graph nor
the permission of a request ever changes.
-/

namespace GraphQuery

/-! ## Sessions -/

namespace Session

variable {session session' : Session} {request : Nat}

/-- The session after one more statement was run. -/
def counted (session : Session) : Session :=
  { session with store := { session.store with executed := session.store.executed + 1 } }

theorem execute_eq_ok [PropertyTable] {statement : Statement} {answer : Answer Row} :
    Session.execute statement session = .ok answer session' ↔
      session.store.outage = none ∧ session.store.graph.run statement = .ok answer ∧ session' = session.counted := by
  unfold Session.execute Store.execute counted
  cases houtage : session.store.outage with
  | some message => simp
  | none =>
    cases session.store.graph.run statement with
    | error e => simp
    | ok found =>
      simp only [EStateM.Result.ok.injEq, Except.ok.injEq, true_and]
      exact and_congr_right fun _ => by rw [houtage]; exact eq_comm

theorem assembling_eq_ok {α : Type} {assembly : Assembly α} {a : α} :
    Session.assembling request assembly session = .ok a session' ↔
      ∃ cache, assembly (session.cache request) = .ok a cache ∧ session' = session.setCache request cache := by
  unfold Session.assembling
  cases assembly (session.cache request) with
  | error e cache => simp
  | ok b cache =>
    simp only [EStateM.Result.ok.injEq]
    constructor
    · rintro ⟨rfl, rfl⟩
      exact ⟨cache, ⟨rfl, rfl⟩, rfl⟩
    · rintro ⟨_, ⟨rfl, rfl⟩, rfl⟩
      exact ⟨rfl, rfl⟩

@[simp] theorem counted_graph : session.counted.store.graph = session.store.graph := rfl

@[simp] theorem counted_outage : session.counted.store.outage = session.store.outage := rfl

@[simp] theorem counted_cache : session.counted.cache request = session.cache request := rfl

@[simp] theorem counted_permission : session.counted.permission request = session.permission request := rfl

@[simp] theorem setCache_store (cache : ResultCache) : (session.setCache request cache).store = session.store := rfl

/-- Permissions stay when caches change. -/
@[simp] theorem setCache_permission (cache : ResultCache) (other : Nat) :
    (session.setCache request cache).permission other = session.permission other := by
  unfold Session.permission Session.setCache
  simp only [List.getElem?_modify]
  by_cases h : request = other
  · cases session.requests[other]? <;> simp [h]
  · cases session.requests[other]? <;> simp [h]

end Session

/-! ## Executing -/

namespace Engine

variable {engine : Engine} {request : Nat} {session session' : Session} {plan : Plan}

theorem planning_eq_ok {α : Type} {make : Planner → Result α} {a : α} :
    engine.planning request make session = .ok a session' ↔
      make (engine.planner (session.permission request)) = .ok a ∧ session' = session := by
  unfold Engine.planning
  rw [Run.bind_eq_ok]
  constructor
  · rintro ⟨s, s₁, hget, h⟩
    obtain ⟨rfl, rfl⟩ := Run.get_eq_ok.mp hget
    obtain ⟨hmake, rfl⟩ := Run.ofExcept_eq_ok.mp h
    exact ⟨hmake, rfl⟩
  · rintro ⟨hmake, rfl⟩
    exact ⟨_, _, Run.get_eq_ok.mpr ⟨rfl, rfl⟩, Run.ofExcept_eq_ok.mpr ⟨hmake, rfl⟩⟩

variable [PropertyTable]

/-- A connection is planned under the permission of its request, and executed. -/
theorem connection_eq {entityType : String} {field : Field} : engine.connection request entityType field session =
    match (engine.planner (session.permission request)).connection entityType field with
    | .error e => .error e session
    | .ok plan => engine.execute request plan Level.assemblePage session := by
  unfold Engine.connection Engine.planning
  rw [bind_assoc]
  show ((MonadExcept.ofExcept _ : Run Session Plan) >>= _) session = _
  rw [Run.ofExcept_bind]
  dsimp only
  cases (engine.planner (session.permission request)).connection entityType field <;> rfl

theorem connection_eq_ok {entityType : String} {field : Field} {page : Page Node} :
    engine.connection request entityType field session = .ok page session' ↔
      ∃ plan, (engine.planner (session.permission request)).connection entityType field = .ok plan ∧
        engine.execute request plan Level.assemblePage session = .ok page session' := by
  rw [connection_eq]
  cases (engine.planner (session.permission request)).connection entityType field <;> simp

section Executing

variable {α : Type} {planner : Planner} {entity : EntityType}
  {assemble : Level → Schema → Block → Answer Row → Assembly α} {present : Answer Found → Assembly α}
  (hmakes : planner.Makes entity plan.root) (hschema : planner.schema = engine.schema) (hnamed : engine.schema.Named)
  (hg : session.store.graph.WellFormed)
  (hassemble : ∀ statement, plan.compile engine.schema = .ok statement → ∀ answer,
    assemble plan.root engine.schema statement.root answer = present (answer.map (plan.root.view statement.root)))

include hmakes hschema hnamed hg hassemble

/-- Executing a plan finds and presents, whatever presents what was found as assembling presents an answer. -/
theorem execute_eq : engine.execute request plan assemble session =
    match plan.compile engine.schema, session.store.outage with
    | .error e, _ => .error e session
    | .ok _, some message =>
      .error (.storeExecution (.reported message)) { session with store := { session.store with outage := none } }
    | .ok _, none =>
      match plan.find session.store.graph with
      | .error e => .error e session.counted
      | .ok found => Session.assembling request (present found) session.counted := by
  rw [Engine.execute, Run.ofExcept_bind]
  cases hcompile : plan.compile engine.schema with
  | error e => rfl
  | ok statement =>
    have hfind := Plan.view_run hmakes (hschema ▸ hnamed) hg (hschema.symm ▸ hcompile)
    simp only [hassemble statement hcompile]
    show EStateM.bind (Session.execute statement) _ session = _
    unfold EStateM.bind Session.execute Store.execute
    cases houtage : session.store.outage with
    | some message => rfl
    | none =>
      rw [← hfind]
      cases session.store.graph.run statement with
      | error e => simp only [Session.counted, houtage, Result.map_error]
      | ok answer => simp only [Session.counted, houtage, Result.map_ok]

theorem execute_eq_ok {a : α} : engine.execute request plan assemble session = .ok a session' ↔
    session.store.outage = none ∧ (∃ statement, plan.compile engine.schema = .ok statement) ∧
      ∃ found cache, plan.find session.store.graph = .ok found ∧
        present found (session.cache request) = .ok a cache ∧ session' = session.counted.setCache request cache := by
  rw [execute_eq hmakes hschema hnamed hg hassemble]
  cases plan.compile engine.schema with
  | error e => simp
  | ok statement =>
    cases session.store.outage with
    | some message => simp
    | none =>
      cases plan.find session.store.graph with
      | error e => simp
      | ok found => simp [Session.assembling_eq_ok]

end Executing

section Plans

variable {planner : Planner} {entity : EntityType}

/-- Executing a plan for the result of a relationship. -/
theorem executeRelated_eq_ok (hmakes : planner.Makes entity plan.root) (hschema : planner.schema = engine.schema)
    (hnamed : engine.schema.Named) (hg : session.store.graph.WellFormed) {result : Related Node} :
    engine.execute request plan Level.assemble session = .ok result session' ↔
    session.store.outage = none ∧ (∃ statement, plan.compile engine.schema = .ok statement) ∧
      ∃ found cache, plan.find session.store.graph = .ok found ∧
        plan.root.present engine.schema found (session.cache request) = .ok result cache ∧
        session' = session.counted.setCache request cache := by
  refine execute_eq_ok hmakes hschema hnamed hg fun statement hcompile answer => ?_
  rw [← hschema] at hcompile ⊢
  exact Plan.assemble_eq hmakes hcompile answer

/-- Executing the plan of a request for a page. -/
theorem executePage_eq (hplan : planner.Plans plan) (hschema : planner.schema = engine.schema)
    (hnamed : engine.schema.Named) (hg : session.store.graph.WellFormed) :
    engine.execute request plan Level.assemblePage session =
      match plan.compile engine.schema, session.store.outage with
      | .error e, _ => .error e session
      | .ok _, some message =>
        .error (.storeExecution (.reported message)) { session with store := { session.store with outage := none } }
      | .ok _, none =>
        match plan.find session.store.graph with
        | .error e => .error e session.counted
        | .ok found => Session.assembling request (plan.root.presentPage engine.schema found) session.counted := by
  obtain ⟨_, _, _, hmakes⟩ := hplan.makes
  refine execute_eq hmakes hschema hnamed hg fun statement hcompile answer => ?_
  rw [← hschema] at hcompile ⊢
  exact Plan.assemblePage_eq hmakes hcompile answer

theorem executePage_eq_ok (hplan : planner.Plans plan) (hschema : planner.schema = engine.schema)
    (hnamed : engine.schema.Named) (hg : session.store.graph.WellFormed) {page : Page Node} :
    engine.execute request plan Level.assemblePage session = .ok page session' ↔
    session.store.outage = none ∧ (∃ statement, plan.compile engine.schema = .ok statement) ∧
      ∃ found cache, plan.find session.store.graph = .ok found ∧
        plan.root.presentPage engine.schema found (session.cache request) = .ok page cache ∧
        session' = session.counted.setCache request cache := by
  obtain ⟨_, _, _, hmakes⟩ := hplan.makes
  refine execute_eq_ok hmakes hschema hnamed hg fun statement hcompile answer => ?_
  rw [← hschema] at hcompile ⊢
  exact Plan.assemblePage_eq hmakes hcompile answer

end Plans

end Engine

end GraphQuery
