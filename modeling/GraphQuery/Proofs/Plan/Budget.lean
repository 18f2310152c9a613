import GraphQuery.Pattern.KnownProperty
import GraphQuery.Proofs.Plan.Wanted

/-!
# Plans within their budget

Planning passes the room that is left for nesting down and refuses a page that is too large before it plans a level. So
the levels of a plan nest no deeper than the budget allows, each has a page that the budget allows, and its limit leaves
room for one row more, which 64 bits hold (`Planner.admits_of_level`). Beyond these checks a plan does not depend on the
budget: under a larger one the same levels are planned (`Planner.level_of_budget`).
-/

namespace GraphQuery

/-! ## Options of requests -/

/-- The options that requests come with: those with checked limits of 64 bits, and those for a single node. -/
inductive Options.Made : Options → Prop
  | built {filter : Filter} {order : Order} {after before : Option String} {first last : Option Int64}
    {countsTotal : Bool} {options : Options} (h : Options.build filter order after before (first.map Int64.toInt)
      (last.map Int64.toInt) countsTotal = .ok options) : Made options
  | single : Made .single

theorem Options.limit_succ_lt {name : String} {limit : Option Int64} {checked : Option Nat}
    (h : Options.limit name (limit.map Int64.toInt) = .ok checked) :
    ∀ size, checked = some size → size + 1 < UInt64.size := by
  rintro size rfl
  cases limit with
  | none => cases h
  | some n =>
    rw [Option.map_some, Options.limit] at h
    split at h
    · cases h
    · cases h
      have hlt := n.toInt_lt
      have hcount : UInt64.size = 18446744073709551616 := rfl
      omega

/-- A page is never so large that one row more would not be counted in 64 bits. -/
theorem Options.Made.pageSize_succ_lt {options : Options} (h : options.Made) {size : Nat}
    (hsize : options.pageSize = some size) : size + 1 < UInt64.size := by
  cases h with
  | built hbuild =>
    obtain ⟨_, front, back, hfront, hback, rfl⟩ := Options.build_eq_ok.mp hbuild
    rcases Option.or_eq_some_iff.mp hsize with hsize | ⟨_, hsize⟩
    · exact Options.limit_succ_lt hfront size hsize
    · exact Options.limit_succ_lt hback size hsize
  | single =>
    cases hsize
    decide

/-- A limit that is given as an argument is an integer of 64 bits. -/
theorem Field.int64_of_readLimit {field : Field} {name : String} {limit : Option Int}
    (h : field.readArgument name (readLimit name) = .ok limit) : ∃ n : Option Int64, limit = n.map Int64.toInt := by
  unfold readArgument at h
  split at h
  · cases h
    exact ⟨none, rfl⟩
  · obtain ⟨_, hread, rfl⟩ := Result.map_eq_ok.mp h
    unfold readLimit at hread
    split at hread
    · rename_i n _
      cases hread
      exact ⟨some n, rfl⟩
    · cases hread

theorem Field.made_of_options [PropertyTable] {field : Field} {schema : Schema} {entity : EntityType}
    {countsTotal : Bool} {options : Options} (h : field.options schema entity countsTotal = .ok options) :
    options.Made := by
  obtain ⟨_, _, _, _, _, _, _, _, _, _, hfirst, hlast, hbuild⟩ := Field.options_eq_ok.mp h
  obtain ⟨first, rfl⟩ := Field.int64_of_readLimit hfirst
  obtain ⟨last, rfl⟩ := Field.int64_of_readLimit hlast
  exact .built hbuild

theorem Planner.made_of_relationshipOptions [PropertyTable] {planner : Planner} {relationship : RelationshipDef}
    {target : EntityType} {field : Field} {others : List Field} {options : Options}
    (h : planner.relationshipOptions relationship target field others = .ok options) : options.Made := by
  unfold relationshipOptions at h
  split at h
  · cases h
  · split at h
    · exact Field.made_of_options h
    · cases h
      exact .single

/-! ## Depth -/

namespace Level

theorem mem_levels {level inner : Level} :
    inner ∈ level.levels ↔ inner = level ∨ ∃ branch ∈ level.branches, inner ∈ branch.sub.query.levels := by
  rw [levels_eq, List.mem_cons, List.mem_flatMap]

theorem depthOfSubs_le {n : Nat} (resultKey : String) : ∀ {subs : List (SubQuery Level)} (i : Nat),
    depthOfSubs subs ≤ n ↔ ∀ branch ∈ branchesOfSubs resultKey subs i, branch.sub.query.depth + 1 ≤ n
  | [], i => by simp [depthOfSubs, branchesOfSubs]
  | ⟨_, query, _⟩ :: rest, i => by
    rw [depthOfSubs, branchesOfSubs, List.forall_mem_cons, Nat.max_le, depthOfSubs_le resultKey (i + 1)]

theorem depthOfParts_le {n : Nat} : ∀ {parts : List (String × List (SubQuery Level))},
    depthOfParts parts ≤ n ↔ ∀ branch ∈ branchesOfParts parts, branch.sub.query.depth + 1 ≤ n
  | [] => by simp [depthOfParts, branchesOfParts]
  | (resultKey, subs) :: rest => by
    rw [depthOfParts, branchesOfParts, List.forall_mem_append, Nat.max_le, depthOfSubs_le resultKey 0, depthOfParts_le]

/-- A level is as deep as its branches, and one deeper. -/
theorem depth_le {level : Level} {n : Nat} :
    level.depth ≤ n ↔ ∀ branch ∈ level.branches, branch.sub.query.depth + 1 ≤ n := by
  obtain ⟨entityType, options, condition, limit, cardinality, parts⟩ := level
  rw [depth, depthOfParts_le]
  rfl

end Level

/-! ## The levels of a plan -/

/-- A level whose page a budget allows, with a limit of 64 bits that leaves room for one row beyond the page. -/
structure Budget.Admits (budget : Budget) (level : Level) : Prop where
  page : ∀ size, level.options.pageSize = some size → size ≤ budget.maxPageSize
  many : level.cardinality = .many → level.limit = level.options.pageSize.map (· + 1)
  one : level.cardinality = .one → level.limit = some 1
  fits : ∀ limit, level.limit = some limit → limit < UInt64.size

namespace Planner

variable {planner : Planner}

theorem pageSize_le {budget : Budget} {entity : EntityType} {options : Options}
    (h : budget.checkPage entity options = .ok ()) :
    ∀ size, options.pageSize = some size → size ≤ budget.maxPageSize := by
  intro size hsize
  rw [Budget.checkPage, hsize] at h
  simp only at h
  split at h
  · cases h
  · omega

theorem rowLimit_lt {options : Options} (hmade : options.Made) (cardinality : Cardinality) :
    ∀ limit, options.rowLimit cardinality = some limit → limit < UInt64.size := by
  intro limit hlimit
  cases cardinality with
  | one =>
    cases hlimit
    decide
  | many =>
    obtain ⟨size, hsize, rfl⟩ := Option.map_eq_some_iff.mp hlimit
    exact hmade.pageSize_succ_lt hsize

section Over

variable {nested other : FieldGroup → Result Level} {entity : EntityType} {selection : List Field} {options : Options}
  {cardinality : Cardinality} {level : Level}

theorem admits_of_levelOver (hmade : options.Made)
    (h : planner.levelOver nested entity selection options cardinality = .ok level) : planner.budget.Admits level := by
  obtain ⟨_, _, _, hpage, _, _, _, rfl⟩ := levelOver_eq_ok.mp h
  constructor
  case page => exact pageSize_le hpage
  case many =>
    rintro rfl
    rfl
  case one =>
    rintro rfl
    rfl
  case fits => exact rowLimit_lt hmade cardinality

end Over

/-- Levels are planned within the room that is left, each as the budget admits. -/
theorem admits_of_level [PropertyTable] : ∀ {room : Nat} {entity : EntityType} {selection : List Field}
    {options : Options} {cardinality : Cardinality} {level : Level}, options.Made →
      planner.level room entity selection options cardinality = .ok level →
        level.depth ≤ room ∧ ∀ inner ∈ level.levels, planner.budget.Admits inner
  | 0, _, _, _, _, level, hmade, h => by
    obtain ⟨_, _, groups, _, hsubs⟩ := subs_of_levelOver h
    have hnone : ∀ branch ∈ level.branches, False := by
      intro branch hbranch
      obtain ⟨_, _, _, hnested, _⟩ := hsubs branch hbranch
      cases hnested
    refine ⟨Level.depth_le.mpr fun branch hbranch => (hnone branch hbranch).elim, fun inner hinner => ?_⟩
    rcases Level.mem_levels.mp hinner with rfl | ⟨branch, hbranch, _⟩
    · exact admits_of_levelOver hmade h
    · exact (hnone branch hbranch).elim
  | room + 1, _, _, _, _, level, hmade, h => by
    obtain ⟨_, _, groups, _, hsubs⟩ := subs_of_levelOver h
    have hbelow : ∀ branch ∈ level.branches, branch.sub.query.depth ≤ room ∧
        ∀ inner ∈ branch.sub.query.levels, planner.budget.Admits inner := by
      intro branch hbranch
      obtain ⟨group, _, _, hnested, _⟩ := hsubs branch hbranch
      obtain ⟨target, _, hnested⟩ := Result.bind_eq_ok.mp hnested
      obtain ⟨options, hoptions, hnested⟩ := Result.bind_eq_ok.mp hnested
      exact admits_of_level (made_of_relationshipOptions hoptions) hnested
    refine ⟨Level.depth_le.mpr fun branch hbranch => Nat.succ_le_succ (hbelow branch hbranch).1, fun inner hinner => ?_⟩
    rcases Level.mem_levels.mp hinner with rfl | ⟨branch, hbranch, hinner⟩
    · exact admits_of_levelOver hmade h
    · exact (hbelow branch hbranch).2 inner hinner

/-! ## Larger budgets -/

section Larger

variable {budget : Budget} {entity : EntityType} {selection : List Field} {options : Options}
  {cardinality : Cardinality} {level : Level}

theorem checkPage_of_le {small : Budget} (hle : small.maxPageSize ≤ budget.maxPageSize)
    (h : small.checkPage entity options = .ok ()) : budget.checkPage entity options = .ok () := by
  unfold Budget.checkPage
  cases hsize : options.pageSize with
  | none => rfl
  | some size =>
    have hallowed := pageSize_le h size hsize
    exact if_neg (by omega)

/-- The filter of the permission and the groups of fields have nothing to do with the budget. -/
theorem levelOver_of_budget (hle : planner.budget.maxPageSize ≤ budget.maxPageSize)
    {nested other : FieldGroup → Result Level}
    (hnested : ∀ group level, nested group = .ok level → other group = .ok level)
    (h : planner.levelOver nested entity selection options cardinality = .ok level) :
    { planner with budget }.levelOver other entity selection options cardinality = .ok level := by
  obtain ⟨authorization, groups, parts, hpage, hauthorization, hgroups, hparts, hlevel⟩ :=
    levelOver_eq_ok.mp (levelOver_mono hnested h)
  exact levelOver_eq_ok.mpr
    ⟨authorization, groups, parts, checkPage_of_le hle hpage, hauthorization, hgroups, hparts, hlevel⟩

variable [PropertyTable]

/-- A level that is planned under a budget is planned in the same room under one with larger pages. -/
theorem level_withBudget (hle : planner.budget.maxPageSize ≤ budget.maxPageSize) :
    ∀ {room : Nat} {entity : EntityType} {selection : List Field} {options : Options} {cardinality : Cardinality}
      {level : Level}, planner.level room entity selection options cardinality = .ok level →
        { planner with budget }.level room entity selection options cardinality = .ok level
  | 0, _, _, _, _, _, h => levelOver_of_budget hle (fun _ _ hnested => by cases hnested) h
  | room + 1, _, _, _, _, _, h => by
    refine levelOver_of_budget hle (fun group level hnested => ?_) h
    obtain ⟨target, htarget, hnested⟩ := Result.bind_eq_ok.mp hnested
    obtain ⟨options, hoptions, hnested⟩ := Result.bind_eq_ok.mp hnested
    exact Result.bind_eq_ok.mpr ⟨target, htarget, Result.bind_eq_ok.mpr
      ⟨options, hoptions, level_withBudget hle hnested⟩⟩

/-- A level that is planned under a budget is planned under every larger one. -/
theorem level_of_budget (hdepth : planner.budget.maxDepth ≤ budget.maxDepth)
    (hpage : planner.budget.maxPageSize ≤ budget.maxPageSize)
    (h : planner.level planner.budget.maxDepth entity selection options cardinality = .ok level) :
    { planner with budget }.level budget.maxDepth entity selection options cardinality = .ok level :=
  level_mono hdepth (level_withBudget hpage h)

end Larger

end Planner

/-! ## Requests -/

/-- What can be planned: a query with options, a query whose options are the arguments of a field, or the load of one
relationship of a node. -/
inductive PlanRequest
  | query (entityType : String) (selection : List Field) (options : Options) (hmade : options.Made)
  | connection (entityType : String) (field : Field)
  | relationship (parentType : String) (parentId : Value) (field : Field)

namespace PlanRequest

/-- The plan of a request. -/
def plan [PropertyTable] (planner : Planner) : PlanRequest → Result Plan
  | query entityType selection options _ => planner.query entityType selection options
  | connection entityType field => planner.connection entityType field
  | relationship parentType parentId field => planner.relationship parentType parentId field

variable {planner : Planner} {request : PlanRequest} {plan : Plan}

section

variable [PropertyTable]

/-- A plan has its topmost level planned with all the room that the budget gives. -/
theorem root_of_plan (h : request.plan planner = .ok plan) : ∃ entity selection options cardinality,
    Options.Made options ∧
      planner.level planner.budget.maxDepth entity selection options cardinality = .ok plan.root := by
  cases request with
  | query entityType selection options hmade =>
    obtain ⟨entity, root, _, hroot, rfl⟩ := Planner.query_eq_ok h
    exact ⟨entity, selection, options, .many, hmade, hroot⟩
  | connection entityType field =>
    obtain ⟨entity, options, root, _, hoptions, hroot, rfl⟩ := Planner.connection_eq_ok h
    exact ⟨entity, _, options, .many, Field.made_of_options hoptions, hroot⟩
  | relationship parentType parentId field =>
    obtain ⟨_, relationship, target, options, root, _, _, _, hoptions, hroot, rfl⟩ := Planner.relationship_eq_ok h
    exact ⟨target, _, options, _, Planner.made_of_relationshipOptions hoptions, hroot⟩

theorem plan_of_budget {budget : Budget} (hdepth : planner.budget.maxDepth ≤ budget.maxDepth)
    (hpage : planner.budget.maxPageSize ≤ budget.maxPageSize) (h : request.plan planner = .ok plan) :
    request.plan { planner with budget } = .ok plan := by
  cases request with
  | query entityType selection options hmade =>
    obtain ⟨entity, root, hentity, hroot, rfl⟩ := Planner.query_eq_ok h
    exact Result.bind_eq_ok.mpr ⟨entity, hentity, Result.bind_eq_ok.mpr
      ⟨root, Planner.level_of_budget hdepth hpage hroot, rfl⟩⟩
  | connection entityType field =>
    obtain ⟨entity, options, root, hentity, hoptions, hroot, rfl⟩ := Planner.connection_eq_ok h
    exact Result.bind_eq_ok.mpr ⟨entity, hentity, Result.bind_eq_ok.mpr ⟨options, hoptions, Result.bind_eq_ok.mpr
      ⟨root, Planner.level_of_budget hdepth hpage hroot, rfl⟩⟩⟩
  | relationship parentType parentId field =>
    obtain ⟨parent, relationship, target, options, root, hparent, hrelationship, htarget, hoptions, hroot, rfl⟩ :=
      Planner.relationship_eq_ok h
    refine Result.bind_eq_ok.mpr ⟨parent, hparent, ?_⟩
    rw [hrelationship]
    exact Result.bind_eq_ok.mpr ⟨target, htarget, Result.bind_eq_ok.mpr ⟨options, hoptions, Result.bind_eq_ok.mpr
      ⟨root, Planner.level_of_budget hdepth hpage hroot, rfl⟩⟩⟩

/-- A plan keeps to its budget: it nests no deeper than allowed, no page at any of its levels is larger than allowed,
and the limit of a level is one row for a single node and else one row more than its page, if it has one, which 64 bits
hold. Every budget that is at least as large in both respects gives the same plan. -/
theorem within_budget (h : request.plan planner = .ok plan) :
    plan.root.depth ≤ planner.budget.maxDepth ∧ (∀ level ∈ plan.root.levels, planner.budget.Admits level) ∧
      ∀ budget, planner.budget.maxDepth ≤ budget.maxDepth → planner.budget.maxPageSize ≤ budget.maxPageSize →
        request.plan { planner with budget } = .ok plan := by
  obtain ⟨entity, selection, options, cardinality, hmade, hroot⟩ := root_of_plan h
  obtain ⟨hdepth, hlevels⟩ := Planner.admits_of_level hmade hroot
  exact ⟨hdepth, hlevels, fun budget hmore hpage => plan_of_budget hmore hpage h⟩

end

/-- Folders in folders, at most one below another and at most two on a page. -/
def shelf : Planner where
  schema := ⟨[("Folder", ⟨"Folder", false, [⟨"id", .id, false⟩],
    [⟨"children", "Folder", "Folder", "IN", .incoming, .many, none⟩], [], []⟩)]⟩
  access := ⟨.empty, 0⟩
  budget := ⟨1, 2⟩
  permission := none

/-- The first two folders, each with the first folder in it. -/
def firstFolders : PlanRequest :=
  .connection "Folder" ⟨"folders", none, [("first", .int 2)], none, [⟨"children", none, [("first", .int 1)], none, []⟩]⟩

theorem within_budget_folders : ∃ plan, firstFolders.plan shelf = .ok plan ∧ plan.root.depth ≤ 1 ∧
    (∀ level ∈ plan.root.levels, shelf.budget.Admits level) ∧ plan.root.levels.length = 2 ∧
    firstFolders.plan { shelf with budget := .unlimited } = .ok plan ∧
    ∃ e, firstFolders.plan { shelf with budget := ⟨0, 2⟩ } = .error e := by
  obtain ⟨plan, hplan, hlevels⟩ : ∃ plan, firstFolders.plan shelf = .ok plan ∧ plan.root.levels.length = 2 :=
    ⟨_, rfl, rfl⟩
  obtain ⟨hdepth, hadmits, hlarger⟩ := within_budget hplan
  exact ⟨plan, hplan, hdepth, hadmits, hlevels, hlarger .unlimited (by decide) (by decide), _, rfl⟩

end PlanRequest

end GraphQuery
