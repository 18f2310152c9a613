import GraphQuery.Page.Assemble
import GraphQuery.Proofs.Cursor.Seek
import GraphQuery.Proofs.Graph.Selection

/-!
# What a level finds

`Level.find` is the meaning of a level of a plan without statements, names and parameters: from given candidates it
keeps those its filter is true of, counts them, pages those beyond its cursors, and finds for each the nodes of its
sub-queries among its neighbours. `Level.present` makes a node of what was found, by the same steps as an answer of a
store is assembled.

`Level.view` reads a row of an answer as something found, through the block that gave the row.
-/

namespace GraphQuery

/-- What is found for a level. -/
structure Found where
  id : String
  labels : List String
  properties : Table Value
  /-- The values of the sort keys, by name. -/
  keys : Table Value
  /-- What is found for the sub-queries that apply, by result key and index. -/
  related : List ((String × Nat) × Answer Found)

/-- Applies a function to every row. -/
def Answer.map {ρ τ : Type} (f : ρ → τ) (answer : Answer ρ) : Answer τ := ⟨answer.totalCount, answer.rows.map f⟩

/-- Whether a sub-query applies to nodes with these labels. -/
def appliesToLabels (onlyOnTypes : Option (List String)) (labels : List String) : Bool :=
  match onlyOnTypes with
  | none => true
  | some types => labels.any fun label => types.contains label

/-! ## Finding -/

/-- The rows of a page, of all rows beyond the cursors. -/
def Options.pageRows {α : Type} (options : Options) (limit : Option Nat) (rows : List (α × List Value)) :
    List (α × List Value) :=
  let directions := options.order.keys.map fun key =>
    if options.last.isSome then key.direction.reverse else key.direction
  let sorted := sortBy (fun a b => compareKeys directions a.2 b.2 = .lt) rows
  let cut :=
    match limit with
    | some limit => sorted.take limit
    | none => sorted
  if options.last.isSome then cut.reverse else cut

/-- The values of the sort keys of a node, by name. -/
def Order.keyTable (order : Order) (values : List Value) : Table Value := Table.ofList (order.names.zip values)

namespace Level

variable [PropertyTable]

/-- The candidates that the filter of a level is true of. -/
def passing (level : Level) (graph : Graph) (candidates : List String) : Result (List String) :=
  candidates.filterM fun id => do return (← level.condition.verdict graph id) = some true

/-- The nodes of the page of a level, of those its filter is true of. -/
def paged (level : Level) (graph : Graph) (passing : List String) : List (String × List Value) :=
  level.options.pageRows level.limit
    ((passing.filter fun id => level.options.beyond graph id = some true).map (level.options.order.keyed graph))

mutual

/-- What a level finds among candidates. -/
def find (graph : Graph) : Level → (candidates : List String) → Result (Answer Found)
  | ⟨entityType, options, condition, limit, cardinality, parts⟩, candidates => do
    let level : Level := ⟨entityType, options, condition, limit, cardinality, parts⟩
    let passing ← level.passing graph candidates
    let rows ← (level.paged graph passing).mapM fun (id, values) => do
      let node ← graph.node id
      let related ← findParts graph id node.labels parts
      return ⟨id, node.labels, node.properties, options.order.keyTable values, related⟩
    return ⟨if options.countsTotal then some passing.length else none, rows⟩

/-- What the sub-queries of several parts find for a node. -/
def findParts (graph : Graph) (id : String) (labels : List String) :
    List (String × List (SubQuery Level)) → Result (List ((String × Nat) × Answer Found))
  | [] => .ok []
  | (resultKey, subs) :: rest => do
    let first ← findSubs graph id labels resultKey subs 0
    return first ++ (← findParts graph id labels rest)

/-- What the sub-queries under one result key find for a node, counted from the given index. -/
def findSubs (graph : Graph) (id : String) (labels : List String) (resultKey : String) :
    List (SubQuery Level) → Nat → Result (List ((String × Nat) × Answer Found))
  | [], _ => .ok []
  | ⟨relationship, query, onlyOnTypes⟩ :: rest, i => do
    if appliesToLabels onlyOnTypes labels then
      let answer ← query.find graph
        (graph.neighbours id relationship.label relationship.direction query.entityType)
      return ((resultKey, i), answer) :: (← findSubs graph id labels resultKey rest (i + 1))
    else findSubs graph id labels resultKey rest (i + 1)

end

/-! ## Reading rows -/

mutual

/-- A row of the answer to a block, as something found. -/
def view : Level → Block → Row → Found
  | ⟨_, _, _, _, _, parts⟩, block, row => ⟨row.id, row.labels, row.properties, row.keys, viewParts block row parts⟩

/-- The answers of the children for several parts. -/
def viewParts (block : Block) (row : Row) :
    List (String × List (SubQuery Level)) → List ((String × Nat) × Answer Found)
  | [] => []
  | (resultKey, subs) :: rest => viewSubs block row resultKey subs 0 ++ viewParts block row rest

/-- The answers of the children for the sub-queries under one result key, counted from the given index. -/
def viewSubs (block : Block) (row : Row) (resultKey : String) :
    List (SubQuery Level) → Nat → List ((String × Nat) × Answer Found)
  | [], _ => []
  | ⟨_, query, _⟩ :: rest, i =>
    match block.child? resultKey i with
    | some child =>
      match List.lookup child.var row.children with
      | some answer =>
        ((resultKey, i), answer.map fun row => query.view child row) :: viewSubs block row resultKey rest (i + 1)
      | none => viewSubs block row resultKey rest (i + 1)
    | none => viewSubs block row resultKey rest (i + 1)

end

end Level

/-! ## Presenting -/

/-- The concrete type of what was found. -/
def Found.concreteType (found : Found) (schema : Schema) : Result EntityType :=
  match schema.concreteType? found.labels with
  | some entity => .ok entity
  | none => .error (.storeExecution (.noConcreteType found.id))

/-- The item of what was found, given how it becomes a node. -/
def Options.presentItem (options : Options) (nodeOf : Found → Assembly Node) (found : Found) : Assembly (Item Node) := do
  return ⟨Cursor.encode options.order found.keys, ← nodeOf found⟩

/-- The page of what was found, given how it becomes nodes. -/
def Options.presentPage (options : Options) (nodeOf : Found → Assembly Node) (answer : Answer Found) :
    Assembly (Page Node) := do
  let (rows, hasNext, hasPrevious) := options.slice answer.rows
  let items ← rows.mapM (options.presentItem nodeOf)
  return ⟨items, answer.totalCount,
    ⟨hasNext, hasPrevious, items.head?.map (·.cursor), items.getLast?.map (·.cursor)⟩⟩

namespace Level

/-- The result of what was found for a level, given how it becomes nodes. -/
def presentRelated (level : Level) (nodeOf : Found → Assembly Node) (answer : Answer Found) : Assembly (Related Node) :=
  match level.cardinality with
  | .one =>
    match answer.rows with
    | [] => return .one none
    | found :: _ => return .one (some (← nodeOf found))
  | .many => return .many (← level.options.presentPage nodeOf answer)

mutual

/-- The node of what was found for a level. -/
def presentNode (schema : Schema) : Level → Found → Assembly Node
  | ⟨_, _, _, _, _, parts⟩, found => do
    let entity ← MonadExcept.ofExcept (found.concreteType schema)
    modify fun cache => cache.see entity.name found.id
    let relationships ← presentParts schema entity.name found parts
    return ⟨found.id, entity.name, found.properties, relationships, (← get).request⟩

/-- The results of the sub-queries under all result keys that apply to a node. -/
def presentParts (schema : Schema) (typeName : String) (found : Found) :
    List (String × List (SubQuery Level)) → Assembly (List (String × Related Node))
  | [] => return []
  | (resultKey, subs) :: rest => do
    match ← presentFirst schema typeName found resultKey subs 0 with
    | some result => return (resultKey, result) :: (← presentParts schema typeName found rest)
    | none => presentParts schema typeName found rest

/-- The result of the first sub-query that applies to a node, counted from the given index. -/
def presentFirst (schema : Schema) (typeName : String) (found : Found) (resultKey : String) :
    List (SubQuery Level) → Nat → Assembly (Option (Related Node))
  | [], _ => return none
  | ⟨relationship, query, onlyOnTypes⟩ :: rest, i => do
    if SubQuery.appliesTo ⟨relationship, (), onlyOnTypes⟩ typeName then
      let answer := (List.lookup (resultKey, i) found.related).getD .empty
      let result ← query.presentRelated (fun found => query.presentNode schema found) answer
      return some (← keep typeName found.id (.ofQuery relationship query) result)
    else presentFirst schema typeName found resultKey rest (i + 1)

end

/-- The page of what was found for a level. -/
def presentPage (level : Level) (schema : Schema) (answer : Answer Found) : Assembly (Page Node) :=
  level.options.presentPage (level.presentNode schema) answer

/-- The result of what was found for a level. -/
def present (level : Level) (schema : Schema) (answer : Answer Found) : Assembly (Related Node) :=
  level.presentRelated (level.presentNode schema) answer

end Level

/-! ## Branch by branch -/

namespace Level

variable {graph : Graph} {id : String} {labels : List String}

section

variable [PropertyTable]

/-- What several branches find for a node. -/
def findBranches (graph : Graph) (id : String) (labels : List String) :
    List Branch → Result (List ((String × Nat) × Answer Found))
  | [] => .ok []
  | branch :: rest => do
    if appliesToLabels branch.sub.onlyOnTypes labels then
      let answer ← branch.sub.query.find graph
        (graph.neighbours id branch.sub.relationship.label branch.sub.relationship.direction branch.sub.query.entityType)
      return ((branch.resultKey, branch.index), answer) :: (← findBranches graph id labels rest)
    else findBranches graph id labels rest

theorem findBranches_append : ∀ first rest : List Branch, findBranches graph id labels (first ++ rest) =
    (do return (← findBranches graph id labels first) ++ (← findBranches graph id labels rest))
  | [], rest => by
    rw [List.nil_append, findBranches]
    cases findBranches graph id labels rest <;> rfl
  | branch :: first, rest => by
    rw [List.cons_append, findBranches, findBranches, findBranches_append first rest]
    split
    · cases branch.sub.query.find graph (graph.neighbours id branch.sub.relationship.label
        branch.sub.relationship.direction branch.sub.query.entityType) with
      | error e => rfl
      | ok answer =>
        cases findBranches graph id labels first with
        | error e => rfl
        | ok found => cases findBranches graph id labels rest <;> rfl
    · rfl

theorem findSubs_eq (resultKey : String) : ∀ (subs : List (SubQuery Level)) (i : Nat),
    findSubs graph id labels resultKey subs i = findBranches graph id labels (branchesOfSubs resultKey subs i)
  | [], i => by rw [findSubs, branchesOfSubs, findBranches]
  | ⟨relationship, query, onlyOnTypes⟩ :: rest, i => by
    rw [findSubs, branchesOfSubs, findBranches, findSubs_eq resultKey rest]

theorem findParts_eq : ∀ parts : List (String × List (SubQuery Level)),
    findParts graph id labels parts = findBranches graph id labels (branchesOfParts parts)
  | [] => by rw [findParts, branchesOfParts, findBranches]
  | (resultKey, subs) :: rest => by
    rw [findParts, branchesOfParts, findBranches_append, findSubs_eq, findParts_eq rest]

/-- What is found for one node of a level. -/
def findRow (level : Level) (graph : Graph) (keyed : String × List Value) : Result Found := do
  let node ← graph.node keyed.1
  let related ← findBranches graph keyed.1 node.labels level.branches
  return ⟨keyed.1, node.labels, node.properties, level.options.order.keyTable keyed.2, related⟩

theorem find_eq (level : Level) (candidates : List String) : level.find graph candidates = (do
    let passing ← level.passing graph candidates
    let rows ← (level.paged graph passing).mapM (level.findRow graph)
    return ⟨if level.options.countsTotal then some passing.length else none, rows⟩) := by
  obtain ⟨entityType, options, condition, limit, cardinality, parts⟩ := level
  rw [find]
  simp only [findParts_eq]
  rfl

end

/-! ## What is found -/

section Finding

variable {level : Level} {candidates passing : List String}

section

variable [PropertyTable]

/-- What a level finds: a row for each node of its page, of those its filter is true of. -/
theorem find_eq_ok {answer : Answer Found} : level.find graph candidates = .ok answer ↔
    ∃ passing, level.passing graph candidates = .ok passing ∧
      answer.totalCount = (if level.options.countsTotal then some passing.length else none) ∧
      List.Forall₂ (fun keyed found => level.findRow graph keyed = .ok found) (level.paged graph passing) answer.rows := by
  rw [Level.find_eq, Result.bind_eq_ok]
  refine exists_congr fun passing => and_congr_right fun _ => ?_
  rw [Result.bind_eq_ok]
  constructor
  · rintro ⟨rows, hrows, h⟩
    cases h
    exact ⟨rfl, Result.mapM_eq_ok.mp hrows⟩
  · rintro ⟨htotal, hrows⟩
    refine ⟨answer.rows, Result.mapM_eq_ok.mpr hrows, ?_⟩
    rw [← htotal]
    rfl

/-- What is found for a node has its identifier and the values of its sort keys. -/
theorem findRow_eq_ok {keyed : String × List Value} {found : Found} (h : level.findRow graph keyed = .ok found) :
    found.id = keyed.1 ∧ found.keys = level.options.order.keyTable keyed.2 := by
  obtain ⟨_, _, h⟩ := Result.bind_eq_ok.mp h
  obtain ⟨_, _, h⟩ := Result.bind_eq_ok.mp h
  cases h
  exact ⟨rfl, rfl⟩

theorem passing_sublist (h : level.passing graph candidates = .ok passing) : passing.Sublist candidates := by
  obtain ⟨_, rfl⟩ := Result.filterM_eq_ok h
  exact List.filter_sublist

/-- The filter of a level holds on what passes it. -/
theorem holds_of_passing (h : level.passing graph candidates = .ok passing) : ∀ id ∈ passing,
    level.condition.Holds graph id := by
  obtain ⟨_, rfl⟩ := Result.filterM_eq_ok h
  intro id hid
  have htrue := Result.isTrue_eq_true.mp (List.mem_filter.mp hid).2
  obtain ⟨verdict, hverdict, heq⟩ := Result.bind_eq_ok.mp htrue
  have hsome : verdict = some true := by
    simpa using heq
  rw [Filter.Holds, hverdict, hsome]

end

/-- The rows of a page are some of those beyond the cursors. -/
theorem mem_of_pageRows {α : Type} {options : Options} {limit : Option Nat} {rows : List (α × List Value)}
    {row : α × List Value} (h : row ∈ options.pageRows limit rows) : row ∈ rows := by
  unfold Options.pageRows at h
  have hcut : ∀ {limit : Option Nat} {xs : List (α × List Value)},
      row ∈ (match limit with | some limit => xs.take limit | none => xs) → row ∈ xs := by
    intro limit xs hrow
    cases limit with
    | none => exact hrow
    | some n => exact List.mem_of_mem_take hrow
  split at h
  · exact mem_sortBy.mp (hcut (List.mem_reverse.mp h))
  · exact mem_sortBy.mp (hcut h)

theorem mem_of_paged {keyed : String × List Value} (h : keyed ∈ level.paged graph passing) : keyed.1 ∈ passing := by
  obtain ⟨id, hid, rfl⟩ := List.mem_map.mp (mem_of_pageRows h)
  exact (List.mem_filter.mp hid).1

/-- A row of a page has the values that the order of the level reads of its node. -/
theorem values_of_paged {keyed : String × List Value} (h : keyed ∈ level.paged graph passing) :
    keyed.2 = level.options.order.values graph keyed.1 := by
  obtain ⟨id, _, rfl⟩ := List.mem_map.mp (mem_of_pageRows h)
  rfl

/-- What is found for a branch is found by its level among the neighbours. -/
theorem of_mem_findBranches [PropertyTable] : ∀ {branches : List Branch}
    {related : List ((String × Nat) × Answer Found)}, findBranches graph id labels branches = .ok related → ∀ entry ∈
    related, ∃ branch ∈ branches,
      entry.1 = (branch.resultKey, branch.index) ∧ branch.sub.query.find graph
        (graph.neighbours id branch.sub.relationship.label branch.sub.relationship.direction
          branch.sub.query.entityType) = .ok entry.2
  | [], related, h, entry, hentry => by
    rw [findBranches] at h
    cases h
    cases hentry
  | branch :: rest, related, h, entry, hentry => by
    rw [findBranches] at h
    split at h
    · obtain ⟨answer, hanswer, h⟩ := Result.bind_eq_ok.mp h
      obtain ⟨others, hothers, h⟩ := Result.bind_eq_ok.mp h
      cases h
      rcases List.mem_cons.mp hentry with rfl | hentry
      · exact ⟨branch, List.mem_cons_self, rfl, hanswer⟩
      · obtain ⟨other, hother, hfound⟩ := of_mem_findBranches hothers entry hentry
        exact ⟨other, List.mem_cons_of_mem branch hother, hfound⟩
    · obtain ⟨other, hother, hfound⟩ := of_mem_findBranches h entry hentry
      exact ⟨other, List.mem_cons_of_mem branch hother, hfound⟩

end Finding

/-! ## Views -/

/-- The answer of the child for a branch. -/
def viewBranch (block : Block) (row : Row) (branch : Branch) : Option ((String × Nat) × Answer Found) := do
  let child ← block.child? branch.resultKey branch.index
  let answer ← List.lookup child.var row.children
  return ((branch.resultKey, branch.index), answer.map (branch.sub.query.view child))

theorem viewSubs_eq (block : Block) (row : Row) (resultKey : String) : ∀ (subs : List (SubQuery Level)) (i : Nat),
    viewSubs block row resultKey subs i = (branchesOfSubs resultKey subs i).filterMap (viewBranch block row)
  | [], i => by rw [viewSubs, branchesOfSubs, List.filterMap_nil]
  | ⟨relationship, query, onlyOnTypes⟩ :: rest, i => by
    rw [viewSubs, branchesOfSubs, viewSubs_eq block row resultKey rest, List.filterMap_cons, viewBranch]
    cases block.child? resultKey i with
    | none => rfl
    | some child =>
      simp only [Option.bind_eq_bind, Option.bind_some]
      cases List.lookup child.var row.children <;> rfl

theorem viewParts_eq (block : Block) (row : Row) : ∀ parts : List (String × List (SubQuery Level)),
    viewParts block row parts = (branchesOfParts parts).filterMap (viewBranch block row)
  | [] => by rw [viewParts, branchesOfParts, List.filterMap_nil]
  | (resultKey, subs) :: rest => by
    rw [viewParts, branchesOfParts, List.filterMap_append, viewSubs_eq, viewParts_eq block row rest]

theorem view_eq (level : Level) (block : Block) (row : Row) : level.view block row =
    ⟨row.id, row.labels, row.properties, row.keys, level.branches.filterMap (viewBranch block row)⟩ := by
  obtain ⟨entityType, options, condition, limit, cardinality, parts⟩ := level
  rw [view, viewParts_eq]
  rfl

end Level

end GraphQuery
