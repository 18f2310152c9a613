import GraphQuery.Page.Assemble
import GraphQuery.Pattern.KnownProperty
import GraphQuery.Proofs.Graph.Selection
import GraphQuery.Proofs.Plan.Made
import GraphQuery.Proofs.Plan.Names
import GraphQuery.Proofs.Run

/-!
# The part of a list that a page shows

`Plan.Runs` are the blocks that the statement of a plan runs, at the top or below a row, each with its level. For every
such block of many nodes, `Plan.Runs.page_slice` says what the page of its answer shows: of the nodes that satisfy the
condition, in the requested order, those beyond the cursors, and of these the first or the last so many. One row more is
fetched than is shown (`Options.slice_cutOff`), so the page knows whether it is all.
-/

namespace GraphQuery

/-! ## Cutting off twice -/

namespace Options

variable {α β : Type} {options : Options}

theorem slice_map (f : α → β) (rows : List α) :
    options.slice (rows.map f) = ((options.slice rows).1.map f, (options.slice rows).2) := by
  unfold slice
  cases options.first with
  | some n => simp
  | none => cases options.last <;> simp

theorem slice_first {n : Nat} (h : options.first = some n) (rows : List α) :
    options.slice rows = (rows.take n, decide (n < rows.length), options.after.isSome) := by
  simp [slice, h]

theorem slice_last {n : Nat} (hf : options.first = none) (h : options.last = some n) (rows : List α) :
    options.slice rows = (rows.drop (rows.length - n), options.before.isSome, decide (n < rows.length)) := by
  simp [slice, hf, h]

theorem slice_all (hf : options.first = none) (hl : options.last = none) (rows : List α) :
    options.slice rows = (rows, options.before.isSome, options.after.isSome) := by
  simp [slice, hf, hl]

/-- Of the rows that are fetched, the page shows the front or the back of all, and the row beyond it tells whether that
is all. -/
theorem slice_cutOff (hexclusive : options.Exclusive) (whole : List α) :
    options.slice (cutOff (options.rowLimit .many) options.last.isSome whole) =
      match options.first, options.last with
      | some n, _ => (whole.take n, decide (n < whole.length), options.after.isSome)
      | none, some n => (whole.drop (whole.length - n), options.before.isSome, decide (n < whole.length))
      | none, none => (whole, options.before.isSome, options.after.isSome) := by
  cases hf : options.first with
  | some n =>
    have hl : options.last = none := by
      rcases hexclusive with h | h
      · rw [hf] at h
        cases h
      · exact h
    have hcut : cutOff (options.rowLimit .many) options.last.isSome whole = whole.take (n + 1) := by
      simp [cutOff, rowLimit, pageSize, hf, hl]
    rw [slice_first hf, hcut, List.take_take, List.length_take]
    have hmin : min n (n + 1) = n := by omega
    have hlt : n < min (n + 1) whole.length ↔ n < whole.length := by omega
    simp only [hmin, hlt]
  | none =>
    cases hl : options.last with
    | none =>
      rw [slice_all hf hl]
      simp [cutOff, rowLimit, pageSize, hf, hl]
    | some n =>
      have hcut : cutOff (options.rowLimit .many) (some n).isSome whole = whole.drop (whole.length - (n + 1)) := by
        simp [cutOff, rowLimit, pageSize, hf, hl]
      rw [slice_last hf hl, hcut, List.drop_drop, List.length_drop]
      have hsum : whole.length - (n + 1) + (whole.length - (whole.length - (n + 1)) - n) = whole.length - n := by omega
      have hlt : n < whole.length - (whole.length - (n + 1)) ↔ n < whole.length := by omega
      simp only [hsum, hlt]

/-! ## Pages -/

variable {nodeOf : Row → Assembly Node} {answer : Answer Row} {cache cache' : ResultCache} {page : Page Node}

/-- The item of a row. -/
def item (options : Options) (nodeOf : Row → Assembly Node) (row : Row) : Assembly (Item Node) := do
  return ⟨Cursor.encode options.order row.keys, ← nodeOf row⟩

/-- What assembling a page does. -/
theorem page_eq_ok : options.page nodeOf answer cache = .ok page cache' ↔
    ∃ items, Run.Steps (options.item nodeOf) (options.slice answer.rows).1 cache items cache' ∧
      page = ⟨items, answer.totalCount, ⟨(options.slice answer.rows).2.1, (options.slice answer.rows).2.2,
        items.head?.map (·.cursor), items.getLast?.map (·.cursor)⟩⟩ := by
  unfold Options.page
  obtain ⟨rows, hasNext, hasPrevious⟩ := options.slice answer.rows
  rw [Run.bind_eq_ok]
  constructor
  · rintro ⟨items, s, hitems, h⟩
    obtain ⟨rfl, rfl⟩ := Run.pure_eq_ok.mp h
    exact ⟨items, Run.mapM_eq_ok.mp hitems, rfl⟩
  · rintro ⟨items, hitems, rfl⟩
    exact ⟨items, cache', Run.mapM_eq_ok.mpr hitems, rfl⟩

theorem item_eq_ok {row : Row} {item : Item Node} :
    options.item nodeOf row cache = .ok item cache' ↔
      ∃ node, nodeOf row cache = .ok node cache' ∧ item = ⟨Cursor.encode options.order row.keys, node⟩ := by
  unfold Options.item
  rw [Run.bind_eq_ok]
  constructor
  · rintro ⟨node, s, hnode, h⟩
    obtain ⟨rfl, rfl⟩ := Run.pure_eq_ok.mp h
    exact ⟨node, hnode, rfl⟩
  · rintro ⟨node, hnode, rfl⟩
    exact ⟨node, cache', hnode, rfl⟩

end Options

/-- A node has the identifier of its row. -/
theorem Level.assembleNode_id {schema : Schema} {level : Level} {block : Block} {row : Row}
    {cache cache' : ResultCache} {node : Node} (h : level.assembleNode schema block row cache = .ok node cache') :
    node.id = row.id := by
  obtain ⟨_, _, _, _, _, parts⟩ := level
  rw [Level.assembleNode] at h
  obtain ⟨entity, s₁, _, h⟩ := Run.bind_eq_ok.mp h
  obtain ⟨_, s₂, _, h⟩ := Run.bind_eq_ok.mp h
  obtain ⟨relationships, s₃, _, h⟩ := Run.bind_eq_ok.mp h
  obtain ⟨_, s₄, _, h⟩ := Run.bind_eq_ok.mp h
  obtain ⟨rfl, _⟩ := Run.pure_eq_ok.mp h
  rfl

/-- The nodes of a page are those of the rows it shows. -/
theorem Level.ids_of_assemblePage {schema : Schema} {level : Level} {block : Block} {answer : Answer Row}
    {cache cache' : ResultCache} {page : Page Node}
    (h : level.assemblePage schema block answer cache = .ok page cache') :
    page.ids = (level.options.slice (answer.rows.map (·.id))).1 ∧ page.totalCount = answer.totalCount ∧
      page.info.hasNext = (level.options.slice (answer.rows.map (·.id))).2.1 ∧
      page.info.hasPrevious = (level.options.slice (answer.rows.map (·.id))).2.2 := by
  obtain ⟨items, hsteps, rfl⟩ := Options.page_eq_ok.mp h
  rw [Options.slice_map]
  refine ⟨?_, rfl, rfl, rfl⟩
  have hids : List.Forall₂ (fun (row : Row) (item : Item Node) => row.id = item.node.id)
      (level.options.slice answer.rows).1 items := by
    refine hsteps.forall₂ fun row s item s' hitem => ?_
    obtain ⟨node, hnode, rfl⟩ := Options.item_eq_ok.mp hitem
    exact (Level.assembleNode_id hnode).symm
  show (items.map (·.node)).map (·.id) = _
  rw [List.map_map]
  exact (Run.map_eq_map hids).symm

/-! ## The blocks of a statement -/

/-- The blocks that the statement of a plan runs, each with its level and the nodes bound around it: the topmost one,
and below a node of a block the children for its sub-queries. -/
inductive Plan.Runs (plan : Plan) (statement : Statement) : Level → Block → Scope → Prop
  | root : Runs plan statement plan.root statement.root []
  | child {level : Level} {block child : Block} {scope : Scope} {resultKey : String} {subs : List (SubQuery Level)}
      {i : Nat} {sub : SubQuery Level} (id : String) : Runs plan statement level block scope →
      level.part? resultKey = some subs → subs[i]? = some sub → block.child? resultKey i = some child →
      Runs plan statement sub.query child ((block.var, id) :: scope)

section Runs

variable {planner : Planner} {plan : Plan} {statement : Statement} {level : Level} {block : Block} {scope : Scope}

variable [PropertyTable]

/-- Every block that runs is compiled from its level, and the level was made by planning. -/
theorem Plan.Runs.compiled (hplan : planner.Plans plan) (hcompile : plan.compile planner.schema = .ok statement)
    (h : plan.Runs statement level block scope) :
    ∃ entity source resultKey subQuery onlyOnTypes b b', planner.Makes entity level ∧
      level.compile planner.schema source resultKey subQuery onlyOnTypes b = .ok (block, b') := by
  induction h with
  | root =>
    obtain ⟨_, entity, _, hmakes⟩ := hplan.makes
    obtain ⟨source, b, b', _, hroot, _⟩ := Plan.compile_eq_ok hcompile
    exact ⟨entity, source, "", 0, none, b, b', hmakes, hroot⟩
  | child id _ hpart hsub hchild ih =>
    obtain ⟨entity, source, key, index, onlyOnTypes, b, b', hmakes, hlevel⟩ := ih
    obtain ⟨_, _, _, children, _, _, _, hchildren, rfl⟩ := Level.compile_eq_ok.mp hlevel
    have hbranch := Level.find_branch hpart hsub
    obtain ⟨found, hfound, _, _, hcompiled⟩ := Branch.find_child hchildren.forall₂ hbranch
    have heq : found = _ := Option.some.inj (hfound.symm.trans hchild)
    subst heq
    cases hmakes with
    | mk _ _ htarget hnested =>
      have hmem := List.mem_of_find?_eq_some hbranch
      obtain ⟨target, htarget⟩ := htarget _ hmem
      exact ⟨target, _, _, _, _, _, _, hnested _ hmem target htarget, hcompiled⟩

/-- Whether a node is a candidate of a block and satisfies its condition. -/
def Evaluation.Matches (e : Evaluation) (block : Block) (scope : Scope) (id : String) : Prop :=
  ∃ candidates, e.candidates block scope = .ok candidates ∧ id ∈ candidates ∧
    e.truth block.condition ((block.var, id) :: scope) = .ok (some true)

/-- The order by identifier compares texts. -/
theorem Evaluation.Matches.ofKind_byId {e : Evaluation} (hg : e.graph.WellFormed) :
    ∀ key ∈ Order.byId.keys, ∃ kind, ∀ id, e.Matches block scope id → Value.OfKind kind (key.path.value e.graph id) := by
  intro key hkey
  obtain rfl := List.mem_singleton.mp hkey
  refine ⟨.string, fun id hmatch => ?_⟩
  obtain ⟨candidates, hcandidates, hmem, _⟩ := hmatch
  have hstored := (candidates_stored hg hcandidates).2 id hmem
  exact .inr (congrArg Value.kind? (Graph.value_id hg hstored))

theorem Evaluation.mem_filter_admits {e : Evaluation} {candidates : List String}
    (hcandidates : e.candidates block scope = .ok candidates) (id : String) :
    id ∈ candidates.filter (e.admits block.condition block.var scope) ↔ e.Matches block scope id := by
  rw [List.mem_filter, Evaluation.admits_iff]
  constructor
  · rintro ⟨hmem, htrue⟩
    exact ⟨candidates, hcandidates, hmem, htrue⟩
  · rintro ⟨others, hothers, hmem, htrue⟩
    rw [hcandidates] at hothers
    cases hothers
    exact ⟨hmem, htrue⟩

/-- The rows of a block that was compiled from a level: of the nodes that satisfy the condition, in order, those beyond
the cursors, cut off on the far side. -/
theorem Level.rows_of_run {e : Evaluation} {schema : Schema} {level : Level} {source : Source} {resultKey : String}
    {subQuery : Nat} {onlyOnTypes : Option (List String)} {b b' : Bindings} {answer : Answer Row}
    (hg : e.graph.WellFormed)
    (hlevel : level.compile schema source resultKey subQuery onlyOnTypes b = .ok (block, b'))
    (hid : level.options.order.Identifies)
    (hkinds : ∀ key ∈ level.options.order.keys, ∃ kind, ∀ id, e.Matches block scope id →
      Value.OfKind kind (key.path.value e.graph id))
    (hrun : e.run block scope = .ok answer) :
    ∃ matched : List String, matched.Nodup ∧ (∀ id, id ∈ matched ↔ e.Matches block scope id) ∧
      matched.Pairwise (level.options.order.before e.graph) ∧
      answer.rows.map (·.id) = cutOff level.limit level.options.last.isSome
        (matched.filter (e.admits block.seek block.var scope)) ∧
      answer.totalCount = if level.options.countsTotal then some matched.length else none := by
  obtain ⟨_, _, _, _, _, _, _, _, hblock⟩ := Level.compile_eq_ok.mp hlevel
  have horder : block.order = level.options.order.keys.map (·.termOn block.var) := by rw [hblock]; rfl
  have hrequested : block.requested = level.options.order.directions := by
    rw [Block.requested, horder, List.map_map]
    rfl
  obtain ⟨selected, hselect, htotal, hrows⟩ := Evaluation.run_eq_ok.mp hrun
  obtain ⟨candidates, hcandidates, rfl⟩ := Evaluation.select_eq_ok hg horder hselect
  obtain ⟨hnodup, hstored⟩ := Evaluation.candidates_stored hg hcandidates
  have hmem := Evaluation.mem_filter_admits hcandidates
  have hcomparable : level.options.order.Comparable e.graph
      (candidates.filter (e.admits block.condition block.var scope)) := by
    intro key hkey
    obtain ⟨kind, hkind⟩ := hkinds key hkey
    exact ⟨kind, fun id hmatch => hkind id ((hmem id).mp hmatch)⟩
  obtain ⟨kinds, hrank⟩ := Order.rankable hg hid (hnodup.filter _) (fun id h => hstored id (List.mem_filter.mp h).1)
    hcomparable
  have hperm := Order.perm_arrange level.options.order e.graph
    (candidates.filter (e.admits block.condition block.var scope))
  refine ⟨_, hperm.nodup_iff.mpr (hnodup.filter _), fun id => hperm.mem_iff.trans (hmem id),
    Order.pairwise_arrange hrank, ?_, ?_⟩
  · have hsub := hrank.of_sublist (List.Sublist.map (level.options.order.keyed e.graph)
      (List.filter_sublist (p := e.admits block.seek block.var scope)))
    rw [← Order.arrange_filter hrank]
    have hpage := Order.page_eq hrequested hsub
    have hfst : answer.rows.map (·.id) = (block.page ((candidates.filter (e.admits block.condition block.var
        scope)).filter (e.admits block.seek block.var scope) |>.map (level.options.order.keyed e.graph))).map (·.1) := by
      exact (Run.map_eq_map (hrows.imp fun keyed row hrow => (Evaluation.rowOf_id hrow).symm)).symm
    rw [hfst, hpage, Order.map_fst_keyed, hblock]
    rfl
  · rw [htotal, hperm.length_eq, hblock]
    rfl

/-- What a page shows of the nodes of a block: of those beyond the cursors the first so many, the last so many or all,
whether there are more of them, and how many nodes there are before cursors and limits. -/
structure Page.Shows (page : Page Node) (options : Options) (matched beyond : List String) : Prop where
  first : ∀ n, options.first = some n →
    page.ids = beyond.take n ∧ (page.info.hasNext = true ↔ n < beyond.length)
  last : ∀ n, options.last = some n →
    page.ids = beyond.drop (beyond.length - n) ∧ (page.info.hasPrevious = true ↔ n < beyond.length)
  all : options.first = none → options.last = none → page.ids = beyond
  total : page.totalCount = if options.countsTotal then some matched.length else none

/-- The page of the answer to a block of many nodes shows a part of the nodes that satisfy the condition, which have one
order: those that the cursors admit, up to the limit. -/
theorem Plan.Runs.page_slice {graph : Graph} {answer : Answer Row} {cache cache' : ResultCache} {page : Page Node}
    (hgraph : graph.Built) (hplan : planner.Plans plan) (hcompile : plan.compile planner.schema = .ok statement)
    (hruns : plan.Runs statement level block scope) (hmany : level.cardinality = .many)
    (horder : level.options.order = .byId ∨
      ∃ schema entity raw, Order.parse schema entity raw = .ok level.options.order)
    (hkinds : ∀ key ∈ level.options.order.keys, ∃ kind, ∀ id, (graph.evaluation statement).Matches block scope id →
      Value.OfKind kind (key.path.value graph id))
    (hrun : (graph.evaluation statement).run block scope = .ok answer)
    (hpage : level.assemblePage planner.schema block answer cache = .ok page cache') :
    ∃ matched : List String, matched.Nodup ∧
      (∀ id, id ∈ matched ↔ (graph.evaluation statement).Matches block scope id) ∧
      matched.Pairwise (level.options.order.before graph) ∧
      page.Shows level.options matched
        (matched.filter ((graph.evaluation statement).admits block.seek block.var scope)) := by
  have hwf := hgraph.wellFormed
  obtain ⟨_, _, _, _, _, _, _, hmakes, hlevel⟩ := hruns.compiled hplan hcompile
  have hheads := hmakes.heads
  have hidentifies : level.options.order.Identifies := by
    rcases horder with h | ⟨_, _, _, h⟩
    · exact h ▸ Order.proper_byId.2
    · exact (Order.proper_of_parse h).2
  obtain ⟨matched, hnodup, hmem, hsorted, hrows, htotal⟩ := Level.rows_of_run hwf hlevel hidentifies hkinds hrun
  obtain ⟨hids, hcount, hnext, hprevious⟩ := Level.ids_of_assemblePage hpage
  rw [hrows, hheads.limit, hmany, Options.slice_cutOff hheads.exclusive] at hids hnext hprevious
  refine ⟨matched, hnodup, hmem, hsorted, ?_, ?_, ?_, hcount.trans htotal⟩
  · intro n hn
    rw [hn] at hids hnext
    rw [hids, hnext]
    exact ⟨rfl, decide_eq_true_iff⟩
  · intro n hn
    have hnone : level.options.first = none := by
      rcases hheads.exclusive with h | h
      · exact h
      · rw [hn] at h
        cases h
    rw [hnone, hn] at hids hprevious
    rw [hids, hprevious]
    exact ⟨rfl, decide_eq_true_iff⟩
  · intro hf hl
    rw [hf, hl] at hids
    exact hids

end Runs

/-! ## A page of one node -/

/-- A schema of one type without members of its own. -/
def plainSchema : Schema := ⟨[("A", ⟨"A", false, [⟨"id", .id, false⟩], [], [], []⟩)]⟩

/-- A planner without a permission. -/
def plainPlanner : Planner := ⟨plainSchema, ⟨.builtin, Access.defaultMaxHops⟩, .default, none⟩

/-- Two nodes of the type. -/
def pairGraph : Graph := (Graph.empty.addNode "a" ["A"] []).addNode "b" ["A"] []

/-- A field that asks for the first node. -/
def firstOfPair : Field := ⟨"all", none, [("first", .int 1)], none, [.named "totalCount"]⟩

/-- The page of the first of two nodes. -/
theorem Plan.Runs.page_slice_pair : ∃ plan statement answer page cache,
    plainPlanner.connection "A" firstOfPair = .ok plan ∧ plan.compile plainSchema = .ok statement ∧
      (pairGraph.evaluation statement).run statement.root [] = .ok answer ∧
      plan.root.assemblePage plainSchema statement.root answer (.empty 0) = .ok page cache ∧
      page.ids = ["a"] ∧ ∃ matched beyond, page.Shows plan.root.options matched beyond := by
  have hgraph : pairGraph.Built := .addNode _ _ _ (.addNode _ _ _ .empty)
  refine ⟨_, _, _, _, _, rfl, rfl, rfl, rfl, rfl, ?_⟩
  obtain ⟨matched, _, _, _, hshows⟩ := Plan.Runs.page_slice hgraph
    (.connection (rfl : plainPlanner.connection "A" firstOfPair = .ok _)) rfl .root rfl (.inl rfl)
    (Evaluation.Matches.ofKind_byId hgraph.wellFormed) rfl rfl
  exact ⟨_, _, hshows⟩

end GraphQuery
