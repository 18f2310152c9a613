import GraphQuery.Graph.Run
import GraphQuery.Proofs.Graph.Built
import GraphQuery.Proofs.Graph.Sorting
import GraphQuery.Proofs.Order.Keys
import GraphQuery.Proofs.Plan.Compile

/-!
# What a block selects

The candidates of a block are stored nodes, each once (`Evaluation.candidates_stored`). A block that runs counts the
candidates its condition is true of, and its rows are the page of those its cursors admit
(`Evaluation.select_eq_ok`, `Evaluation.run_eq_ok`).

`Order.arrange` puts nodes in an order. When the sort keys read comparable values (`Order.Comparable`) and the
identifier is among them (`Order.Identifies`), there is one way to do so, and the page of a block is a part of the
arranged nodes (`Order.page_eq`).
-/

namespace GraphQuery

/-- The values of the sort keys of a node. -/
def Order.values (order : Order) (graph : Graph) (id : String) : List Value :=
  order.keys.map fun key => key.path.value graph id

/-- The directions of the sort keys. -/
def Order.directions (order : Order) : List SortDirection := order.keys.map (·.direction)

namespace Evaluation

variable [PropertyTable] {e : Evaluation} {block : Block} {order : Order} {scope : Scope}

/-! ## Candidates -/

/-- The candidates of a block are stored nodes, each once. -/
theorem candidates_stored (hg : e.graph.WellFormed) {candidates : List String}
    (h : e.candidates block scope = .ok candidates) : candidates.Nodup ∧ ∀ id ∈ candidates, e.graph.Stored id := by
  unfold Evaluation.candidates at h
  split at h
  · cases h
    exact ⟨Graph.nodup_labelled hg, fun id hid => Graph.stored_of_mem_labelled hg hid⟩
  · obtain ⟨parent, _, h⟩ := Result.bind_eq_ok.mp h
    split at h
    · split at h
      · cases h
        exact ⟨Graph.nodup_neighbours, fun id hid => Graph.stored_of_mem_neighbours hid⟩
      · cases h
        exact ⟨.nil, nofun⟩
    · cases h
  · obtain ⟨parent, _, h⟩ := Result.bind_eq_ok.mp h
    cases h
    exact ⟨Graph.nodup_neighbours, fun id hid => Graph.stored_of_mem_neighbours hid⟩

/-! ## Conditions and cursors -/

/-- Whether a condition is true of a node bound to a variable. -/
def admits (e : Evaluation) (condition : Condition) (var : String) (scope : Scope) (id : String) : Bool :=
  Result.isTrue (e.holds condition var id scope)

theorem admits_iff {condition : Condition} {var id : String} :
    e.admits condition var scope id = true ↔ e.truth condition ((var, id) :: scope) = .ok (some true) := by
  unfold admits holds
  cases e.truth condition ((var, id) :: scope) <;> simp [Result.isTrue]

/-- The nodes that satisfy the condition of a block. -/
theorem matching_eq_ok {matched : List String} (h : e.matching block scope = .ok matched) :
    ∃ candidates, e.candidates block scope = .ok candidates ∧
      matched = candidates.filter (e.admits block.condition block.var scope) := by
  obtain ⟨candidates, hcandidates, h⟩ := Result.bind_eq_ok.mp h
  exact ⟨candidates, hcandidates, (Result.filterM_eq_ok h).2⟩

theorem mapM_operand {var id : String} (hs : e.graph.Stored id) : ∀ keys : List OrderKey,
    (keys.map (·.termOn var)).mapM (fun term => e.operand ((var, id) :: scope) term.operand) =
      .ok (keys.map fun key => key.path.value e.graph id)
  | [] => rfl
  | key :: keys => by
    rw [List.map_cons, List.mapM_cons, OrderKey.termOn, operand_eq hs, mapM_operand hs keys]
    rfl

/-- The sort keys of a stored node are read when the cursors admit it. -/
theorem keysBeyond_eq (horder : block.order = order.keys.map (·.termOn block.var)) {id : String}
    (hs : e.graph.Stored id) {row : Option (String × List Value)} (h : e.keysBeyond block scope id = .ok row) :
    row = if e.admits block.seek block.var scope id then some (id, order.values e.graph id) else none := by
  obtain ⟨admitted, hadmitted, h⟩ := Result.bind_eq_ok.mp h
  rw [admits, hadmitted]
  cases admitted with
  | false =>
    cases h
    rfl
  | true =>
    rw [if_pos rfl, horder, mapM_operand hs] at h
    cases h
    rfl

omit [PropertyTable] in
theorem filterMap_ite {α β : Type} (p : α → Bool) (f : α → β) (xs : List α) :
    (xs.filterMap fun x => if p x then some (f x) else none) = (xs.filter p).map f := by
  rw [← List.filterMap_filter, ← List.filterMap_eq_map]
  rfl

/-- The count of a block and the rows of its page. -/
theorem select_eq_ok (hg : e.graph.WellFormed) (horder : block.order = order.keys.map (·.termOn block.var))
    {selected : Option Nat × List (String × List Value)} (h : e.select block scope = .ok selected) :
    ∃ candidates, e.candidates block scope = .ok candidates ∧
      let matched := candidates.filter (e.admits block.condition block.var scope)
      selected = (if block.count then some matched.length else none, block.page
        ((matched.filter (e.admits block.seek block.var scope)).map fun id => (id, order.values e.graph id))) := by
  obtain ⟨matched, hmatched, h⟩ := Result.bind_eq_ok.mp h
  obtain ⟨keyed, hkeyed, h⟩ := Result.bind_eq_ok.mp h
  obtain ⟨candidates, hcandidates, rfl⟩ := matching_eq_ok hmatched
  cases h
  refine ⟨candidates, hcandidates, ?_⟩
  -- every step succeeded, so each gave the row that `keysBeyond_eq` says
  have hsteps : ∀ id ∈ candidates.filter (e.admits block.condition block.var scope), e.keysBeyond block scope id =
      .ok (if e.admits block.seek block.var scope id then some (id, order.values e.graph id) else none) := by
    intro id hid
    obtain ⟨row, hrow⟩ := Result.forall_of_filterMapM hkeyed id hid
    have hs := (candidates_stored hg hcandidates).2 id (List.mem_filter.mp hid).1
    rw [hrow, keysBeyond_eq horder hs hrow]
  rw [Result.filterMapM_eq_filterMap hsteps] at hkeyed
  cases hkeyed
  rw [filterMap_ite]

/-! ## Rows -/

/-- The row of a selected node. -/
def rowOf (e : Evaluation) (block : Block) (scope : Scope) (keyed : String × List Value) : Result Row := do
  let node ← e.graph.node keyed.1
  let answers ← e.runChildren block.children node.labels ((block.var, keyed.1) :: scope)
  return ⟨keyed.1, node.labels, node.properties, Table.ofList ((block.order.map (·.name)).zip keyed.2),
    Table.ofList answers⟩

theorem run_eq (e : Evaluation) (block : Block) (scope : Scope) : e.run block scope = (do
    let selected ← e.select block scope
    let rows ← selected.2.mapM (e.rowOf block scope)
    return ⟨selected.1, rows⟩) := by
  obtain ⟨var, label, source, resultKey, subQuery, onlyOnTypes, condition, count, seek, order, limit, reversed,
    children⟩ := block
  rw [Evaluation.run]
  rfl

/-- The answer to a block has a row for every selected node. -/
theorem run_eq_ok {answer : Answer Row} : e.run block scope = .ok answer ↔
    ∃ selected, e.select block scope = .ok selected ∧ answer.totalCount = selected.1 ∧
      List.Forall₂ (fun keyed row => e.rowOf block scope keyed = .ok row) selected.2 answer.rows := by
  rw [run_eq, Result.bind_eq_ok]
  refine exists_congr fun selected => and_congr_right fun _ => ?_
  rw [Result.bind_eq_ok]
  constructor
  · rintro ⟨rows, hrows, h⟩
    cases h
    exact ⟨rfl, Result.mapM_eq_ok.mp hrows⟩
  · rintro ⟨htotal, hrows⟩
    refine ⟨answer.rows, Result.mapM_eq_ok.mpr hrows, ?_⟩
    rw [← htotal]
    rfl

/-- A row has the identifier of its node. -/
theorem rowOf_id {keyed : String × List Value} {row : Row} (h : e.rowOf block scope keyed = .ok row) :
    row.id = keyed.1 := by
  obtain ⟨_, _, h⟩ := Result.bind_eq_ok.mp h
  obtain ⟨_, _, h⟩ := Result.bind_eq_ok.mp h
  cases h
  rfl

end Evaluation

/-! ## Nodes in order -/

namespace Order

variable {graph : Graph} {order : Order} {ids : List String}

/-- A node with the values of its sort keys. -/
def keyed (order : Order) (graph : Graph) (id : String) : String × List Value := (id, order.values graph id)

/-- Whether a node comes before another. -/
def before (order : Order) (graph : Graph) (a b : String) : Prop :=
  compareKeys order.directions (order.values graph a) (order.values graph b) = .lt

/-- Nodes in an order. -/
def arrange (order : Order) (graph : Graph) (ids : List String) : List String :=
  (ranked order.directions (ids.map (order.keyed graph))).map (·.1)

/-- For every sort key, the values that the nodes have are of one kind. -/
def Comparable (order : Order) (graph : Graph) (ids : List String) : Prop :=
  ∀ key ∈ order.keys, ∃ kind, ∀ id ∈ ids, Value.OfKind kind (key.path.value graph id)

theorem Comparable.kinds : ∀ {keys : List OrderKey},
    (∀ key ∈ keys, ∃ kind, ∀ id ∈ ids, Value.OfKind kind (key.path.value graph id)) →
      ∃ kinds : List Value.Kind, kinds.length = keys.length ∧
        ∀ id ∈ ids, List.Forall₂ Value.OfKind kinds (keys.map fun key => key.path.value graph id)
  | [], _ => ⟨[], rfl, fun _ _ => .nil⟩
  | key :: keys, h => by
    obtain ⟨hkey, hkeys⟩ := List.forall_mem_cons.mp h
    obtain ⟨kind, hkind⟩ := hkey
    obtain ⟨kinds, hlength, hkinds⟩ := Comparable.kinds hkeys
    exact ⟨kind :: kinds, by rw [List.length_cons, List.length_cons, hlength],
      fun id hid => .cons (hkind id hid) (hkinds id hid)⟩

/-- Nodes with equal sort keys are equal when the identifier is one of them. -/
theorem Identifies.values_injective (h : order.Identifies) (hg : graph.WellFormed) {a b : String}
    (ha : graph.Stored a) (hb : graph.Stored b) (hab : order.values graph a = order.values graph b) : a = b := by
  obtain ⟨key, hmem, hpath⟩ := h
  have hkey := List.map_inj_left.mp hab key hmem
  rw [hpath] at hkey
  simpa [OrderPath.value, Graph.value_id hg ha, Graph.value_id hg hb] using hkey

/-- Stored nodes can be put in order. -/
theorem rankable (hg : graph.WellFormed) (hid : order.Identifies) (hn : ids.Nodup)
    (hs : ∀ id ∈ ids, graph.Stored id) (hc : order.Comparable graph ids) :
    ∃ kinds, Rankable order.directions kinds (ids.map (order.keyed graph)) := by
  obtain ⟨kinds, hlength, hkinds⟩ := Comparable.kinds hc
  refine ⟨kinds, ⟨?_, ?_, ?_, ?_⟩⟩
  · rw [directions, List.length_map, hlength]
  · intro row hrow
    obtain ⟨id, hmem, rfl⟩ := List.mem_map.mp hrow
    exact hkinds id hmem
  · intro a ha b hb hab
    obtain ⟨x, hx, rfl⟩ := List.mem_map.mp ha
    obtain ⟨y, hy, rfl⟩ := List.mem_map.mp hb
    rw [hid.values_injective hg (hs x hx) (hs y hy) hab]
  · exact List.pairwise_map.mpr (hn.imp fun hne heq => hne (congrArg Prod.fst heq))

theorem map_fst_keyed (ids : List String) : (ids.map (order.keyed graph)).map (·.1) = ids := by
  rw [List.map_map]
  exact List.map_id ids

theorem perm_arrange (order : Order) (graph : Graph) (ids : List String) : (order.arrange graph ids).Perm ids := by
  have hperm := (sortBy_perm (precedes order.directions) (ids.map (order.keyed graph))).map Prod.fst
  rwa [map_fst_keyed] at hperm

/-- The ranked rows of nodes are the rows of the arranged nodes. -/
theorem map_keyed_arrange : (order.arrange graph ids).map (order.keyed graph) =
    ranked order.directions (ids.map (order.keyed graph)) := by
  rw [arrange, List.map_map]
  refine (List.map_congr_left fun row hrow => ?_).trans (List.map_id _)
  obtain ⟨id, _, rfl⟩ := List.mem_map.mp (mem_sortBy.mp hrow)
  rfl

theorem pairwise_arrange {kinds : List Value.Kind} (h : Rankable order.directions kinds (ids.map (order.keyed graph))) :
    (order.arrange graph ids).Pairwise (order.before graph) := by
  have hp := h.pairwise_ranked
  rw [← map_keyed_arrange, List.pairwise_map] at hp
  exact hp.imp fun hab => of_decide_eq_true hab

/-- Arranged nodes stay arranged when some are left out. -/
theorem arrange_filter {kinds : List Value.Kind} (h : Rankable order.directions kinds (ids.map (order.keyed graph)))
    (p : String → Bool) : order.arrange graph (ids.filter p) = (order.arrange graph ids).filter p := by
  have hsub : ((ids.filter p).map (order.keyed graph)).Sublist (ids.map (order.keyed graph)) :=
    List.filter_sublist.map _
  have hrest := h.of_sublist hsub
  have hranked : ((order.arrange graph ids).filter p).map (order.keyed graph) =
      ranked order.directions ((ids.filter p).map (order.keyed graph)) := by
    refine eq_sortBy hrest.linear hrest.nodup (((perm_arrange order graph ids).filter p).map _) ?_
    have hp := h.pairwise_ranked
    rw [← map_keyed_arrange] at hp
    exact hp.sublist (List.filter_sublist.map _)
  rw [arrange, ← hranked, map_fst_keyed]

theorem cutOff_map {α β : Type} (limit : Option Nat) (reversed : Bool) (f : α → β) (xs : List α) :
    cutOff limit reversed (xs.map f) = (cutOff limit reversed xs).map f := by
  unfold cutOff
  cases limit <;> cases reversed <;> simp

/-- The page of a block is a part of the arranged nodes. -/
theorem page_eq {block : Block} {kinds : List Value.Kind} (horder : block.requested = order.directions)
    (h : Rankable order.directions kinds (ids.map (order.keyed graph))) :
    block.page (ids.map (order.keyed graph)) =
      (cutOff block.limit block.reversed (order.arrange graph ids)).map (order.keyed graph) := by
  rw [Block.page_eq (horder ▸ h), horder, ← map_keyed_arrange, cutOff_map]

end Order

end GraphQuery
