import GraphQuery.Proofs.Page.Agreement
import GraphQuery.Proofs.Page.Assembling

/-!
# Nodes have the type of their labels

Every row of an answer has the labels of its node, however deep it stands (`Row.Faithful`, `Evaluation.faithful_run`).
So every node that is assembled has the type that the labels of its stored node resolve to (`Node.Resolved`), at all
positions of a result, where earlier results may stand in for new ones (`assembles_resolved`).
-/

namespace GraphQuery

/-! ## Rows with the labels of their nodes -/

section Blocks

variable {motive : Block → Prop}

mutual

/-- Induction over the blocks of a statement. -/
theorem Block.induct (step : ∀ block, (∀ child ∈ block.children, motive child) → motive block) : ∀ block, motive block
  | ⟨_, _, _, _, _, _, _, _, _, _, _, _, children⟩ => step _ (Block.inductChildren step children)

theorem Block.inductChildren (step : ∀ block, (∀ child ∈ block.children, motive child) → motive block) :
    ∀ children : List Block, ∀ child ∈ children, motive child
  | [], _, h => nomatch h
  | first :: rest, child, h => by
    rcases List.mem_cons.mp h with heq | h
    · rw [heq]
      exact Block.induct step first
    · exact Block.inductChildren step rest child h

end

end Blocks

/-- A row has the labels that are stored of its node, and so have the rows below it. -/
inductive Row.Faithful (graph : Graph) : Row → Prop
  | mk {row : Row} {stored : StoredNode} : graph.node? row.id = some stored → row.labels = stored.labels →
      (∀ entry ∈ row.children, ∀ below ∈ entry.2.rows, Row.Faithful graph below) → Row.Faithful graph row

/-- Every row of the answer to a block has the labels of its node, and so have the rows below it. -/
theorem Evaluation.faithful_run [PropertyTable] {e : Evaluation} {block : Block} {scope : Scope} {answer : Answer Row}
    (h : e.run block scope = .ok answer) : ∀ row ∈ answer.rows, row.Faithful e.graph := by
  induction block using Block.induct generalizing scope answer with
  | step block ih =>
    intro row hrow
    obtain ⟨selected, _, _, hrows⟩ := Evaluation.run_eq_ok.mp h
    obtain ⟨keyed, _, hkeyed⟩ := Result.member_of_mem_mapM (Result.mapM_eq_ok.mpr hrows) row hrow
    obtain ⟨stored, hstored, hkeyed⟩ := Result.bind_eq_ok.mp hkeyed
    obtain ⟨answers, hanswers, hkeyed⟩ := Result.bind_eq_ok.mp hkeyed
    cases hkeyed
    refine .mk (Graph.node_eq_ok.mp hstored) rfl fun entry hentry => ?_
    obtain ⟨child, hchild, _, hrun⟩ := of_mem_runChildren hanswers (Table.mem_ofList hentry)
    exact ih child hchild hrun

/-! ## Results throughout -/

/-- Whether every node at every position of a result has a property. -/
def Related.Throughout (P : Node → Prop) (result : Related Node) : Prop :=
  ∀ position other, result.At position other → ∀ node ∈ other.nodes, P node

/-- Whether a node and every node below it have a property. -/
def Node.Throughout (P : Node → Prop) (node : Node) : Prop :=
  P node ∧ ∀ entry ∈ node.relationships, entry.2.Throughout P

theorem Related.throughout_of {P : Node → Prop} {result : Related Node} (h : ∀ node ∈ result.nodes, node.Throughout P) :
    result.Throughout P := by
  intro position other hat node hnode
  cases hat with
  | here => exact (h node hnode).1
  | down hupper hentry hat => exact (h _ hupper).2 _ hentry _ _ hat node hnode

/-- Whether a node has the type that the labels of its stored node resolve to. -/
def Node.Resolved (schema : Schema) (graph : Graph) (node : Node) : Prop :=
  ∃ stored entity, graph.node? node.id = some stored ∧ schema.concreteType? stored.labels = some entity ∧
    node.typeName = entity.name

/-- Whether all nodes in the results of a cache have the types of their labels. -/
def ResultCache.Resolved (schema : Schema) (graph : Graph) (cache : ResultCache) : Prop :=
  cache.All fun _ _ _ result => result.Throughout (Node.Resolved schema graph)

theorem keeps_keep_resolved {schema : Schema} {graph : Graph} {typeName id : String} {key : CacheKey}
    {result : Related Node} (h : result.Throughout (Node.Resolved schema graph)) :
    Run.Keeps (ResultCache.Resolved schema graph) (·.Throughout (Node.Resolved schema graph))
      (keep typeName id key result) := by
  refine Run.keeps_modifyGet fun cache hcache => ?_
  obtain ⟨hkept, hrest⟩ := (hcache typeName id).insertReady h
  exact ⟨hkept, RequestCache.All.set hcache hrest⟩

/-- What is assembled of faithful rows has the types of its labels, and so have the results in the caches. -/
theorem assembles_resolved (schema : Schema) (graph : Graph) : Assembles schema (ResultCache.Resolved schema graph)
    (Row.Faithful graph) (Node.Throughout (Node.Resolved schema graph))
    (Related.Throughout (Node.Resolved schema graph)) where
  below := by
    rintro _ ⟨_, _, hbelow⟩
    exact hbelow
  see _ typeName id hcache := RequestCache.All.see hcache typeName id
  keep _ _ _ _ h := keeps_keep_resolved h
  result _ h := Related.throughout_of h
  node := by
    rintro row entity relationships request ⟨hstored, hlabels, _⟩ hentity hrelationships
    refine ⟨?_, hrelationships⟩
    unfold Row.concreteType at hentity
    split at hentity
    · rename_i htype
      cases hentity
      exact ⟨_, entity, hstored, hlabels ▸ htype, rfl⟩
    · cases hentity

end GraphQuery
