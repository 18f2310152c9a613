import GraphQuery.Proofs.Page.Admitted

/-!
# What assembling keeps

Assembling makes nodes of rows, level by level, and keeps every result of a relationship in the cache of its node, where
an earlier one may stand in for it. `Assembles` says what has to be shown of a single node, a single result and a single
change of the caches. Then all that is assembled has the property, and the caches keep theirs, whether assembling
succeeds or fails (`Assembles.keeps_node`, `Assembles.keeps_page`, `Assembles.keeps_related`).
-/

namespace GraphQuery

/-- A property of caches that assembling keeps, and the properties that rows, nodes and results then have. -/
structure Assembles (schema : Schema) (I : ResultCache → Prop) (A : Row → Prop) (P : Node → Prop)
    (R : Related Node → Prop) : Prop where
  below : ∀ row, A row → ∀ entry ∈ row.children, ∀ below ∈ entry.2.rows, A below
  see : ∀ cache typeName id, I cache → I (cache.see typeName id)
  keep : ∀ typeName id key result, R result → Run.Keeps I R (keep typeName id key result)
  /-- A result has its property when its nodes have theirs. -/
  result : ∀ result : Related Node, (∀ node ∈ result.nodes, P node) → R result
  /-- A node has its property when the results of its relationships have theirs. -/
  node : ∀ row entity relationships request, A row → row.concreteType schema = .ok entity →
    (∀ entry ∈ relationships, R entry.2) → P ⟨row.id, entity.name, row.properties, relationships, request⟩

namespace Assembles

variable {schema : Schema} {I : ResultCache → Prop} {A : Row → Prop} {P : Node → Prop} {R : Related Node → Prop}
  (h : Assembles schema I A P R)

include h

section Rows

variable {nodeOf : Row → Assembly Node} {answer : Answer Row} (hnodeOf : ∀ row, A row → Run.Keeps I P (nodeOf row))
  (hrows : ∀ row ∈ answer.rows, A row)

include hnodeOf hrows

theorem keeps_pageOf (options : Options) :
    Run.Keeps I (fun page => R (.many page)) (options.page nodeOf answer) := by
  unfold Options.page
  have hitems : Run.Keeps I (fun items : List (Item Node) => ∀ item ∈ items, ∃ row ∈ (options.slice answer.rows).1,
      P item.node) ((options.slice answer.rows).1.mapM fun row => do
        return ⟨Cursor.encode options.order row.keys, ← nodeOf row⟩) :=
    Run.Keeps.mapM fun row hrow => (hnodeOf row (hrows row (Options.mem_of_slice hrow))).bind fun _ hnode =>
      Run.keeps_pure hnode
  refine hitems.bind fun items hitems => Run.keeps_pure (h.result _ fun node hnode => ?_)
  obtain ⟨item, hitem, rfl⟩ := List.mem_map.mp hnode
  obtain ⟨_, _, hproperty⟩ := hitems item hitem
  exact hproperty

theorem keeps_relatedOf (level : Level) : Run.Keeps I R (level.related nodeOf answer) := by
  unfold Level.related
  cases level.cardinality with
  | one =>
    obtain ⟨totalCount, rows⟩ := answer
    cases rows with
    | nil =>
      refine Run.keeps_pure (h.result _ fun node hnode => ?_)
      cases hnode
    | cons row rest =>
      refine (hnodeOf row (hrows row List.mem_cons_self)).bind fun node hnode =>
        Run.keeps_pure (h.result _ fun other hother => ?_)
      rw [List.mem_singleton.mp hother]
      exact hnode
  | many => exact (h.keeps_pageOf hnodeOf hrows level.options).bind fun page hpage => Run.keeps_pure hpage

end Rows

section Nodes

variable {row : Row} {block : Block} {typeName : String}

/-- The rows of an answer below a row. -/
theorem rows_below (hrow : A row) (child : Block) :
    ∀ below ∈ ((List.lookup child.var row.children).getD .empty).rows, A below := by
  cases hlookup : List.lookup child.var row.children with
  | none =>
    intro below hbelow
    cases hbelow
  | some answer => exact h.below row hrow (child.var, answer) (Table.mem_of_lookup hlookup)

theorem keeps_first {resultKey : String} (hrow : A row) : ∀ {subs : List (SubQuery Level)} {i : Nat},
    (∀ branch ∈ Level.branchesOfSubs resultKey subs i, ∀ block row, A row →
      Run.Keeps I P (branch.sub.query.assembleNode schema block row)) →
        Run.Keeps I (fun first => ∀ result, first = some result → R result)
          (assembleFirst schema typeName row resultKey subs i block)
  | [], i, _ => by
    rw [assembleFirst]
    refine Run.keeps_pure fun result heq => ?_
    cases heq
  | ⟨relationship, query, onlyOnTypes⟩ :: rest, i, hbranches => by
    obtain ⟨hquery, hrest⟩ := List.forall_mem_cons.mp hbranches
    rw [assembleFirst]
    split
    · split
      · exact Run.keeps_throw _
      · rename_i child _
        refine (h.keeps_relatedOf (hquery child) (h.rows_below hrow child) query).bind fun result hresult => ?_
        refine (h.keep _ _ _ result hresult).bind fun kept hkept => Run.keeps_pure fun other heq => ?_
        cases heq
        exact hkept
    · exact keeps_first hrow hrest

theorem keeps_parts (hrow : A row) : ∀ {parts : List (String × List (SubQuery Level))},
    (∀ branch ∈ Level.branchesOfParts parts, ∀ block row, A row →
      Run.Keeps I P (branch.sub.query.assembleNode schema block row)) →
        Run.Keeps I (fun results => ∀ entry ∈ results, R entry.2) (assembleParts schema typeName row parts block)
  | [], _ => by
    rw [assembleParts]
    refine Run.keeps_pure fun entry hentry => ?_
    cases hentry
  | (resultKey, subs) :: rest, hbranches => by
    have hrest : Run.Keeps I (fun results => ∀ entry ∈ results, R entry.2)
        (assembleParts schema typeName row rest block) :=
      keeps_parts hrow fun branch hbranch => hbranches branch (List.mem_append_right _ hbranch)
    rw [assembleParts]
    refine (h.keeps_first hrow fun branch hbranch => hbranches branch (List.mem_append_left _ hbranch)).bind
      fun first hfirst => ?_
    cases first with
    | none => exact hrest
    | some result =>
      exact hrest.bind fun results hresults => Run.keeps_pure (List.forall_mem_cons.mpr ⟨hfirst result rfl, hresults⟩)

end Nodes

/-- Whatever node is assembled for a level has its property, and the caches keep theirs. -/
theorem keeps_node (level : Level) : ∀ block row, A row → Run.Keeps I P (level.assembleNode schema block row) := by
  induction level using Level.induct with
  | step level ih =>
    intro block row hrow
    obtain ⟨entityType, options, condition, limit, cardinality, parts⟩ := level
    rw [Level.assembleNode]
    refine (Run.keeps_ofExcept _).bind fun entity hentity => ?_
    refine (Run.keeps_modify fun cache hcache => h.see cache entity.name row.id hcache).bind fun _ _ => ?_
    refine (h.keeps_parts hrow ih).bind fun relationships hrelationships => ?_
    exact Run.keeps_get.bind fun cache _ => Run.keeps_pure (h.node row entity _ _ hrow hentity hrelationships)

variable {answer : Answer Row} (hrows : ∀ row ∈ answer.rows, A row) (level : Level) (block : Block)

include hrows

theorem keeps_page : Run.Keeps I (fun page => R (.many page)) (level.assemblePage schema block answer) :=
  h.keeps_pageOf (h.keeps_node level block) hrows level.options

theorem keeps_related : Run.Keeps I R (level.assemble schema block answer) :=
  h.keeps_relatedOf (h.keeps_node level block) hrows level

end Assembles

end GraphQuery
