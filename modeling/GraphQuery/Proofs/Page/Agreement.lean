import GraphQuery.Pattern.KnownProperty
import GraphQuery.Proofs.Graph.Typed
import GraphQuery.Proofs.Page.Shown
import GraphQuery.Proofs.Plan.Adequacy
import GraphQuery.Proofs.Plan.Fragments

/-!
# The store and the assembling agree

The store runs a child block for a row when the labels of the row meet the types of the block; the assembling picks the
sub-query for the one concrete type of the row. `Level.Agrees` is what the two have to do with each other at a row: its
answers are those of blocks of sub-queries, and for every sub-query that is picked there is the block compiled from it,
the store ran it for the row, and its answer is what becomes the result. Every row of an answer is such a row, however
deep it stands (`Level.Stands`), and so every answer is assembled (`Planner.Plans.assembles`).
-/

namespace GraphQuery

/-! ## The sub-query that is picked -/

section Picking

variable {schema : Schema} {typeName resultKey : String} {row : Row} {block : Block}

/-- What becomes of a sub-query that is picked for a row, given the answer to its block. -/
def Branch.assembled (schema : Schema) (typeName : String) (row : Row) (branch : Branch) (child : Block)
    (inner : Answer Row) : Assembly (Option (Related Node)) := do
  let result ← branch.sub.query.related (fun row => branch.sub.query.assembleNode schema child row) inner
  return some (← keep typeName row.id (.ofQuery branch.sub.relationship branch.sub.query) result)

/-- Of the sub-queries under a result key the picked one is assembled, from the block at its place. -/
theorem assembleFirst_of_find? {sub : SubQuery Level} {i : Nat} : ∀ {subs : List (SubQuery Level)} {start : Nat},
    (subs.zipIdx start).find? (fun entry => entry.1.appliesTo typeName) = some (sub, i) →
      assembleFirst schema typeName row resultKey subs start block =
        match block.child? resultKey i with
        | none => throw (.planCompilation (.blockMissing resultKey typeName))
        | some child => Branch.assembled schema typeName row ⟨resultKey, i, sub⟩ child
            ((List.lookup child.var row.children).getD .empty)
  | ⟨relationship, query, onlyOnTypes⟩ :: rest, start, h => by
    rw [List.zipIdx_cons] at h
    rw [assembleFirst]
    cases happlies : SubQuery.appliesTo ⟨relationship, query, onlyOnTypes⟩ typeName with
    | true =>
      rw [List.find?_cons, happlies] at h
      cases h
      exact if_pos happlies
    | false =>
      rw [List.find?_cons, happlies] at h
      exact (if_neg (ne_true_of_eq_false happlies)).trans (assembleFirst_of_find? h)

theorem assembleFirst_of_none : ∀ {subs : List (SubQuery Level)} {start : Nat},
    (subs.zipIdx start).find? (fun entry => entry.1.appliesTo typeName) = none →
      assembleFirst schema typeName row resultKey subs start block = pure none
  | [], _, _ => by rw [assembleFirst]
  | ⟨relationship, query, onlyOnTypes⟩ :: rest, start, h => by
    rw [List.zipIdx_cons] at h
    rw [assembleFirst]
    cases happlies : SubQuery.appliesTo ⟨relationship, query, onlyOnTypes⟩ typeName with
    | true =>
      rw [List.find?_cons, happlies] at h
      cases h
    | false =>
      rw [List.find?_cons, happlies] at h
      exact (if_neg (ne_true_of_eq_false happlies)).trans (assembleFirst_of_none h)

/-- The picked sub-query applies and stands at its index. -/
theorem forType_eq_some {subs : List (SubQuery Level)} {i : Nat} {sub : SubQuery Level}
    (h : forType subs typeName = some (i, sub)) :
    subs.zipIdx.find? (fun entry => entry.1.appliesTo typeName) = some (sub, i) ∧ subs[i]? = some sub ∧
      sub.appliesTo typeName = true := by
  obtain ⟨⟨picked, index⟩, hfind, heq⟩ := Option.map_eq_some_iff.mp h
  cases heq
  have happlies := List.find?_some hfind
  exact ⟨hfind, List.mem_zipIdx_iff_getElem?.mp (List.mem_of_find?_eq_some hfind), happlies⟩

end Picking

/-! ## Agreement -/

/-- A row is in an answer, or in an answer below one of its rows. -/
inductive Answer.Has : Answer Row → Row → Prop
  | here {answer : Answer Row} {row : Row} : row ∈ answer.rows → Has answer row
  | deeper {answer inner : Answer Row} {row row' : Row} {var : String} : row ∈ answer.rows →
      (var, inner) ∈ row.children → Has inner row' → Has answer row'

namespace Level

/-- A row stands in an answer to the block of a level, or in an answer below one of its rows: with the level and the
block that the row belongs to, and the scope in which that block was run. -/
inductive Stands : Level → Block → Scope → Answer Row → Level → Block → Scope → Row → Prop
  | here {level : Level} {block : Block} {scope : Scope} {answer : Answer Row} {row : Row} : row ∈ answer.rows →
      Stands level block scope answer level block scope row
  | deeper {level other : Level} {block child block' : Block} {scope scope' : Scope} {answer inner : Answer Row}
      {row row' : Row} {branch : Branch} : row ∈ answer.rows → branch ∈ level.branches →
      block.child? branch.resultKey branch.index = some child → (child.var, inner) ∈ row.children →
      Stands branch.sub.query child ((block.var, row.id) :: scope) inner other block' scope' row' →
      Stands level block scope answer other block' scope' row'

/-- What the store and the assembling have to do with each other at a row of a level. -/
structure Agrees [PropertyTable] (schema : Schema) (e : Evaluation) (level : Level) (block : Block) (scope : Scope)
    (row : Row) : Prop where
  resolves : ∃ entity, row.concreteType schema = .ok entity
  /-- The answers below the row are those to the blocks of sub-queries. -/
  children : ∀ entry ∈ row.children, ∃ branch ∈ level.branches, ∃ child,
    block.child? branch.resultKey branch.index = some child ∧ child.var = entry.1
  /-- For every sub-query that is picked there is its block, the store ran it, and its answer is used. -/
  picked : ∀ entity, row.concreteType schema = .ok entity → ∀ resultKey subs, (resultKey, subs) ∈ level.parts →
    ∀ i sub, forType subs entity.name = some (i, sub) → ∃ child inner,
      block.child? resultKey i = some child ∧ child.appliesTo row.labels = true ∧
      e.run child ((block.var, row.id) :: scope) = .ok inner ∧ List.lookup child.var row.children = some inner ∧
      assembleFirst schema entity.name row resultKey subs 0 block =
        Branch.assembled schema entity.name row ⟨resultKey, i, sub⟩ child inner

end Level

/-! ## Rows of an answer -/

section Rows

variable {schema : Schema} {planner : Planner} {level : Level} {block : Block} {scope : Scope}
  {answer : Answer Row} {row : Row}

/-- A fold that always picks something ends with something once there is a candidate. -/
theorem isSome_foldl {α : Type} {pick : Option α → α → Option α} (hpick : ∀ best x, (pick best x).isSome = true) :
    ∀ {xs : List α} {best : Option α}, best.isSome = true ∨ xs ≠ [] → (xs.foldl pick best).isSome = true
  | [], _, h => h.resolve_right fun hne => hne rfl
  | x :: xs, best, _ => by
    rw [List.foldl_cons]
    exact isSome_foldl hpick (.inl (hpick best x))

/-- There is a concrete type when one of the labels is a type that is not abstract. -/
theorem Schema.exists_concreteType? {labels : List String} {entity : EntityType} (hlabel : entity.name ∈ labels)
    (hentity : schema.entity entity.name = .ok entity) (hconcrete : entity.isAbstract = false) :
    ∃ concrete, schema.concreteType? labels = some concrete := by
  have hcandidate : entity ∈ (labels.filterMap schema.entity?).filter fun entity => !entity.isAbstract := by
    refine List.mem_filter.mpr ⟨List.mem_filterMap.mpr ⟨_, hlabel, Schema.entity_eq_ok.mp hentity⟩, ?_⟩
    rw [hconcrete]
    rfl
  refine Option.isSome_iff_exists.mp (isSome_foldl (fun best type => ?_) (.inr (List.ne_nil_of_mem hcandidate)))
  cases best with
  | none => rfl
  | some b =>
    simp only
    split <;> rfl

/-- The concrete type of a row is one of its labels. -/
theorem Row.name_of_concreteType (hnamed : schema.Named) {entity : EntityType}
    (h : row.concreteType schema = .ok entity) : entity.name ∈ row.labels := by
  unfold Row.concreteType at h
  split at h
  · rename_i htype
    cases h
    exact hnamed.name_of_concreteType? htype
  · cases h

variable [PropertyTable] {e : Evaluation}

theorem mem_runChildren {labels : List String} {child : Block} : ∀ {children : List Block}
    {answers : List (String × Answer Row)}, e.runChildren children labels scope = .ok answers → child ∈ children →
      child.appliesTo labels = true → ∃ inner, e.run child scope = .ok inner ∧ (child.var, inner) ∈ answers
  | first :: rest, answers, h, hchild, happlies => by
    rw [Evaluation.runChildren] at h
    split at h
    · obtain ⟨inner, hinner, h⟩ := Result.bind_eq_ok.mp h
      obtain ⟨others, hothers, h⟩ := Result.bind_eq_ok.mp h
      cases h
      rcases List.mem_cons.mp hchild with rfl | hchild
      · exact ⟨inner, hinner, List.mem_cons_self⟩
      · obtain ⟨answer, hrun, hmem⟩ := mem_runChildren hothers hchild happlies
        exact ⟨answer, hrun, List.mem_cons_of_mem _ hmem⟩
    · rename_i hskip
      rcases List.mem_cons.mp hchild with rfl | hchild
      · exact absurd happlies hskip
      · exact mem_runChildren h hchild happlies

/-- Every answer below a row is that of a block. -/
theorem of_mem_runChildren {labels : List String} {entry : String × Answer Row} : ∀ {children : List Block}
    {answers : List (String × Answer Row)}, e.runChildren children labels scope = .ok answers → entry ∈ answers →
      ∃ child ∈ children, child.var = entry.1 ∧ e.run child scope = .ok entry.2
  | [], answers, h, hentry => by
    rw [Evaluation.runChildren] at h
    cases h
    cases hentry
  | first :: rest, answers, h, hentry => by
    have hlater : ∀ {others : List (String × Answer Row)}, e.runChildren rest labels scope = .ok others →
        entry ∈ others → ∃ child ∈ first :: rest, child.var = entry.1 ∧ e.run child scope = .ok entry.2 := by
      intro others hothers hentry
      obtain ⟨child, hchild, hrun⟩ := of_mem_runChildren hothers hentry
      exact ⟨child, List.mem_cons_of_mem _ hchild, hrun⟩
    rw [Evaluation.runChildren] at h
    split at h
    · obtain ⟨inner, hinner, h⟩ := Result.bind_eq_ok.mp h
      obtain ⟨others, hothers, h⟩ := Result.bind_eq_ok.mp h
      cases h
      rcases List.mem_cons.mp hentry with rfl | hentry
      · exact ⟨first, List.mem_cons_self, rfl, hinner⟩
      · exact hlater hothers hentry
    · exact hlater h hentry

/-- An answer of the store to the block that a level was compiled to. -/
structure Answered (planner : Planner) (e : Evaluation) (level : Level) (block : Block) (scope : Scope)
    (answer : Answer Row) : Prop where
  made : ∃ entity, planner.Makes entity level
  compiled : ∃ source resultKey subQuery onlyOnTypes b b',
    level.compile planner.schema source resultKey subQuery onlyOnTypes b = .ok (block, b')
  run : e.run block scope = .ok answer

namespace Answered

/-- Every branch has its block and every block its branch, and no two blocks share a variable. -/
theorem paired (h : Answered planner e level block scope answer) :
    (∀ branch ∈ level.branches, ∃ child ∈ block.children,
      block.child? branch.resultKey branch.index = some child ∧ child.onlyOnTypes = branch.sub.onlyOnTypes ∧
      ∃ source resultKey subQuery onlyOnTypes b b',
        branch.sub.query.compile planner.schema source resultKey subQuery onlyOnTypes b = .ok (child, b')) ∧
    (∀ child ∈ block.children, ∃ branch ∈ level.branches,
      block.child? branch.resultKey branch.index = some child) ∧
    (block.children.map (·.var)).Nodup := by
  obtain ⟨entity, hmakes⟩ := h.made
  obtain ⟨source, resultKey, subQuery, onlyOnTypes, b, b', hcompile⟩ := h.compiled
  obtain ⟨type, seek, b₁, children, _, _, _, hchildren, rfl⟩ := Level.compile_eq_ok.mp hcompile
  have hn := Level.nodup_places hmakes.heads.sorted
  have hlength : level.branches.length = children.length := hchildren.forall₂_values.length_eq
  refine ⟨fun branch hbranch => ?_, fun child hchild => ?_, hchildren.nodup_vars⟩
  · obtain ⟨i, hi, rfl⟩ := List.getElem_of_mem hbranch
    have hi' : i < children.length := hlength ▸ hi
    obtain ⟨hplace, b₂, b₃, hchild⟩ := hchildren.counterpart hn hi hi'
    obtain ⟨_, _, _, _, _, _, _, _, hblock⟩ := Level.compile_eq_ok.mp hchild
    have htypes : children[i].onlyOnTypes = level.branches[i].sub.onlyOnTypes := by rw [hblock, Level.block]
    exact ⟨children[i], List.getElem_mem hi', hplace, htypes, _, _, _, _, b₂, b₃, hchild⟩
  · obtain ⟨i, hi, rfl⟩ := List.getElem_of_mem (show child ∈ children from hchild)
    have hi' : i < level.branches.length := hlength ▸ hi
    exact ⟨level.branches[i], List.getElem_mem hi', (hchildren.counterpart hn hi' hi).1⟩

/-- A row has the labels of its node, and the answers that the store gave to the blocks below it. -/
theorem of_row (h : Answered planner e level block scope answer) (hrow : row ∈ answer.rows) : ∃ node answers,
    e.graph.node row.id = .ok node ∧ row.labels = node.labels ∧
      e.runChildren block.children row.labels ((block.var, row.id) :: scope) = .ok answers ∧
      row.children = Table.ofList answers := by
  obtain ⟨selected, _, _, hrows⟩ := Evaluation.run_eq_ok.mp h.run
  obtain ⟨keyed, _, hkeyed⟩ := Result.member_of_mem_mapM (Result.mapM_eq_ok.mpr hrows) row hrow
  obtain ⟨node, hnode, hkeyed⟩ := Result.bind_eq_ok.mp hkeyed
  obtain ⟨answers, hanswers, hkeyed⟩ := Result.bind_eq_ok.mp hkeyed
  cases hkeyed
  exact ⟨node, answers, hnode, rfl, hanswers, rfl⟩

/-- The answer below a row under the variable of a block is the answer to that block. -/
theorem deeper (h : Answered planner e level block scope answer) (hrow : row ∈ answer.rows) {branch : Branch}
    (hbranch : branch ∈ level.branches) {child : Block}
    (hchild : block.child? branch.resultKey branch.index = some child) {inner : Answer Row}
    (hinner : (child.var, inner) ∈ row.children) :
    Answered planner e branch.sub.query child ((block.var, row.id) :: scope) inner := by
  obtain ⟨hbranches, _, hvars⟩ := h.paired
  obtain ⟨other, _, hother, _, hcompiled⟩ := hbranches branch hbranch
  cases hchild.symm.trans hother
  obtain ⟨node, answers, _, _, hanswers, hchildren⟩ := h.of_row hrow
  rw [hchildren] at hinner
  obtain ⟨ran, hran, hvar, hrun⟩ := of_mem_runChildren hanswers (Table.mem_ofList hinner)
  -- blocks of one variable are one block
  have hsame : ran = child := List.inj_on_of_nodup_map hvars hran (List.mem_of_find?_eq_some hchild) hvar
  obtain ⟨entity, hmakes⟩ := h.made
  cases hmakes with
  | mk _ _ htargets hnested =>
    obtain ⟨target, htarget⟩ := htargets branch hbranch
    exact ⟨⟨target, hnested branch hbranch target htarget⟩, hcompiled, hsame ▸ hrun⟩

/-- Every row that stands in an answer or below is a row of an answer to the block of its level. -/
theorem of_stands {other : Level} {block' : Block} {scope' : Scope}
    (hstands : Level.Stands level block scope answer other block' scope' row) :
    Answered planner e level block scope answer →
      ∃ answer', Answered planner e other block' scope' answer' ∧ row ∈ answer'.rows := by
  induction hstands with
  | here hrow => exact fun h => ⟨_, h, hrow⟩
  | deeper hrow hbranch hchild hinner _ ih => exact fun h => ih (h.deeper hrow hbranch hchild hinner)

/-- Every row of an answer over a typed graph has a concrete type. -/
theorem resolves (h : Answered planner e level block scope answer) (hnamed : planner.schema.Named)
    (hgraph : e.graph.Typed planner.schema) (hrow : row ∈ answer.rows) :
    ∃ entity, row.concreteType planner.schema = .ok entity := by
  obtain ⟨node, _, hnode, hlabels, _⟩ := h.of_row hrow
  have hstored : e.graph.Stored row.id := by
    rw [Graph.Stored, Graph.node_eq_ok.mp hnode]
    rfl
  obtain ⟨type, hdeclared, hconcrete, other, hother, hlabelsOf⟩ := hgraph.storedAs hnamed hstored
  cases (Graph.node_eq_ok.mp hnode).symm.trans hother
  have hmem : type.name ∈ row.labels := by
    rw [hlabels, hlabelsOf, mem_sortNames]
    exact List.mem_cons_self
  obtain ⟨concrete, htype⟩ := Schema.exists_concreteType? hmem hdeclared hconcrete
  exact ⟨concrete, by rw [Row.concreteType, htype]⟩

/-- At every row of an answer over a typed graph the store and the assembling agree. -/
theorem agrees (h : Answered planner e level block scope answer) (hnamed : planner.schema.Named)
    (hgraph : e.graph.Typed planner.schema) (hrow : row ∈ answer.rows) :
    level.Agrees planner.schema e block scope row := by
  obtain ⟨hbranches, hblocks, hvars⟩ := h.paired
  obtain ⟨_, answers, _, _, hanswers, hchildren⟩ := h.of_row hrow
  obtain ⟨_, hmakes⟩ := h.made
  have hnames : (answers.map (·.1)).Nodup := hvars.sublist (names_of_runChildren hanswers)
  constructor
  case resolves => exact h.resolves hnamed hgraph hrow
  case children =>
    intro entry hentry
    rw [hchildren] at hentry
    obtain ⟨child, hchild, hvar, _⟩ := of_mem_runChildren hanswers (Table.mem_ofList hentry)
    obtain ⟨branch, hbranch, hplace⟩ := hblocks child hchild
    exact ⟨branch, hbranch, child, hplace, hvar⟩
  case picked =>
    intro concrete hconcrete resultKey subs hpart i sub hpick
    obtain ⟨hfind, hindex, happlies⟩ := forType_eq_some hpick
    have hpart? : level.part? resultKey = some subs := (Table.lookup_eq_some_iff hmakes.heads.sorted).mpr hpart
    have hbranch := List.mem_of_find?_eq_some (Level.find_branch hpart? hindex)
    obtain ⟨child, hchild, hplace, htypes, _⟩ := hbranches _ hbranch
    -- the name of the concrete type is one of the labels, so what applies to the type applies to the row
    have hblock : child.appliesTo row.labels = true := by
      have hmeets := SubQuery.appliesToLabels_of happlies (Row.name_of_concreteType hnamed hconcrete)
      rw [Block.appliesTo, htypes]
      exact hmeets
    obtain ⟨inner, hrun, hinner⟩ := mem_runChildren hanswers hchild hblock
    have hlookup : List.lookup child.var row.children = some inner := by
      rw [hchildren, Table.lookup_ofList hnames]
      exact Table.lookup_of_mem hnames hinner
    refine ⟨child, inner, hplace, hblock, hrun, hlookup, ?_⟩
    rw [assembleFirst_of_find? hfind, hplace]
    simp only [hlookup, Option.getD_some]

/-- Every row in an answer, however deep, stands there. -/
theorem stands (hnamed : planner.schema.Named) (hgraph : e.graph.Typed planner.schema) (hhas : answer.Has row) :
    ∀ {level : Level} {block : Block} {scope : Scope}, Answered planner e level block scope answer →
      ∃ other block' scope', Level.Stands level block scope answer other block' scope' row := by
  induction hhas with
  | here hrow => exact fun _ => ⟨_, _, _, .here hrow⟩
  | deeper hrow hinner _ ih =>
    intro level block scope h
    obtain ⟨branch, hbranch, child, hchild, hvar⟩ := (h.agrees hnamed hgraph hrow).children _ hinner
    subst hvar
    obtain ⟨other, block', scope', hstands⟩ := ih (h.deeper hrow hbranch hchild hinner)
    exact ⟨other, block', scope', .deeper hrow hbranch hchild hinner hstands⟩

end Answered

end Rows

/-! ## Assembling succeeds -/

section Assembling

variable {planner : Planner} {level : Level} {block : Block} {scope : Scope} {answer : Answer Row}

theorem succeeds_page {options : Options} {nodeOf : Row → Assembly Node}
    (h : ∀ row ∈ answer.rows, Run.Succeeds (nodeOf row)) : Run.Succeeds (options.page nodeOf answer) := by
  unfold Options.page
  refine Run.Succeeds.bind (Run.Succeeds.mapM fun row hrow => ?_) fun items => Run.succeeds_pure _
  exact (h row (Options.mem_of_slice hrow)).bind fun node => Run.succeeds_pure _

theorem succeeds_related {nodeOf : Row → Assembly Node} (h : ∀ row ∈ answer.rows, Run.Succeeds (nodeOf row)) :
    Run.Succeeds (level.related nodeOf answer) := by
  unfold Level.related
  cases level.cardinality with
  | one =>
    obtain ⟨totalCount, rows⟩ := answer
    cases rows with
    | nil => exact Run.succeeds_pure _
    | cons row rest => exact (h row List.mem_cons_self).bind fun node => Run.succeeds_pure _
  | many => exact (succeeds_page h).bind fun page => Run.succeeds_pure _

theorem succeeds_assembleParts {schema : Schema} {typeName : String} {row : Row} :
    ∀ {parts : List (String × List (SubQuery Level))},
      (∀ part ∈ parts, Run.Succeeds (assembleFirst schema typeName row part.1 part.2 0 block)) →
        Run.Succeeds (assembleParts schema typeName row parts block)
  | [], _ => by
    rw [assembleParts]
    exact Run.succeeds_pure []
  | (resultKey, subs) :: rest, h => by
    obtain ⟨hfirst, hrest⟩ := List.forall_mem_cons.mp h
    rw [assembleParts]
    refine hfirst.bind fun first => ?_
    cases first with
    | none => exact succeeds_assembleParts hrest
    | some result => exact (succeeds_assembleParts hrest).bind fun results => Run.succeeds_pure _

/-- Rows of an answer are assembled: below each of them there is an answer for every sub-query that is picked. -/
theorem Answered.succeeds [PropertyTable] {e : Evaluation} (hnamed : planner.schema.Named)
    (hgraph : e.graph.Typed planner.schema) :
    Answered planner e level block scope answer → ∀ row ∈ answer.rows,
      Run.Succeeds (level.assembleNode planner.schema block row) := by
  induction level using Level.induct generalizing block scope answer with
  | step level ih =>
    intro h row hrow
    have hagrees := h.agrees hnamed hgraph hrow
    obtain ⟨entity, hentity⟩ := hagrees.resolves
    have hparts : ∀ part ∈ level.parts,
        Run.Succeeds (assembleFirst planner.schema entity.name row part.1 part.2 0 block) := by
      rintro ⟨resultKey, subs⟩ hpart
      cases hpick : forType subs entity.name with
      | none =>
        rw [assembleFirst_of_none (Option.map_eq_none_iff.mp hpick)]
        exact Run.succeeds_pure none
      | some pick =>
        obtain ⟨i, sub⟩ := pick
        obtain ⟨child, inner, hplace, _, _, hlookup, heq⟩ :=
          hagrees.picked entity hentity resultKey subs hpart i sub hpick
        rw [heq]
        have hbranch : ⟨resultKey, i, sub⟩ ∈ level.branches := by
          obtain ⟨entity, hmakes⟩ := h.made
          have hpart? : level.part? resultKey = some subs := (Table.lookup_eq_some_iff hmakes.heads.sorted).mpr hpart
          exact List.mem_of_find?_eq_some (Level.find_branch hpart? (forType_eq_some hpick).2.1)
        have hinner := h.deeper hrow hbranch hplace (Table.mem_of_lookup hlookup)
        refine Run.Succeeds.bind (succeeds_related fun row hrow => ih _ hbranch hinner row hrow) fun result => ?_
        exact (Run.succeeds_modifyGet _).bind fun kept => Run.succeeds_pure _
    obtain ⟨entityType, options, condition, limit, cardinality, parts⟩ := level
    rw [Level.assembleNode, hentity]
    refine Run.succeeds_ofExcept_bind ((Run.succeeds_modifyGet _).bind fun _ => ?_)
    exact (succeeds_assembleParts hparts).bind fun results => Run.succeeds_get.bind fun cache => Run.succeeds_pure _

end Assembling

/-! ## Plans -/

/-- The answer to the statement of a plan over a typed graph is assembled, and every row in it, however deep, stands for
a level of the plan. There is for every sub-query that is picked for the row the block compiled from it, the store ran
that block for the row, and its answer becomes the result. -/
theorem Planner.Plans.assembles [PropertyTable] {decls : List EntityDecl} {planner : Planner} {plan : Plan}
    {graph : Graph} {statement : Statement} {answer : Answer Row} (hschema : Schema.build decls = .ok planner.schema)
    (hgraph : graph.Typed planner.schema) (hplan : planner.Plans plan)
    (hcompile : plan.compile planner.schema = .ok statement) (hrun : graph.run statement = .ok answer) :
    (∀ cache, ∃ page after, plan.root.assemblePage planner.schema statement.root answer cache = .ok page after) ∧
    (∀ cache, ∃ result after, plan.root.assemble planner.schema statement.root answer cache = .ok result after) ∧
    (∀ row, answer.Has row → ∃ level block scope,
      Level.Stands plan.root statement.root [] answer level block scope row) ∧
    ∀ level block scope row, Level.Stands plan.root statement.root [] answer level block scope row →
      level.Agrees planner.schema (graph.evaluation statement) block scope row := by
  have hnamed := Schema.named_of_build hschema
  obtain ⟨_, entity, _, hmakes⟩ := hplan.makes
  obtain ⟨source, b, b', _, hroot, _⟩ := Plan.compile_eq_ok hcompile
  have hanswered : Answered planner (graph.evaluation statement) plan.root statement.root [] answer :=
    ⟨⟨entity, hmakes⟩, ⟨_, _, _, _, b, b', hroot⟩, hrun⟩
  have hnodes := hanswered.succeeds hnamed hgraph
  refine ⟨succeeds_page hnodes, succeeds_related hnodes, fun row hhas => Answered.stands hnamed hgraph hhas hanswered,
    fun level block scope row hstands => ?_⟩
  obtain ⟨answer', hanswer', hrow⟩ := hanswered.of_stands hstands
  exact hanswer'.agrees hnamed hgraph hrow

/-! ## The editions of a novel -/

namespace Planner

/-- A work that is no novel, and a novel with one edition. -/
def stock : Graph :=
  { ((Graph.empty.addNode "w" work.labels []).addNode "n" novel.labels []).addNode "e" edition.labels [] with
    edges := [⟨"n", "PUBLISHED_AS", "e"⟩] }

theorem stock_typed : stock.Typed library.schema := by
  have hwork : (Graph.empty.addNode "w" work.labels []).Typed library.schema :=
    .insert "w" [] .empty (rfl : library.schema.entity "Work" = .ok work) rfl rfl
  have hnovel : ((Graph.empty.addNode "w" work.labels []).addNode "n" novel.labels []).Typed library.schema :=
    .insert "n" [] hwork (rfl : library.schema.entity "Novel" = .ok novel) rfl rfl
  have hedition : (((Graph.empty.addNode "w" work.labels []).addNode "n" novel.labels []).addNode "e"
      edition.labels []).Typed library.schema :=
    .insert "e" [] hnovel (rfl : library.schema.entity "Edition" = .ok edition) rfl rfl
  exact hedition.addEdge (rfl : Graph.addEdge _ "n" "PUBLISHED_AS" "e" = .ok _)

/-- Of two works the novel is given the sub-query for novels: the store ran its block and the edition is what becomes
the result. -/
theorem Plans.assembles_editions : ∃ plan statement answer row sub child inner,
    library.query "Work" [countOfNovels] .default = .ok plan ∧
      plan.compile library.schema = .ok statement ∧ stock.run statement = .ok answer ∧
      answer.rows.map (·.id) = ["n", "w"] ∧ row ∈ answer.rows ∧ row.labels = ["Novel", "Work"] ∧
      (∀ cache, ∃ page after,
        plan.root.assemblePage library.schema statement.root answer cache = .ok page after) ∧
      statement.root.child? "editions" 0 = some child ∧ child.appliesTo row.labels = true ∧
      (stock.evaluation statement).run child [(statement.root.var, row.id)] = .ok inner ∧
      inner.rows.map (·.id) = ["e"] ∧
      assembleFirst library.schema "Novel" row "editions" [sub] 0 statement.root =
        Branch.assembled library.schema "Novel" row ⟨"editions", 0, sub⟩ child inner := by
  have hbuild : Schema.build [.declare "Press" false [] [] [] [], .declare "Edition" false [] [press] [] [],
      .declare "Work" false [] [] [] [], .declare "Novel" false [] [editions] ["Work"] []] = .ok library.schema := rfl
  obtain ⟨plan, statement, answer, row, hplan, hcompile, hrun, hids, hrow, hlabels, hconcrete, hchildren, hediting⟩ :
      ∃ plan statement answer row, library.query "Work" [countOfNovels] .default = .ok plan ∧
        plan.compile library.schema = .ok statement ∧ stock.run statement = .ok answer ∧
        answer.rows.map (·.id) = ["n", "w"] ∧ row ∈ answer.rows ∧ row.labels = ["Novel", "Work"] ∧
        row.concreteType library.schema = .ok novel ∧
        (row.children.map fun entry => entry.2.rows.map (·.id)) = [["e"]] ∧
        ∃ sub, plan.root.parts = [("editions", [sub])] ∧ forType [sub] "Novel" = some (0, sub) :=
    ⟨_, _, _, _, rfl, rfl, rfl, rfl, List.mem_cons_self, rfl, rfl, rfl, _, rfl, rfl⟩
  obtain ⟨sub, hparts, hpick⟩ := hediting
  obtain ⟨hpages, _, _, hagrees⟩ := Planner.Plans.assembles hbuild stock_typed
    (.query (rfl : Options.build .all .byId none none none none false = .ok .default) hplan) hcompile hrun
  obtain ⟨child, inner, hplace, happlies, hran, hlookup, hassembled⟩ := (hagrees _ _ _ row (.here hrow)).picked novel
    hconcrete "editions" [sub] (by rw [hparts]; exact List.mem_cons_self) 0 sub hpick
  have hinner : inner.rows.map (·.id) = ["e"] := by
    have hmem := List.mem_map_of_mem (f := fun entry => entry.2.rows.map (·.id)) (Table.mem_of_lookup hlookup)
    rw [hchildren] at hmem
    exact List.mem_singleton.mp hmem
  exact ⟨plan, statement, answer, row, sub, child, inner, hplan, hcompile, hrun, hids, hrow, hlabels, hpages, hplace,
    happlies, hran, hinner, hassembled⟩

end Planner

end GraphQuery
