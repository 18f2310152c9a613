import GraphQuery.Proofs.Page.Slice
import GraphQuery.Proofs.Plan.Find
import GraphQuery.Proofs.Schema.Named

/-!
# Statements answer their plans

Running the block of a level gives what the level finds, read through the block (`Planner.Makes.view_run`), and
assembling a row is presenting what the row reads as (`Planner.Makes.assembleNode_eq`). So the answer to the statement of
a plan reads as what the plan finds (`Planner.Plans.view_run`), and assembling it is presenting that: names, parameters
and blocks leave no trace in results.
-/

namespace GraphQuery

theorem Schema.Named.plannedType {schema : Schema} (h : schema.Named) {name : String} {entity : EntityType}
    (he : schema.plannedType name = .ok entity) : entity.name = name := by
  unfold Schema.plannedType at he
  split at he
  · rename_i hsome
    cases he
    exact h _ _ hsome
  · cases he

/-! ## Selecting -/

section Selecting

variable {level : Level} {label resultKey : String} {source : Source} {subQuery : Nat}
  {onlyOnTypes : Option (List String)} {b b₁ : Bindings} {seek : Condition} {children : List Block} {scope : Scope}

/-- The page of a block is the page of its level. -/
theorem Level.page_block {α : Type} (rows : List (α × List Value)) :
    (level.block label source resultKey subQuery onlyOnTypes b seek children).page rows =
      level.options.pageRows level.limit rows := by
  have hdirections : (level.block label source resultKey subQuery onlyOnTypes b seek children).directions =
      level.options.order.keys.map fun key =>
        if level.options.last.isSome then key.direction.reverse else key.direction := by
    rw [Block.directions, Level.block, List.map_map]
    rfl
  unfold Block.page Options.pageRows
  rw [hdirections]
  rfl

variable [PropertyTable] {e : Evaluation}

/-- The condition of a block has the verdict of the filter of its level on every stored candidate. -/
theorem Level.filterM_block {candidates : List String} (hstored : ∀ id ∈ candidates, e.graph.Stored id)
    (hk : e.Knows (level.condition.lower b.freshVar.1 b.freshVar.2).2) :
    let block := level.block label source resultKey subQuery onlyOnTypes b seek children
    (candidates.filterM fun id => e.holds block.condition block.var id scope) = level.passing e.graph candidates := by
  intro block
  refine Result.filterM_congr fun id hid => ?_
  have htruth : e.truth block.condition ((block.var, id) :: scope) = level.condition.verdict e.graph id :=
    Evaluation.truth_lower (hstored id hid) hk
  rw [Evaluation.holds, htruth]

/-- A block keeps a stored node with its sort keys exactly when the node is beyond the cursors of its level. -/
theorem Level.keysBeyond_block {id : String} (hs : e.graph.Stored id)
    (hseek : level.options.seek (fun key => (level.options.order.pathNamed key.name).operand b.freshVar.1)
      (level.condition.lower b.freshVar.1 b.freshVar.2).2 = .ok (seek, b₁)) (hk : e.Knows b₁) :
    e.keysBeyond (level.block label source resultKey subQuery onlyOnTypes b seek children) scope id =
      .ok (if level.options.beyond e.graph id = some true then some (level.options.order.keyed e.graph id)
        else none) := by
  generalize hblock : level.block label source resultKey subQuery onlyOnTypes b seek children = block
  have hbeyond : e.truth block.seek ((block.var, id) :: scope) = .ok (level.options.beyond e.graph id) := by
    rw [← hblock]
    exact Evaluation.truth_seek (fun key _ => Evaluation.operand_eq hs _) hseek hk
  have hoperands : block.order.mapM (fun term => e.operand ((block.var, id) :: scope) term.operand) =
      .ok (level.options.order.values e.graph id) := by
    rw [← hblock]
    exact Evaluation.mapM_operand hs _
  rw [Evaluation.keysBeyond, Evaluation.holds, hbeyond]
  by_cases htrue : level.options.beyond e.graph id = some true
  · simp [htrue, hoperands, Order.keyed]
  · simp [htrue]

/-- A block selects what its level finds passing, and pages it in the same way. -/
theorem Level.select_block (hg : e.graph.WellFormed)
    (hseek : level.options.seek (fun key => (level.options.order.pathNamed key.name).operand b.freshVar.1)
      (level.condition.lower b.freshVar.1 b.freshVar.2).2 = .ok (seek, b₁)) (hk : e.Knows b₁) :
    let block := level.block label source resultKey subQuery onlyOnTypes b seek children
    e.select block scope = (do
      let candidates ← e.candidates block scope
      let passing ← level.passing e.graph candidates
      return (if level.options.countsTotal then some passing.length else none, level.paged e.graph passing)) := by
  intro block
  rw [Evaluation.select, Evaluation.matching]
  cases hcandidates : e.candidates block scope with
  | error error => rfl
  | ok candidates =>
    have hstored := (Evaluation.candidates_stored hg hcandidates).2
    have hpassing : (candidates.filterM fun id => e.holds block.condition block.var id scope) =
        level.passing e.graph candidates :=
      Level.filterM_block hstored (hk.of_prefix (Options.prefix_seek hseek).1)
    simp only [Result.ok_bind, hpassing]
    cases hpass : level.passing e.graph candidates with
    | error error => rfl
    | ok passing =>
      have hkeys : ∀ id ∈ passing, e.keysBeyond block scope id =
          .ok (if level.options.beyond e.graph id = some true then some (level.options.order.keyed e.graph id)
            else none) := by
        intro id hid
        obtain ⟨_, rfl⟩ := Result.filterM_eq_ok hpass
        exact Level.keysBeyond_block (hstored id (List.mem_filter.mp hid).1) hseek hk
      simp only [Result.ok_bind]
      rw [Result.filterMapM_eq_filterMap hkeys, Result.ok_bind]
      have hrows := Evaluation.filterMap_ite (fun id => decide (level.options.beyond e.graph id = some true))
        (level.options.order.keyed e.graph) passing
      simp only [decide_eq_true_eq] at hrows
      rw [hrows, Level.page_block]
      rfl

end Selecting

/-! ## Answers of children -/

section Children

variable [PropertyTable] {e : Evaluation} {labels : List String} {scope : Scope} {id : String}

/-- What a branch and its block have to do with each other below a row: the block applies when the sub-query does, and
its answer reads as what the sub-query finds. -/
structure Branch.Answers (e : Evaluation) (labels : List String) (scope : Scope) (id : String) (branch : Branch)
    (child : Block) : Prop where
  place : ∀ resultKey i, branch.standsAt resultKey i = decide (child.resultKey = resultKey ∧ child.subQuery = i)
  applies : child.appliesTo labels = appliesToLabels branch.sub.onlyOnTypes labels
  found : Answer.map (branch.sub.query.view child) <$> e.run child scope = branch.sub.query.find e.graph
    (e.graph.neighbours id branch.sub.relationship.label branch.sub.relationship.direction branch.sub.query.entityType)

/-- The answer of a child among several answers, as what its branch found. -/
def viewPair (answers : List (String × Answer Row)) (pair : Branch × Block) : Option ((String × Nat) × Answer Found) :=
  (List.lookup pair.2.var answers).map fun answer =>
    ((pair.1.resultKey, pair.1.index), answer.map (pair.1.sub.query.view pair.2))

theorem names_of_runChildren : ∀ {children : List Block} {answers : List (String × Answer Row)},
    e.runChildren children labels scope = .ok answers → (answers.map (·.1)).Sublist (children.map (·.var))
  | [], answers, h => by
    rw [Evaluation.runChildren] at h
    cases h
    exact List.Sublist.refl _
  | child :: rest, answers, h => by
    rw [Evaluation.runChildren] at h
    split at h
    · obtain ⟨answer, _, h⟩ := Result.bind_eq_ok.mp h
      obtain ⟨others, hothers, h⟩ := Result.bind_eq_ok.mp h
      cases h
      exact (names_of_runChildren hothers).cons_cons child.var
    · exact (names_of_runChildren h).cons child.var

omit [PropertyTable] in
/-- Answers of blocks of other variables do not matter. -/
theorem viewPair_cons {answers : List (String × Answer Row)} {name : String} {answer : Answer Row}
    {pairs : List (Branch × Block)} (h : ∀ pair ∈ pairs, pair.2.var ≠ name) :
    pairs.filterMap (viewPair ((name, answer) :: answers)) = pairs.filterMap (viewPair answers) := by
  refine List.filterMap_congr fun pair hpair => ?_
  rw [viewPair, viewPair, Table.lookup_cons, if_neg (h pair hpair)]

/-- The answers of the children read as what the branches find. -/
theorem viewPairs_runChildren {branches : List Branch} {children : List Block}
    (h : List.Forall₂ (Branch.Answers e labels scope id) branches children) (hn : (children.map (·.var)).Nodup) :
    (fun answers => (branches.zip children).filterMap (viewPair answers)) <$> e.runChildren children labels scope =
      Level.findBranches e.graph id labels branches := by
  induction h with
  | nil =>
    rw [Evaluation.runChildren, Level.findBranches]
    rfl
  | @cons branch child branches children hbranch _ ih =>
    obtain ⟨hnotin, hrest⟩ := List.nodup_cons.mp hn
    have ih := ih hrest
    have hother : ∀ pair ∈ branches.zip children, pair.2.var ≠ child.var := by
      intro pair hpair heq
      exact hnotin (List.mem_map.mpr ⟨pair.2, (List.of_mem_zip hpair).2, heq⟩)
    rw [Evaluation.runChildren, Level.findBranches, hbranch.applies, ← hbranch.found, ← ih, List.zip_cons_cons]
    cases appliesToLabels branch.sub.onlyOnTypes labels with
    | true =>
      rw [if_pos rfl, if_pos rfl]
      cases e.run child scope with
      | error error => rfl
      | ok answer =>
        cases e.runChildren children labels scope with
        | error error => rfl
        | ok answers =>
          simp only [Result.ok_bind, Result.map_ok, Result.pure_eq_ok]
          rw [List.filterMap_cons, viewPair_cons hother, viewPair, Table.lookup_cons, if_pos rfl]
          rfl
    | false =>
      rw [if_neg Bool.false_ne_true, if_neg Bool.false_ne_true]
      cases hchildren : e.runChildren children labels scope with
      | error error => rfl
      | ok answers =>
        -- the block was not run, and no other block has its variable
        have hnone : List.lookup child.var answers = none := by
          refine Table.lookup_eq_none fun x hx heq => hnotin ?_
          exact (names_of_runChildren hchildren).subset (List.mem_map.mpr ⟨x, hx, heq⟩)
        simp only [Result.map_ok]
        rw [List.filterMap_cons, viewPair, hnone]
        rfl

omit [PropertyTable] in
/-- The first child at the place of a branch is its own when no two branches share a place. -/
theorem find_child_of_zip {branches : List Branch} {children : List Block}
    (h : List.Forall₂ (fun branch child => ∀ resultKey i,
      branch.standsAt resultKey i = decide (child.resultKey = resultKey ∧ child.subQuery = i)) branches children)
    (hn : (branches.map fun branch => (branch.resultKey, branch.index)).Nodup) :
    ∀ pair ∈ branches.zip children, children.find?
      (fun c => c.resultKey = pair.1.resultKey ∧ c.subQuery = pair.1.index) = some pair.2 := by
  induction h with
  | nil => exact nofun
  | @cons branch child branches children hplace hrest ih =>
    obtain ⟨hnotin, hn⟩ := List.nodup_cons.mp hn
    intro pair hpair
    rw [List.zip_cons_cons] at hpair
    rw [List.find?_cons, ← hplace]
    rcases List.mem_cons.mp hpair with rfl | hpair
    · simp [Branch.standsAt]
    · have hne : branch.standsAt pair.1.resultKey pair.1.index = false := by
        refine decide_eq_false fun heq => hnotin (List.mem_map.mpr ⟨pair.1, (List.of_mem_zip hpair).1, ?_⟩)
        exact Prod.ext heq.1.symm heq.2.symm
      rw [hne]
      exact ih hn pair hpair

end Children

/-! ## Running -/

/-- No two sub-queries under one result key share an index. -/
theorem Level.nodup_places_subs (resultKey : String) : ∀ (subs : List (SubQuery Level)) (i : Nat),
    (∀ branch ∈ Level.branchesOfSubs resultKey subs i, i ≤ branch.index) ∧
      ((Level.branchesOfSubs resultKey subs i).map fun branch => (branch.resultKey, branch.index)).Nodup
  | [], _ => ⟨nofun, .nil⟩
  | sub :: rest, i => by
    obtain ⟨hle, hn⟩ := nodup_places_subs resultKey rest (i + 1)
    refine ⟨fun branch hbranch => ?_, List.nodup_cons.mpr ⟨fun hmem => ?_, hn⟩⟩
    · rcases List.mem_cons.mp hbranch with rfl | hbranch
      · exact Nat.le_refl _
      · exact Nat.le_of_succ_le (hle branch hbranch)
    · obtain ⟨branch, hbranch, heq⟩ := List.mem_map.mp hmem
      have hindex : branch.index = i := congrArg Prod.snd heq
      have := hle branch hbranch
      omega

theorem Level.nodup_places_parts : ∀ {parts : List (String × List (SubQuery Level))}, (parts.map (·.1)).Nodup →
    ((Level.branchesOfParts parts).map fun branch => (branch.resultKey, branch.index)).Nodup
  | [], _ => .nil
  | (key, subs) :: rest, hn => by
    obtain ⟨hnotin, hrest⟩ := List.nodup_cons.mp hn
    rw [Level.branchesOfParts, List.map_append, List.nodup_append]
    refine ⟨(Level.nodup_places_subs key subs 0).2, nodup_places_parts hrest, fun x hx y hy heq => ?_⟩
    -- places below different result keys differ
    obtain ⟨branch, hbranch, rfl⟩ := List.mem_map.mp hx
    obtain ⟨other, hother, rfl⟩ := List.mem_map.mp hy
    obtain ⟨others, hpart, _⟩ := Planner.mem_branchesOfParts hother
    have hkey : key = other.resultKey := (Planner.mem_branchesOfSubs hbranch).1.symm.trans (congrArg Prod.fst heq)
    exact hnotin (List.mem_map.mpr ⟨_, hpart, hkey.symm⟩)

/-- No two branches of a level share a place when its result keys are distinct. -/
theorem Level.nodup_places {level : Level} (h : Table.Sorted level.parts) :
    (level.branches.map fun branch => (branch.resultKey, branch.index)).Nodup :=
  Level.nodup_places_parts h.nodup_names

section Running

variable {planner : Planner}

/-- Every child was compiled from its branch, and its parameters are among those registered in the end. -/
theorem Compiles.forall₂_values {schema : Schema} {entity : EntityType} {var : String} {branches : List Branch}
    {children : List Block} {b b' : Bindings} (h : Compiles schema entity var branches b children b') :
    List.Forall₂ (fun branch child => branch ∈ branches ∧ ∃ b₁ b₂, branch.sub.query.compile schema
      (.traversal var branch.sub.relationship.label branch.sub.relationship.direction) branch.resultKey branch.index
      branch.sub.onlyOnTypes b₁ = .ok (child, b₂) ∧ b₂.values <+: b'.values) branches children := by
  induction h with
  | nil => exact .nil
  | cons _ hchild hrest ih =>
    refine .cons ⟨List.mem_cons_self, _, _, hchild, hrest.values⟩ (ih.imp fun branch child hbranch => ?_)
    exact ⟨List.mem_cons_of_mem _ hbranch.1, hbranch.2⟩

/-- A branch and the block at the same index belong together: the block is the one found at the place of the branch, and
it was compiled from the branch. -/
theorem Compiles.counterpart {schema : Schema} {entity : EntityType} {var : String} {branches : List Branch}
    {children : List Block} {b b' : Bindings} (h : Compiles schema entity var branches b children b')
    (hn : (branches.map fun branch => (branch.resultKey, branch.index)).Nodup) {i : Nat} (hi : i < branches.length)
    (hi' : i < children.length) :
    children.find? (fun c => c.resultKey = branches[i].resultKey ∧ c.subQuery = branches[i].index) =
      some children[i] ∧
    ∃ b₁ b₂, branches[i].sub.query.compile schema
      (.traversal var branches[i].sub.relationship.label branches[i].sub.relationship.direction) branches[i].resultKey
      branches[i].index branches[i].sub.onlyOnTypes b₁ = .ok (children[i], b₂) := by
  have hcompiled := h.forall₂_values
  obtain ⟨_, b₁, b₂, hchild, _⟩ := (List.forall₂_iff_get.mp hcompiled).2 i hi hi'
  have hlt : i < (branches.zip children).length := by
    rw [List.length_zip]
    omega
  have hpair : (branches[i], children[i]) ∈ branches.zip children := by
    rw [← List.getElem_zip (h := hlt)]
    exact List.getElem_mem hlt
  refine ⟨find_child_of_zip (hcompiled.imp fun branch child hbranch => ?_) hn _ hpair, b₁, b₂, hchild⟩
  obtain ⟨_, b₃, b₄, hchild, _⟩ := hbranch
  exact Branch.CompilesTo.standsAt_iff ⟨b₃, b₄, hchild⟩

/-- Reading a row branch by branch is reading its answers pair by pair. -/
theorem filterMap_viewBranch {branches : List Branch} {block : Block} {row : Row}
    {answers : List (String × Answer Row)} (hlength : branches.length = block.children.length)
    (hchild : ∀ pair ∈ branches.zip block.children,
      block.child? pair.1.resultKey pair.1.index = some pair.2)
    (hanswers : ∀ name, List.lookup name row.children = List.lookup name answers) :
    branches.filterMap (Level.viewBranch block row) =
      (branches.zip block.children).filterMap (viewPair answers) := by
  have hfst : branches = (branches.zip block.children).map (·.1) := by
    rw [List.map_fst_zip (Nat.le_of_eq hlength)]
  conv => lhs; rw [hfst]
  rw [List.filterMap_map]
  refine List.filterMap_congr fun pair hpair => ?_
  show Level.viewBranch block row pair.1 = viewPair answers pair
  rw [Level.viewBranch, hchild pair hpair, viewPair]
  simp only [Option.bind_eq_bind, Option.bind_some, hanswers]
  cases List.lookup pair.2.var answers <;> rfl

variable [PropertyTable] {e : Evaluation}

/-- The children of a block answer the branches of its level below every row, once each of them runs as its branch
finds. -/
theorem Compiles.forall₂_answers (hnamed : planner.schema.Named) {entity : EntityType} {var : String}
    {branches : List Branch} {children : List Block} {b b' : Bindings}
    (h : Compiles planner.schema entity var branches b children b')
    {labels : List String} {scope : Scope} {id : String}
    (hfound : ∀ branch ∈ branches, ∀ {child : Block} {b₁ b₂ : Bindings},
      branch.sub.query.compile planner.schema
        (.traversal var branch.sub.relationship.label branch.sub.relationship.direction) branch.resultKey branch.index
        branch.sub.onlyOnTypes b₁ = .ok (child, b₂) → b₂.values <+: b'.values →
      Answer.map (branch.sub.query.view child) <$> e.run child ((var, id) :: scope) =
        e.candidates child ((var, id) :: scope) >>= branch.sub.query.find e.graph) :
    List.Forall₂ (Branch.Answers e labels ((var, id) :: scope) id) branches children := by
  refine h.forall₂_values.imp fun branch child hbranch => ?_
  obtain ⟨hmem, b₁, b₂, hcompiled, hvalues⟩ := hbranch
  have hplace := Branch.CompilesTo.standsAt_iff ⟨b₁, b₂, hcompiled⟩
  have hchild := hfound branch hmem hcompiled hvalues
  obtain ⟨childType, _, _, _, hchildType, _, _, _, rfl⟩ := Level.compile_eq_ok.mp hcompiled
  refine ⟨hplace, rfl, hchild.trans ?_⟩
  rw [Evaluation.candidates, Level.block, hnamed.plannedType hchildType]
  simp only [Evaluation.bound_cons, Result.ok_bind]
  rfl

/-- A row reads as what is found for its node when the children of the block answer the branches of the level. -/
theorem Level.view_rowOf {level : Level} {block : Block} {scope : Scope} (hsorted : Table.Sorted level.parts)
    (horder : block.order.map (·.name) = level.options.order.names) (hn : (block.children.map (·.var)).Nodup)
    (hanswers : ∀ (labels : List String) (id : String),
      List.Forall₂ (Branch.Answers e labels ((block.var, id) :: scope) id) level.branches block.children)
    (keyed : String × List Value) : level.view block <$> e.rowOf block scope keyed = level.findRow e.graph keyed := by
  rw [Evaluation.rowOf, Level.findRow]
  cases e.graph.node keyed.1 with
  | error error => rfl
  | ok node =>
    have hbelow := hanswers node.labels keyed.1
    have hchild : ∀ pair ∈ level.branches.zip block.children,
        block.child? pair.1.resultKey pair.1.index = some pair.2 :=
      find_child_of_zip (hbelow.imp fun _ _ h => h.place) (Level.nodup_places hsorted)
    simp only [Result.ok_bind]
    rw [← viewPairs_runChildren hbelow hn]
    cases hrun : e.runChildren block.children node.labels ((block.var, keyed.1) :: scope) with
    | error error => rfl
    | ok answers =>
      have hnames : (answers.map (·.1)).Nodup := hn.sublist (names_of_runChildren hrun)
      simp only [Result.ok_bind, Result.map_ok, Result.pure_eq_ok]
      rw [Level.view_eq, filterMap_viewBranch hbelow.length_eq hchild fun name => Table.lookup_ofList hnames, horder]
      rfl

/-- Running the block of a level is finding what the level finds, read through the block. -/
theorem Planner.Makes.view_run {entity : EntityType} {level : Level} (hmakes : planner.Makes entity level)
    (hnamed : planner.schema.Named) (hg : e.graph.WellFormed) :
    ∀ {source : Source} {resultKey : String} {subQuery : Nat} {onlyOnTypes : Option (List String)}
      {b b' : Bindings} {block : Block} {scope : Scope},
        level.compile planner.schema source resultKey subQuery onlyOnTypes b = .ok (block, b') → e.Knows b' →
          Answer.map (level.view block) <$> e.run block scope = e.candidates block scope >>= level.find e.graph := by
  induction hmakes with
  | @mk entity level hheads hcardinality htargets hnested ih =>
    intro source resultKey subQuery onlyOnTypes b b' block scope hlevel hk
    obtain ⟨type, seek, b₁, children, htype, hfits, hseek, hchildren, rfl⟩ := Level.compile_eq_ok.mp hlevel
    have hk₁ : e.Knows b₁ := hk.of_prefix hchildren.values
    generalize hblock : level.block type.name source resultKey subQuery onlyOnTypes b seek children = block
    have hblockVar : block.var = b.freshVar.1 := by
      rw [← hblock]
      rfl
    have hblockChildren : block.children = children := by
      rw [← hblock]
      rfl
    have horder : block.order.map (·.name) = level.options.order.names := by
      rw [← hblock, Level.block, List.map_map]
      rfl
    have hrow : ∀ keyed, level.view block <$> e.rowOf block scope keyed = level.findRow e.graph keyed := by
      refine Level.view_rowOf hheads.sorted horder (hblockChildren ▸ hchildren.nodup_vars) fun labels id => ?_
      rw [hblockChildren, hblockVar]
      refine hchildren.forall₂_answers hnamed fun branch hmem _ _ _ hcompiled hvalues => ?_
      obtain ⟨target, htarget⟩ := htargets branch hmem
      exact ih branch hmem target htarget hcompiled (hk.of_prefix hvalues)
    rw [Evaluation.run_eq, ← hblock, Level.select_block hg hseek hk₁, hblock]
    cases e.candidates block scope with
    | error error => rfl
    | ok candidates =>
      simp only [Result.ok_bind]
      rw [Level.find_eq]
      cases level.passing e.graph candidates with
      | error error => rfl
      | ok passing =>
        simp only [Result.ok_bind, Result.pure_eq_ok]
        have hrows : List.map (level.view block) <$> (level.paged e.graph passing).mapM (e.rowOf block scope) =
            (level.paged e.graph passing).mapM (level.findRow e.graph) :=
          Result.map_mapM.trans (Result.mapM_congr fun keyed _ => hrow keyed)
        rw [← hrows]
        cases (level.paged e.graph passing).mapM (e.rowOf block scope) <;> rfl

end Running

/-! ## Assembling -/

section Assembling

variable {schema : Schema} {level : Level} {block : Block} {row : Row} {found : Found}

/-- A page of rows is the page of what they read as. -/
theorem Options.page_map {options : Options} {nodeOf : Row → Assembly Node} {presentOf : Found → Assembly Node}
    {view : Row → Found} (hkeys : ∀ row, (view row).keys = row.keys) (hnode : ∀ row, nodeOf row = presentOf (view row))
    (answer : Answer Row) : options.page nodeOf answer = options.presentPage presentOf (answer.map view) := by
  have hitem : ∀ row, (do return ⟨Cursor.encode options.order row.keys, ← nodeOf row⟩ : Assembly (Item Node)) =
      options.presentItem presentOf (view row) := by
    intro row
    rw [Options.presentItem, hkeys, hnode]
  unfold Options.page Options.presentPage Answer.map
  simp only [Options.slice_map, hitem, List.mapM_map]
  rfl

theorem Level.related_map {nodeOf : Row → Assembly Node} {presentOf : Found → Assembly Node}
    {view : Row → Found} (hkeys : ∀ row, (view row).keys = row.keys) (hnode : ∀ row, nodeOf row = presentOf (view row))
    (answer : Answer Row) : level.related nodeOf answer = level.presentRelated presentOf (answer.map view) := by
  unfold Level.related Level.presentRelated
  cases level.cardinality with
  | one =>
    obtain ⟨totalCount, rows⟩ := answer
    cases rows with
    | nil => rfl
    | cons row rest =>
      simp only [Answer.map, List.map_cons, hnode]
  | many => rw [Options.page_map hkeys hnode]

/-- What assembling the result of a branch needs: the block of the branch, and that its answer and its rows read as
what was found. -/
structure Branch.Shown (schema : Schema) (block : Block) (row : Row) (found : Found) (branch : Branch)
    (child : Block) : Prop where
  block : block.child? branch.resultKey branch.index = some child
  answer : List.lookup (branch.resultKey, branch.index) found.related =
    (List.lookup child.var row.children).map (Answer.map (branch.sub.query.view child))
  node : ∀ row, branch.sub.query.assembleNode schema child row =
    branch.sub.query.presentNode schema (branch.sub.query.view child row)

theorem Level.view_keys (level : Level) (block : Block) (row : Row) : (level.view block row).keys = row.keys := by
  rw [Level.view_eq]

theorem assembleFirst_eq {typeName resultKey : String} (hid : found.id = row.id) : ∀ {subs : List (SubQuery Level)}
    {i : Nat}, (∀ branch ∈ Level.branchesOfSubs resultKey subs i, ∃ child, branch.Shown schema block row found child) →
      assembleFirst schema typeName row resultKey subs i block =
        Level.presentFirst schema typeName found resultKey subs i
  | [], i, _ => by rw [assembleFirst, Level.presentFirst]
  | ⟨relationship, query, onlyOnTypes⟩ :: rest, i, h => by
    obtain ⟨⟨child, hchild⟩, hrest⟩ := List.forall_mem_cons.mp h
    rw [assembleFirst, Level.presentFirst, assembleFirst_eq hid hrest, hchild.block, hchild.answer]
    split
    · have hmap : ((List.lookup child.var row.children).map (Answer.map (query.view child))).getD .empty =
          ((List.lookup child.var row.children).getD .empty).map (query.view child) := by
        cases List.lookup child.var row.children <;> rfl
      simp only [hmap, Level.related_map (query.view_keys child) hchild.node, hid]
    · rfl

theorem assembleParts_eq {typeName : String} (hid : found.id = row.id) :
    ∀ {parts : List (String × List (SubQuery Level))},
      (∀ branch ∈ Level.branchesOfParts parts, ∃ child, branch.Shown schema block row found child) →
        assembleParts schema typeName row parts block = Level.presentParts schema typeName found parts
  | [], _ => by rw [assembleParts, Level.presentParts]
  | (resultKey, subs) :: rest, h => by
    have hrest : assembleParts schema typeName row rest block = Level.presentParts schema typeName found rest :=
      assembleParts_eq hid fun branch hbranch => h branch (List.mem_append_right _ hbranch)
    rw [assembleParts, Level.presentParts,
      assembleFirst_eq hid fun branch hbranch => h branch (List.mem_append_left _ hbranch)]
    refine bind_congr fun first => ?_
    cases first with
    | none => exact hrest
    | some result => exact congrArg (fun later => do return (resultKey, result) :: (← later)) hrest

theorem Level.assembleNode_of_shown (hview : level.view block row = found)
    (h : ∀ branch ∈ level.branches, ∃ child, branch.Shown schema block row found child) :
    level.assembleNode schema block row = level.presentNode schema found := by
  obtain ⟨entityType, options, condition, limit, cardinality, parts⟩ := level
  rw [Level.view_eq] at hview
  have hid : found.id = row.id := by rw [← hview]
  have htype : row.concreteType schema = found.concreteType schema := by
    rw [← hview]
    rfl
  have hproperties : found.properties = row.properties := by rw [← hview]
  rw [Level.assembleNode, Level.presentNode, htype, hid, hproperties]
  simp only [assembleParts_eq hid h]

/-- The answer that a row has for a branch. -/
theorem lookup_filterMap_viewBranch {branches : List Branch}
    (hn : (branches.map fun branch => (branch.resultKey, branch.index)).Nodup) {branch : Branch}
    (hbranch : branch ∈ branches) :
    List.lookup (branch.resultKey, branch.index) (branches.filterMap (Level.viewBranch block row)) =
      (Level.viewBranch block row branch).map (·.2) := by
  induction branches with
  | nil => cases hbranch
  | cons first rest ih =>
    obtain ⟨hnotin, hrest⟩ := List.nodup_cons.mp hn
    have hplace : ∀ {b : Branch} {found : (String × Nat) × Answer Found},
        Level.viewBranch block row b = some found → found.1 = (b.resultKey, b.index) := by
      intro b found h
      obtain ⟨child, _, h⟩ := Option.bind_eq_some_iff.mp h
      obtain ⟨answer, _, h⟩ := Option.bind_eq_some_iff.mp h
      cases h
      rfl
    rw [List.filterMap_cons]
    rcases List.mem_cons.mp hbranch with rfl | hmem
    · cases hview : Level.viewBranch block row branch with
      | none =>
        show List.lookup (branch.resultKey, branch.index) (rest.filterMap (Level.viewBranch block row)) = none
        refine List.lookup_eq_none_iff.mpr fun x hx => bne_iff_ne.mpr fun heq => hnotin ?_
        obtain ⟨other, hother, hfound⟩ := List.mem_filterMap.mp hx
        exact List.mem_map.mpr ⟨other, hother, (hplace hfound).symm.trans heq.symm⟩
      | some found =>
        obtain ⟨place, answer⟩ := found
        have hfirst : place = (branch.resultKey, branch.index) := hplace hview
        show List.lookup _ ((place, answer) :: _) = some answer
        rw [hfirst, List.lookup_cons_self]
    · rw [← ih hrest hmem]
      cases hview : Level.viewBranch block row first with
      | none => rfl
      | some found =>
        obtain ⟨place, answer⟩ := found
        have hne : (branch.resultKey, branch.index) ≠ place := by
          intro heq
          exact hnotin (List.mem_map.mpr ⟨branch, hmem, heq.trans (hplace hview)⟩)
        show List.lookup _ ((place, answer) :: _) = _
        rw [List.lookup_cons, beq_false_of_ne hne]

variable {planner : Planner}

/-- Assembling a row is presenting what the row reads as. -/
theorem Planner.Makes.assembleNode_eq {entity : EntityType} {level : Level} (hmakes : planner.Makes entity level) :
    ∀ {source : Source} {resultKey : String} {subQuery : Nat} {onlyOnTypes : Option (List String)}
      {b b' : Bindings} {block : Block},
        level.compile planner.schema source resultKey subQuery onlyOnTypes b = .ok (block, b') →
          ∀ row, level.assembleNode planner.schema block row =
            level.presentNode planner.schema (level.view block row) := by
  induction hmakes with
  | @mk entity level hheads hcardinality htargets hnested ih =>
    intro source resultKey subQuery onlyOnTypes b b' block hlevel row
    obtain ⟨type, seek, b₁, children, htype, hfits, hseek, hchildren, rfl⟩ := Level.compile_eq_ok.mp hlevel
    generalize hblock : level.block type.name source resultKey subQuery onlyOnTypes b seek children = block
    have hblockChildren : block.children = children := by rw [← hblock]; rfl
    have hn := Level.nodup_places hheads.sorted
    refine Level.assembleNode_of_shown rfl fun branch hbranch => ?_
    -- the block at the same place
    obtain ⟨i, hi, rfl⟩ := List.getElem_of_mem hbranch
    have hi' : i < children.length := hchildren.forall₂_values.length_eq ▸ hi
    obtain ⟨hplace, b₂, b₃, hchild⟩ := hchildren.counterpart hn hi hi'
    obtain ⟨target, htarget⟩ := htargets _ hbranch
    have hfind : block.child? level.branches[i].resultKey level.branches[i].index = some children[i] := by
      rw [Block.child?, hblockChildren]
      exact hplace
    refine ⟨children[i], hfind, ?_, ih _ hbranch target htarget hchild⟩
    rw [Level.view_eq, lookup_filterMap_viewBranch hn hbranch, Level.viewBranch, hfind]
    simp only [Option.bind_eq_bind, Option.bind_some]
    cases List.lookup children[i].var row.children <;> rfl

end Assembling

/-! ## Plans -/

/-- The nodes that a plan starts from. -/
def Plan.candidates (plan : Plan) (graph : Graph) : Result (List String) :=
  match plan.anchor with
  | none => .ok (graph.labelled plan.root.entityType)
  | some anchor =>
    match anchor.parentId with
    | .string parent =>
      .ok (if graph.hasLabel parent anchor.parentType then
        graph.neighbours parent anchor.relationship.label anchor.relationship.direction plan.root.entityType else [])
    | other => .error (.storeExecution (.parentNotText other))

/-- What a plan finds. -/
def Plan.find [PropertyTable] (plan : Plan) (graph : Graph) : Result (Answer Found) := do
  plan.root.find graph (← plan.candidates graph)

section Plans

variable {planner : Planner} {entity : EntityType} {plan : Plan} {statement : Statement} {graph : Graph}

namespace Plan

/-- The answer to the statement of a plan whose levels were made by planning reads as what the plan finds. -/
theorem view_run [PropertyTable] (hmakes : planner.Makes entity plan.root) (hnamed : planner.schema.Named)
    (hg : graph.WellFormed) (hcompile : plan.compile planner.schema = .ok statement) :
    Answer.map (plan.root.view statement.root) <$> graph.run statement = plan.find graph := by
  obtain ⟨source, b, b', hsource, hroot, hparams⟩ := Plan.compile_eq_ok hcompile
  have hk : (graph.evaluation statement).Knows b' := Graph.knows_of_params hparams
  have hview : Answer.map (plan.root.view statement.root) <$> graph.run statement =
      (graph.evaluation statement).candidates statement.root [] >>= plan.root.find graph :=
    hmakes.view_run hnamed hg hroot hk
  rw [hview, Plan.find]
  obtain ⟨hgrows, _⟩ := Level.grows hroot
  obtain ⟨type, seek, b₁, children, htype, _, _, _, hblock⟩ := Level.compile_eq_ok.mp hroot
  have hlabel : statement.root.label = plan.root.entityType := by
    rw [hblock, Level.block, hnamed.plannedType htype]
  have hkb : (graph.evaluation statement).Knows b := hk.of_prefix hgrows.values
  have hcandidates : (graph.evaluation statement).candidates statement.root [] = plan.candidates graph := by
    have hroot : statement.root.source = source := by rw [hblock, Level.block]
    rw [Evaluation.candidates, Plan.candidates, hroot, hlabel]
    cases hanchor : plan.anchor with
    | none =>
      rw [hanchor] at hsource
      cases hsource
      rfl
    | some anchor =>
      rw [hanchor] at hsource
      obtain ⟨parent, _, hsource⟩ := Result.bind_eq_ok.mp hsource
      obtain ⟨_, _, hsource⟩ := Result.bind_eq_ok.mp hsource
      cases hsource
      have hparam : (graph.evaluation statement).param (Bindings.empty.addParam anchor.parentId).1 = .ok anchor.parentId :=
        Evaluation.Knows.param hkb
      simp only [hparam, Result.ok_bind]
      cases anchor.parentId with
      | string parent =>
        have hgraph : (graph.evaluation statement).graph = graph := rfl
        by_cases hlabel : graph.hasLabel parent anchor.parentType = true <;> simp [hgraph, hlabel]
      | _ => rfl
  rw [hcandidates]

theorem assembleNode_eq (hmakes : planner.Makes entity plan.root) (hcompile : plan.compile planner.schema = .ok statement)
    (row : Row) : plan.root.assembleNode planner.schema statement.root row =
      plan.root.presentNode planner.schema (plan.root.view statement.root row) := by
  obtain ⟨source, b, b', _, hroot, _⟩ := Plan.compile_eq_ok hcompile
  exact hmakes.assembleNode_eq hroot row

/-- Assembling the page of an answer is presenting what the answer reads as. -/
theorem assemblePage_eq (hmakes : planner.Makes entity plan.root) (hcompile : plan.compile planner.schema = .ok statement)
    (answer : Answer Row) : plan.root.assemblePage planner.schema statement.root answer =
      plan.root.presentPage planner.schema (answer.map (plan.root.view statement.root)) :=
  Options.page_map (plan.root.view_keys statement.root) (Plan.assembleNode_eq hmakes hcompile) answer

/-- Assembling the result of an answer is presenting what the answer reads as. -/
theorem assemble_eq (hmakes : planner.Makes entity plan.root) (hcompile : plan.compile planner.schema = .ok statement)
    (answer : Answer Row) : plan.root.assemble planner.schema statement.root answer =
      plan.root.present planner.schema (answer.map (plan.root.view statement.root)) :=
  Level.related_map (plan.root.view_keys statement.root) (Plan.assembleNode_eq hmakes hcompile) answer

end Plan

/-- The answer to the statement of the plan of a request reads as what the plan finds. -/
theorem Planner.Plans.view_run [PropertyTable] (h : planner.Plans plan) (hnamed : planner.schema.Named)
    (hg : graph.WellFormed) (hcompile : plan.compile planner.schema = .ok statement) :
    Answer.map (plan.root.view statement.root) <$> graph.run statement = plan.find graph := by
  obtain ⟨_, _, _, hmakes⟩ := h.makes
  exact Plan.view_run hmakes hnamed hg hcompile

end Plans

end GraphQuery
