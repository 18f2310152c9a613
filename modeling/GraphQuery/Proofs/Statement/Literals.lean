import GraphQuery.Proofs.Cursor.RoundTrip
import GraphQuery.Proofs.Plan.Names
import GraphQuery.Proofs.Plan.Paged
import GraphQuery.Proofs.Schema.Lineage
import GraphQuery.Statement.Render

/-!
# Statements without literals

Nothing a client writes stands in the text of a statement: not the operands of its filters, not the values in its
cursors, not the identifier a plan starts from and not its result keys. Plans that differ in nothing else
(`Plan.Alike`) compile to statements of one text, whose parameters have the same names (`Plan.Alike.render_eq`).

Lowering hands out the same names for a filter and for what is left of it without its operands (`Filter.lower_blank`),
seeking looks at no value but to see whether it is null (`Options.seek_alike`), and the text of a block does not depend
on its result key (`Statement.render_unnamed`).
-/

namespace GraphQuery

/-! ## The names handed out -/

/-- Whether as many names have been handed out, whatever the values of the parameters are. -/
structure Bindings.Alike (b b' : Bindings) : Prop where
  varCount : b.varCount = b'.varCount
  paramCount : b.values.length = b'.values.length

/-- Whether two steps of compiling give the same result and hand out the same names. -/
def Bindings.Agree {α : Type} (first second : α × Bindings) : Prop := first.1 = second.1 ∧ first.2.Alike second.2

namespace Bindings

variable {b b' b'' : Bindings}

theorem Alike.refl (b : Bindings) : b.Alike b := ⟨rfl, rfl⟩

theorem Alike.trans (h : b.Alike b') (h' : b'.Alike b'') : b.Alike b'' :=
  ⟨h.varCount.trans h'.varCount, h.paramCount.trans h'.paramCount⟩

theorem Alike.symm (h : b.Alike b') : b'.Alike b := ⟨h.varCount.symm, h.paramCount.symm⟩

theorem Agree.trans {α : Type} {first second third : α × Bindings} (h : Agree first second)
    (h' : Agree second third) : Agree first third :=
  ⟨h.1.trans h'.1, h.2.trans h'.2⟩

theorem Agree.symm {α : Type} {first second : α × Bindings} (h : Agree first second) : Agree second first :=
  ⟨h.1.symm, h.2.symm⟩

theorem freshVar_alike (h : b.Alike b') : Agree b.freshVar b'.freshVar :=
  ⟨congrArg variableName h.varCount, congrArg (· + 1) h.varCount, h.paramCount⟩

theorem addParam_alike (h : b.Alike b') (value value' : Value) : Agree (b.addParam value) (b'.addParam value') := by
  refine ⟨congrArg paramName h.paramCount, h.varCount, ?_⟩
  simp only [addParam, List.length_append, List.length_singleton, h.paramCount]

theorem addParams_alike : ∀ {values values' : List Value} {b b' : Bindings}, b.Alike b' →
    values.length = values'.length → Agree (b.addParams values) (b'.addParams values')
  | [], [], _, _, h, _ => ⟨rfl, h⟩
  | value :: rest, value' :: rest', b, b', h, hlength => by
    obtain ⟨hname, hparam⟩ := addParam_alike h value value'
    obtain ⟨hnames, hparams⟩ := addParams_alike hparam (Nat.succ.inj hlength)
    exact ⟨by rw [addParams, addParams, hname, hnames], hparams⟩

theorem compare_alike (h : b.Alike b') (operand : Operand) (op : CompareOp) (value value' : Value) :
    Agree (b.compare operand op value) (b'.compare operand op value') := by
  obtain ⟨hname, hparam⟩ := addParam_alike h value value'
  exact ⟨congrArg (Condition.compare operand op) hname, hparam⟩

theorem range_alike (h : b.Alike b') (operand : Operand) (op : CompareOp) (value value' : Value) :
    Agree (b.range operand op value) (b'.range operand op value') := by
  obtain ⟨hcondition, hparam⟩ := compare_alike h operand op value value'
  exact ⟨congrArg (fun comparison => Condition.and [.not (.isNull operand), comparison]) hcondition, hparam⟩

theorem text_alike (h : b.Alike b') (operand : Operand) (op : TextOp) (argument argument' : String) :
    Agree (b.text operand op argument) (b'.text operand op argument') := by
  obtain ⟨hname, hparam⟩ := addParam_alike h (.string argument) (.string argument')
  exact ⟨congrArg (Condition.text operand op) hname, hparam⟩

/-- The names of the parameters say only how many there are. -/
theorem names_params (b : Bindings) :
    b.params.map (·.1) = sortNames ((List.range b.values.length).map paramName) := by
  have hnames : (b.values.zipIdx.map fun entry => (paramName entry.2, entry.1)).map (·.1) =
      (List.range b.values.length).map paramName := by
    rw [List.map_map, List.range_eq_range', ← List.zipIdx_map_snd, List.map_map]
    rfl
  rw [← hnames]
  exact Table.names_ofList _

end Bindings

/-! ## Filters without operands -/

/-- A test without its operands; how many there are is kept. -/
def PropertyTest.blank : PropertyTest → PropertyTest
  | .eq _ => .eq .null
  | .oneOf values => .oneOf (values.map fun _ => .null)
  | .lt _ => .lt .null
  | .lte _ => .lte .null
  | .gt _ => .gt .null
  | .gte _ => .gte .null
  | .startsWith _ => .startsWith ""
  | .endsWith _ => .endsWith ""
  | .contains _ => .contains ""
  | .matching _ => .matching ""
  | .isNull expected => .isNull expected

namespace Filter

mutual

/-- A filter without the operands of its tests. -/
def blank : Filter → Filter
  | conj members => conj (blankAll members)
  | disj members => disj (blankAll members)
  | neg filter => neg (blank filter)
  | property name test => property name test.blank
  | related relationship quantifier filter => related relationship quantifier (blank filter)

/-- Several filters without their operands. -/
def blankAll : List Filter → List Filter
  | [] => []
  | filter :: rest => blank filter :: blankAll rest

end

end Filter

section Lowering

open Bindings

variable {b b' : Bindings}

theorem PropertyTest.lower_blank (operand : Operand) (h : b.Alike b') : ∀ test : PropertyTest,
    Agree (test.lower operand b) (test.blank.lower operand b')
  | .eq value => compare_alike h operand .eq value .null
  | .oneOf [] => ⟨rfl, h⟩
  | .oneOf (value :: rest) => by
    have hlength : (value :: rest).length = ((value :: rest).map fun _ => Value.null).length := (List.length_map _).symm
    obtain ⟨hnames, hparams⟩ := addParams_alike h hlength
    exact ⟨congrArg (Condition.oneOf operand) hnames, hparams⟩
  | .lt value => range_alike h operand .lt value .null
  | .lte value => range_alike h operand .lte value .null
  | .gt value => range_alike h operand .gt value .null
  | .gte value => range_alike h operand .gte value .null
  | .startsWith argument => text_alike h operand .startsWith argument ""
  | .endsWith argument => text_alike h operand .endsWith argument ""
  | .contains argument => text_alike h operand .contains argument ""
  | .matching pattern => text_alike h operand .matching pattern ""
  | .isNull true => ⟨rfl, h⟩
  | .isNull false => ⟨rfl, h⟩

namespace Filter

mutual

/-- Lowering does not look at the operands: the condition is that of the filter without them. -/
theorem lower_blank : ∀ (filter : Filter) (var : String) {b b' : Bindings}, b.Alike b' →
    Agree (filter.lower var b) (filter.blank.lower var b')
  | conj members, var, b, b', h => by
    obtain ⟨hconditions, hnames⟩ := lowerAll_blank members var h
    rw [blank, lower, lower]
    exact ⟨congrArg Condition.and hconditions, hnames⟩
  | disj members, var, b, b', h => by
    obtain ⟨hconditions, hnames⟩ := lowerAll_blank members var h
    rw [blank, lower, lower]
    exact ⟨congrArg Condition.or hconditions, hnames⟩
  | neg filter, var, b, b', h => by
    obtain ⟨hcondition, hnames⟩ := lower_blank filter var h
    rw [blank, lower, lower]
    exact ⟨congrArg Condition.not hcondition, hnames⟩
  | property name test, var, b, b', h => by
    rw [blank, lower, lower]
    exact test.lower_blank _ h
  | related relationship quantifier filter, var, b, b', h => by
    obtain ⟨hreached, hfresh⟩ := freshVar_alike h
    obtain ⟨hcondition, hnames⟩ := lower_blank filter b.freshVar.1 hfresh
    rw [blank, lower, lower, ← hreached]
    exact ⟨congrArg (Condition.related var relationship.step b.freshVar.1 quantifier) hcondition, hnames⟩

theorem lowerAll_blank : ∀ (filters : List Filter) (var : String) {b b' : Bindings}, b.Alike b' →
    Agree (lowerAll filters var b) (lowerAll (blankAll filters) var b')
  | [], _, _, _, h => ⟨rfl, h⟩
  | filter :: rest, var, b, b', h => by
    obtain ⟨hfirst, hnames⟩ := lower_blank filter var h
    obtain ⟨hothers, hnames'⟩ := lowerAll_blank rest var hnames
    rw [blankAll, lowerAll, lowerAll]
    exact ⟨congrArg₂ List.cons hfirst hothers, hnames'⟩

end

/-- Filters that differ in their operands only have one condition. -/
theorem lower_alike {filter filter' : Filter} (hblank : filter.blank = filter'.blank) (var : String)
    (h : b.Alike b') : Agree (filter.lower var b) (filter'.lower var b') := by
  have hfirst : Agree (filter.lower var b) (filter.blank.lower var b) := filter.lower_blank var (.refl b)
  have hsecond : Agree (filter'.lower var b') (filter'.blank.lower var b) := filter'.lower_blank var h.symm
  rw [hblank] at hfirst
  exact hfirst.trans hsecond.symm

end Filter

end Lowering

/-! ## Cursors without values -/

/-- Whether cursors stand in the same places, with nulls at the same keys of the order wherever they can be read. -/
def Order.AlikeCursors (order : Order) : Option String → Option String → Prop
  | none, none => True
  | some cursor, some cursor' => ∀ values values', Cursor.decode order cursor = .ok values →
      Cursor.decode order cursor' = .ok values' →
      ∀ key ∈ order.keys, (boundOf values key).isNull = (boundOf values' key).isNull
  | _, _ => False

/-- Cursors written for values with nulls at the same keys are alike. -/
theorem Order.alikeCursors_encode {order : Order} {observed observed' : Table Value} (hn : order.names.Nodup)
    (hexact : ∀ key ∈ order.keys, (boundOf observed key).Exact ∧ (boundOf observed' key).Exact)
    (hnull : ∀ key ∈ order.keys, (boundOf observed key).isNull = (boundOf observed' key).isNull) :
    order.AlikeCursors (some (Cursor.encode order observed)) (some (Cursor.encode order observed')) := by
  have hbound : ∀ key ∈ order.keys, ∀ observed : Table Value,
      boundOf (Cursor.valuesOf order observed) key = boundOf observed key := by
    intro key hkey observed
    have hname : key.name ∈ order.names := List.mem_map_of_mem hkey
    rw [boundOf, Cursor.lookup_valuesOf hn, if_pos hname, Option.getD_some, boundOf]
  intro values values' hvalues hvalues' key hkey
  rw [Cursor.decode_encode hn (List.forall_mem_map.mpr fun key hkey => (hexact key hkey).1)] at hvalues
  rw [Cursor.decode_encode hn (List.forall_mem_map.mpr fun key hkey => (hexact key hkey).2)] at hvalues'
  cases hvalues
  cases hvalues'
  rw [hbound key hkey, hbound key hkey]
  exact hnull key hkey

/-- Whether options are the same but for their filters and the values in their cursors. -/
structure Options.Alike (options options' : Options) : Prop where
  order : options.order = options'.order
  after : options.order.AlikeCursors options.after options'.after
  before : options.order.AlikeCursors options.before options'.before
  first : options.first = options'.first
  last : options.last = options'.last
  countsTotal : options.countsTotal = options'.countsTotal

section Seeking

open Bindings

variable {b b' : Bindings}

theorem OrderKey.bounds_alike (key : OrderKey) (operand : Operand) {value value' : Value} (descending : Bool)
    (hnull : value.isNull = value'.isNull) (h : b.Alike b') :
    Agree (key.bounds operand value descending b) (key.bounds operand value' descending b') := by
  unfold OrderKey.bounds
  cases hvalue : value.isNull with
  | true =>
    rw [← hnull, hvalue]
    exact ⟨rfl, h⟩
  | false =>
    obtain ⟨hname, hparam⟩ := addParam_alike h value value'
    rw [← hnull, hvalue]
    simp only [Bool.false_eq_true, if_false, hname]
    exact ⟨rfl, hparam⟩

namespace Order

variable {values values' : Table Value} {operandOf : OrderKey → Operand}

theorem seekKeys_alike (forwards : Bool) : ∀ (keys : List OrderKey) {b b' : Bindings},
    (∀ key ∈ keys, (boundOf values key).isNull = (boundOf values' key).isNull) → b.Alike b' →
      Agree (seekKeys values forwards operandOf keys b) (seekKeys values' forwards operandOf keys b')
  | [], _, _, _, h => ⟨rfl, h⟩
  | [key], b, b', hnull, h => by
    obtain ⟨hbounds, hnames⟩ :=
      key.bounds_alike (operandOf key) (key.descends forwards) (hnull key List.mem_cons_self) h
    exact ⟨congrArg (·.1) hbounds, hnames⟩
  | key :: next :: rest, b, b', hnull, h => by
    obtain ⟨hkey, hrest⟩ := List.forall_mem_cons.mp hnull
    obtain ⟨hbeyond, hnames⟩ := seekKeys_alike forwards (next :: rest) hrest h
    obtain ⟨hbounds, hnames'⟩ := key.bounds_alike (operandOf key) (key.descends forwards) hkey hnames
    refine ⟨?_, hnames'⟩
    show Condition.or [_, .and [_, _]] = Condition.or [_, .and [_, _]]
    exact congrArg₂ (fun (bounds : Condition × Condition) beyond => Condition.or [bounds.1, .and [bounds.2, beyond]])
      hbounds hbeyond

theorem seekCursor_alike {order : Order} {cursor cursor' : Option String} {forwards : Bool}
    {seek seek' : List Condition × Bindings} (hcursors : order.AlikeCursors cursor cursor') (h : b.Alike b')
    (hseek : order.seekCursor cursor forwards operandOf b = .ok seek)
    (hseek' : order.seekCursor cursor' forwards operandOf b' = .ok seek') : Agree seek seek' := by
  obtain ⟨conditions, b₁⟩ := seek
  obtain ⟨conditions', b₁'⟩ := seek'
  obtain ⟨_, _, hseek⟩ := seekCursor_eq_ok hseek
  obtain ⟨_, _, hseek'⟩ := seekCursor_eq_ok hseek'
  match cursor, cursor', hcursors with
  | none, none, _ =>
    obtain ⟨rfl, rfl⟩ := hseek
    obtain ⟨rfl, rfl⟩ := hseek'
    exact ⟨rfl, h⟩
  | some cursor, some cursor', hcursors =>
    obtain ⟨values, hvalues, rfl, rfl⟩ := hseek
    obtain ⟨values', hvalues', rfl, rfl⟩ := hseek'
    obtain ⟨hcondition, hnames⟩ :
        Agree (order.seek values forwards operandOf b) (order.seek values' forwards operandOf b') :=
      seekKeys_alike forwards order.keys (hcursors values values' hvalues hvalues') h
    exact ⟨congrArg (fun condition => [condition]) hcondition, hnames⟩

end Order

/-- Options that differ in the values of their cursors only have one condition for seeking. -/
theorem Options.seek_alike {options options' : Options} {operandOf : OrderKey → Operand}
    {seek seek' : Condition × Bindings} (halike : options.Alike options') (h : b.Alike b')
    (hseek : options.seek operandOf b = .ok seek) (hseek' : options'.seek operandOf b' = .ok seek') :
    Agree seek seek' := by
  obtain ⟨condition, b₂⟩ := seek
  obtain ⟨condition', b₂'⟩ := seek'
  obtain ⟨after, b₁, before, hafter, hbefore, rfl⟩ := Options.seek_eq_ok hseek
  obtain ⟨after', b₁', before', hafter', hbefore', rfl⟩ := Options.seek_eq_ok hseek'
  rw [← halike.order] at hafter' hbefore'
  obtain ⟨hafters, hnames⟩ := Order.seekCursor_alike halike.after h hafter hafter'
  obtain ⟨hbefores, hnames'⟩ := Order.seekCursor_alike halike.before hnames hbefore hbefore'
  exact ⟨congrArg₂ (fun after before => Condition.and (after ++ before)) hafters hbefores, hnames'⟩

end Seeking

/-! ## Blocks without result keys -/

namespace Block

mutual

/-- A block without the result keys it and its children answer. -/
def unnamed : Block → Block
  | ⟨var, label, source, _, subQuery, onlyOnTypes, condition, count, seek, order, limit, reversed, children⟩ =>
    ⟨var, label, source, "", subQuery, onlyOnTypes, condition, count, seek, order, limit, reversed,
      unnamedAll children⟩

/-- Several blocks without their result keys. -/
def unnamedAll : List Block → List Block
  | [] => []
  | block :: rest => unnamed block :: unnamedAll rest

end

theorem unnamed_eq (block : Block) :
    block.unnamed = { block with resultKey := "", children := unnamedAll block.children } := by
  cases block
  rw [unnamed]

theorem var_unnamed (block : Block) : block.unnamed.var = block.var := by rw [unnamed_eq]

theorem resultMap_unnamed (block : Block) : block.unnamed.resultMap = block.resultMap := by
  rw [unnamed_eq]
  rfl

theorem map_var_unnamedAll : ∀ children : List Block, (unnamedAll children).map (·.var) = children.map (·.var)
  | [] => rfl
  | child :: rest => by rw [unnamedAll, List.map_cons, List.map_cons, var_unnamed, map_var_unnamedAll rest]

theorem linesAround_unnamed (block : Block) (parent : Option String) (depth : Nat) (children : List String) :
    block.unnamed.linesAround parent depth children = block.linesAround parent depth children := by
  have hcollect : block.unnamed.collectText = block.collectText := by
    have hchildren : (unnamedAll block.children).map (fun child => child.var ++ ": " ++ child.var ++ "_result") =
        block.children.map fun child => child.var ++ ": " ++ child.var ++ "_result" := by
      have hvars := congrArg (List.map fun var : String => var ++ ": " ++ var ++ "_result")
        (map_var_unnamedAll block.children)
      rwa [List.map_map, List.map_map] at hvars
    rw [unnamed_eq]
    unfold collectText
    simp only [hchildren]
    rfl
  unfold linesAround
  rw [hcollect, unnamed_eq]
  rfl

mutual

/-- The text of a block does not depend on its result keys. -/
theorem lines_unnamed : ∀ (block : Block) (parent : Option String) (depth : Nat),
    block.unnamed.lines parent depth = block.lines parent depth
  | ⟨var, label, source, resultKey, subQuery, onlyOnTypes, condition, count, seek, order, limit, reversed, children⟩,
    parent, depth => by
    rw [lines, ← linesAround_unnamed, unnamed, lines, childrenLines_unnamed]

theorem childrenLines_unnamed (var : String) : ∀ (children : List Block) (depth : Nat),
    childrenLines var (unnamedAll children) depth = childrenLines var children depth
  | [], _ => rfl
  | child :: rest, depth => by
    rw [unnamedAll, childrenLines, childrenLines, lines_unnamed child, resultMap_unnamed, var_unnamed,
      childrenLines_unnamed var rest]

end

end Block

/-- Statements whose blocks differ in their result keys only have one text. -/
theorem Statement.render_unnamed {statement statement' : Statement}
    (h : statement.root.unnamed = statement'.root.unnamed) : statement.render = statement'.render := by
  unfold Statement.render
  rw [← Block.lines_unnamed statement.root, ← Block.resultMap_unnamed statement.root, h, Block.lines_unnamed,
    Block.resultMap_unnamed]

/-! ## Plans that differ in what the client wrote -/

namespace Level

mutual

/-- Whether levels are the same but for the operands of their conditions, the values in their cursors and the result
keys; the requested filters are part of the conditions. -/
inductive Alike : Level → Level → Prop
  | level {entityType : String} {options options' : Options} {condition condition' : Filter} {limit : Option Nat}
      {cardinality : Cardinality} {parts parts' : List (String × List (SubQuery Level))} : options.Alike options' →
      condition.blank = condition'.blank → AlikeParts parts parts' →
      Alike ⟨entityType, options, condition, limit, cardinality, parts⟩
        ⟨entityType, options', condition', limit, cardinality, parts'⟩

/-- Whether parts are the same in this sense, one after the other, under any result keys. -/
inductive AlikeParts : List (String × List (SubQuery Level)) → List (String × List (SubQuery Level)) → Prop
  | nil : AlikeParts [] []
  | cons {resultKey resultKey' : String} {subs subs' : List (SubQuery Level)}
      {rest rest' : List (String × List (SubQuery Level))} : AlikeSubs subs subs' → AlikeParts rest rest' →
      AlikeParts ((resultKey, subs) :: rest) ((resultKey', subs') :: rest')

/-- Whether sub-queries are the same in this sense, one after the other. -/
inductive AlikeSubs : List (SubQuery Level) → List (SubQuery Level) → Prop
  | nil : AlikeSubs [] []
  | cons {relationship : RelationshipDef} {query query' : Level} {onlyOnTypes : Option (List String)}
      {rest rest' : List (SubQuery Level)} : Alike query query' → AlikeSubs rest rest' →
      AlikeSubs (⟨relationship, query, onlyOnTypes⟩ :: rest) (⟨relationship, query', onlyOnTypes⟩ :: rest')

end

end Level

/-- Whether branches are the same but for what the client wrote. -/
structure Branch.Alike (branch branch' : Branch) : Prop where
  index : branch.index = branch'.index
  relationship : branch.sub.relationship = branch'.sub.relationship
  onlyOnTypes : branch.sub.onlyOnTypes = branch'.sub.onlyOnTypes
  query : branch.sub.query.Alike branch'.sub.query

namespace Level

theorem AlikeSubs.branches {resultKey resultKey' : String} : ∀ {subs subs' : List (SubQuery Level)} {i : Nat},
    AlikeSubs subs subs' →
      List.Forall₂ Branch.Alike (branchesOfSubs resultKey subs i) (branchesOfSubs resultKey' subs' i)
  | [], _, _, .nil => .nil
  | _ :: _, _, _, .cons hquery hrest => .cons ⟨rfl, rfl, rfl, hquery⟩ hrest.branches

theorem AlikeParts.branches : ∀ {parts parts' : List (String × List (SubQuery Level))}, AlikeParts parts parts' →
    List.Forall₂ Branch.Alike (branchesOfParts parts) (branchesOfParts parts')
  | [], _, .nil => .nil
  | _ :: _, _, .cons hsubs hrest => List.rel_append hsubs.branches hrest.branches

end Level

/-- Whether plans are the same but for the operands of their conditions, the values in their cursors, the result keys
and the identifier of the node they start from. -/
structure Plan.Alike (plan plan' : Plan) : Prop where
  root : plan.root.Alike plan'.root
  anchor : plan.anchor.map (fun anchor => (anchor.parentType, anchor.relationship)) =
    plan'.anchor.map fun anchor => (anchor.parentType, anchor.relationship)

/-! ## One text for all of them -/

section Compiling

open Bindings

variable {schema : Schema} {entity : EntityType} {var : String} {b b' b₁ b₁' : Bindings}

/-- Blocks of alike branches differ in their result keys only, when those of alike levels do. -/
theorem Compiles.alike {branches branches' : List Branch} {children children' : List Block}
    (halike : List.Forall₂ Branch.Alike branches branches') (h : Compiles schema entity var branches b children b₁)
    (h' : Compiles schema entity var branches' b' children' b₁') (hb : b.Alike b')
    (hlevel : ∀ branch ∈ branches, ∀ {level' source resultKey resultKey' subQuery onlyOnTypes b b' b₁ b₁' block block'},
      branch.sub.query.Alike level' → b.Alike b' →
      branch.sub.query.compile schema source resultKey subQuery onlyOnTypes b = .ok (block, b₁) →
      level'.compile schema source resultKey' subQuery onlyOnTypes b' = .ok (block', b₁') →
      block.unnamed = block'.unnamed ∧ b₁.Alike b₁') :
    Block.unnamedAll children = Block.unnamedAll children' ∧ b₁.Alike b₁' := by
  induction h generalizing branches' children' b' with
  | nil =>
    cases halike
    cases h'
    exact ⟨rfl, hb⟩
  | @cons branch rest child children b b₁ b₂ _ hchild _ ih =>
    cases halike with
    | cons hbranch hrest =>
      cases h' with
      | cons _ hchild' hchildren' =>
        obtain ⟨hfirst, hothers⟩ := List.forall_mem_cons.mp hlevel
        rw [← hbranch.relationship, ← hbranch.onlyOnTypes, ← hbranch.index] at hchild'
        obtain ⟨hunnamed, hnames⟩ := hfirst hbranch.query hb hchild hchild'
        obtain ⟨hunnamed', hnames'⟩ := ih hrest hchildren' hnames hothers
        refine ⟨?_, hnames'⟩
        rw [Block.unnamedAll, Block.unnamedAll, hunnamed, hunnamed']

/-- The blocks of alike levels differ in their result keys only. -/
theorem Level.compile_alike : ∀ {level level' : Level} {source : Source} {resultKey resultKey' : String}
    {subQuery : Nat} {onlyOnTypes : Option (List String)} {b b' b₁ b₁' : Bindings} {block block' : Block},
    level.Alike level' → b.Alike b' →
    level.compile schema source resultKey subQuery onlyOnTypes b = .ok (block, b₁) →
    level'.compile schema source resultKey' subQuery onlyOnTypes b' = .ok (block', b₁') →
    block.unnamed = block'.unnamed ∧ b₁.Alike b₁' := by
  intro level
  induction level using Level.induct with
  | step level ih =>
    intro level' source resultKey resultKey' subQuery onlyOnTypes b b' b₁ b₁' block block' halike hb h h'
    obtain ⟨entity, seek, c, children, hentity, _, hseek, hchildren, rfl⟩ := Level.compile_eq_ok.mp h
    obtain ⟨entity', seek', c', children', hentity', _, hseek', hchildren', rfl⟩ := Level.compile_eq_ok.mp h'
    cases halike with
    | @level entityType options options' condition condition' limit cardinality parts parts' hoptions hblank hparts =>
      obtain rfl : entity = entity' := Except.ok.inj (hentity.symm.trans hentity')
      obtain ⟨hvar, hfresh⟩ := freshVar_alike hb
      simp only [← hvar, ← hoptions.order] at hseek' hchildren'
      obtain ⟨hcondition, hlowered⟩ := Filter.lower_alike hblank b.freshVar.1 hfresh
      obtain ⟨rfl, hsought⟩ := Options.seek_alike hoptions hlowered hseek hseek'
      obtain ⟨hunnamed, hnames⟩ := hchildren.alike hparts.branches hchildren' hsought ih
      refine ⟨?_, hnames⟩
      unfold Level.block
      rw [Block.unnamed, Block.unnamed, hunnamed]
      simp only [← hvar, ← hcondition, ← hoptions.order, ← hoptions.last, ← hoptions.countsTotal]

theorem Plan.source_alike {anchor anchor' : Option Anchor} {source source' : Source}
    (halike : anchor.map (fun anchor => (anchor.parentType, anchor.relationship)) =
      anchor'.map fun anchor => (anchor.parentType, anchor.relationship)) (hb : b.Alike b')
    (h : Plan.source schema b anchor = .ok (source, b₁)) (h' : Plan.source schema b' anchor' = .ok (source', b₁')) :
    source = source' ∧ b₁.Alike b₁' := by
  match anchor, anchor' with
  | none, none =>
    cases h
    cases h'
    exact ⟨rfl, hb⟩
  | some ⟨parentType, parentId, relationship⟩, some ⟨_, parentId', _⟩ =>
    cases halike
    obtain ⟨_, _, h⟩ := Result.bind_eq_ok.mp h
    obtain ⟨_, _, h⟩ := Result.bind_eq_ok.mp h
    obtain ⟨_, _, h'⟩ := Result.bind_eq_ok.mp h'
    obtain ⟨_, _, h'⟩ := Result.bind_eq_ok.mp h'
    cases h
    cases h'
    obtain ⟨hname, hparam⟩ := addParam_alike hb parentId parentId'
    exact ⟨congrArg (fun param => Source.anchored parentType param relationship.label relationship.direction) hname,
      hparam⟩

/-- Whatever the client wrote, the text of the statement and the names of its parameters are the same. -/
theorem Plan.Alike.render_eq {plan plan' : Plan} {statement statement' : Statement} (halike : plan.Alike plan')
    (h : plan.compile schema = .ok statement) (h' : plan'.compile schema = .ok statement') :
    statement.render = statement'.render ∧ statement.params.map (·.1) = statement'.params.map (·.1) := by
  obtain ⟨source, b, b₁, hsource, hroot, hparams⟩ := Plan.compile_eq_ok h
  obtain ⟨source', b', b₁', hsource', hroot', hparams'⟩ := Plan.compile_eq_ok h'
  obtain ⟨rfl, hb⟩ := Plan.source_alike halike.anchor (.refl .empty) hsource hsource'
  obtain ⟨hunnamed, hnames⟩ := Level.compile_alike halike.root hb hroot hroot'
  refine ⟨Statement.render_unnamed hunnamed, ?_⟩
  rw [hparams, hparams', names_params, names_params, hnames.paramCount]

end Compiling

/-! ## The documents of a shelf -/

namespace Shelves

open Archive

/-- Documents by score downwards, those without a score first. -/
def byScore : Order := .ofKeys [⟨"score", .property "score", .descending, true⟩]

/-- Documents of some titles, by an author or below a score. -/
def wanted (titles : List Value) (name : String) (score : Int64) : Filter :=
  .conj [.property "title" (.oneOf titles),
    .disj [.related author .any (.property "name" (.startsWith name)), .property "score" (.lt (.int score))],
    .neg (.property "score" (.isNull true))]

/-- The last two documents of a shelf between one without a score and one with a score, with their authors. -/
def page (shelf after before : String) (score : Int64) (filter : Filter) (resultKey : String) : Plan where
  root := {
    entityType := "Doc"
    options := {
      filter := filter
      order := byScore
      after := some (Cursor.encode byScore [("id", .string after), ("score", .null)])
      before := some (Cursor.encode byScore [("id", .string before), ("score", .int score)])
      first := none
      last := some 2
      countsTotal := true }
    condition := filter
    limit := some 3
    cardinality := .many
    parts := [(resultKey, [⟨author, ⟨"Person", .single, .all, some 1, .one, []⟩, none⟩])] }
  anchor := some ⟨"Shelf", .string shelf, docs⟩

/-- Such a page with harmless literals. -/
def plain : Plan := page "s1" "a" "b" 7 (wanted [.string "Dune", .string "Emma"] "Her" 3) "author"

/-- The same page with literals that look like parts of a statement. -/
def hostile : Plan :=
  page "'\x7d) DETACH DELETE n //" "\"" "$p0" (-1) (wanted [.bool true, .null] "x' OR 1 = 1" 0) "a\x60: 1, b"

/-- Cursors by score are read. -/
theorem decode_byScore (id : String) {score : Value} (hexact : score.Exact) :
    ∃ values, Cursor.decode byScore (Cursor.encode byScore [("id", .string id), ("score", score)]) = .ok values := by
  have hid : (Value.string id).Exact := nofun
  exact ⟨_, Cursor.decode_encode (by decide) (List.forall_mem_cons.mpr ⟨hexact, List.forall_mem_singleton.mpr hid⟩)⟩

section Pages

variable {shelf after before resultKey : String} {score : Int64} {filter : Filter}

theorem readable_page : (page shelf after before score filter resultKey).root.options.Readable := by
  intro cursor hcursor
  rcases hcursor with hcursor | hcursor
  · exact Option.some.inj hcursor ▸ decode_byScore after nofun
  · exact Option.some.inj hcursor ▸ decode_byScore before nofun

/-- A page compiles as soon as it does without its cursors. -/
theorem compiles_page
    (h : (Plan.compile schema ⟨(page shelf after before score filter resultKey).root.withOptions
      { (page shelf after before score filter resultKey).root.options with after := none, before := none },
      some ⟨"Shelf", .string shelf, docs⟩⟩).isOk = true) :
    ∃ statement, (page shelf after before score filter resultKey).compile schema = .ok statement := by
  have hcompiles := Plan.compiles_of_readable readable_page h
  exact hcompiles

end Pages

/-- Cursors by score have nulls at the same keys when their scores are null together. -/
theorem alikeCursors (id id' : String) {score score' : Value} (hexact : score.Exact ∧ score'.Exact)
    (hnull : score.isNull = score'.isNull) :
    byScore.AlikeCursors (some (Cursor.encode byScore [("id", .string id), ("score", score)]))
      (some (Cursor.encode byScore [("id", .string id'), ("score", score')])) := by
  have hids : Value.Exact (.string id) ∧ Value.Exact (.string id') := ⟨nofun, nofun⟩
  refine Order.alikeCursors_encode (by decide) ?_ ?_
  · exact List.forall_mem_cons.mpr ⟨hexact, List.forall_mem_singleton.mpr hids⟩
  · exact List.forall_mem_cons.mpr ⟨hnull, List.forall_mem_singleton.mpr rfl⟩

end Shelves

/-- Literals that look like parts of a statement leave its text as it is. -/
theorem Plan.Alike.render_eq_shelves : Shelves.plain.Alike Shelves.hostile ∧
    ∃ statement statement', Shelves.plain.compile Archive.schema = .ok statement ∧
      Shelves.hostile.compile Archive.schema = .ok statement' ∧ statement.render = statement'.render ∧
      statement.params.map (·.1) = statement'.params.map (·.1) := by
  have hoptions : Shelves.plain.root.options.Alike Shelves.hostile.root.options :=
    ⟨rfl, Shelves.alikeCursors _ _ ⟨nofun, nofun⟩ rfl, Shelves.alikeCursors _ _ ⟨nofun, nofun⟩ rfl, rfl, rfl, rfl⟩
  have hsingle : Options.single.Alike .single := ⟨rfl, trivial, trivial, rfl, rfl, rfl⟩
  have halike : Shelves.plain.Alike Shelves.hostile :=
    ⟨.level hoptions rfl (.cons (.cons (.level hsingle rfl .nil) .nil) .nil), rfl⟩
  obtain ⟨statement, h⟩ : ∃ statement, Shelves.plain.compile Archive.schema = .ok statement :=
    Shelves.compiles_page (by decide +kernel)
  obtain ⟨statement', h'⟩ : ∃ statement, Shelves.hostile.compile Archive.schema = .ok statement :=
    Shelves.compiles_page (by decide +kernel)
  exact ⟨halike, statement, statement', h, h', halike.render_eq h h'⟩

end GraphQuery
