import GraphQuery.Cursor.Seek
import GraphQuery.Proofs.Condition.Folding

/-!
# Plain forms of conditions

A condition is built from tests of a node, tests of related nodes and the three connectives (`Condition.Built`). Folding
leaves every connective in it with two members at least (`Condition.Built.wide`). What filters and cursors become are
built conditions (`Filter.built_lower`, `Order.built_seek`).

A test that no related node, or every related node, satisfies a condition is written as the negation of a test that some
related node does. `Condition.plain` says the same of the condition itself: the plain form has no other test of related
nodes, the same text (`Condition.render_plain`) and the same truth (`Evaluation.truth_plain`).
-/

namespace GraphQuery

namespace Condition

/-! ## Parts -/

/-- The conditions that a condition is made of. -/
def parts : Condition → List Condition
  | conj members | disj members => members
  | neg condition | related _ _ _ _ condition => [condition]
  | _ => []

/-- A property of a condition, of its parts, of their parts and so on. -/
inductive Throughout (P : Condition → Prop) : Condition → Prop
  | intro {c : Condition} : P c → (∀ part ∈ c.parts, Throughout P part) → Throughout P c

/-- Whether a connective has several members. -/
def Wide : Condition → Prop
  | conj members | disj members => 2 ≤ members.length
  | _ => True

namespace Throughout

variable {P Q : Condition → Prop} {c : Condition}

theorem here (h : Throughout P c) : P c := by
  cases h with
  | intro hc _ => exact hc

theorem parts (h : Throughout P c) : ∀ part ∈ c.parts, Throughout P part := by
  cases h with
  | intro _ hparts => exact hparts

theorem of_atom (hc : P c) (hatom : c.parts = []) : Throughout P c :=
  .intro hc (hatom ▸ List.forall_mem_nil _)

theorem and (hP : Throughout P c) (hQ : Throughout Q c) : Throughout (fun c => P c ∧ Q c) c := by
  induction hP with
  | intro hc _ ih => exact .intro ⟨hc, hQ.here⟩ fun part hpart => ih part hpart (hQ.parts part hpart)

end Throughout

/-! ## Built conditions -/

/-- The conditions that are built from tests with the folding connectives. -/
inductive Built : Condition → Prop
  | always : Built always
  | never : Built never
  | compare (operand : Operand) (op : CompareOp) (param : String) : Built (compare operand op param)
  | oneOf (operand : Operand) (params : List String) : Built (oneOf operand params)
  | isNull (operand : Operand) : Built (isNull operand)
  | text (operand : Operand) (op : TextOp) (param : String) : Built (text operand op param)
  | related (node : String) (step : Step) (reached : String) (quantifier : Quantifier) {c : Condition} :
    Built c → Built (related node step reached quantifier c)
  | and {cs : List Condition} : (∀ c ∈ cs, Built c) → Built (Condition.and cs)
  | or {cs : List Condition} : (∀ c ∈ cs, Built c) → Built (Condition.or cs)
  | not {c : Condition} : Built c → Built (Condition.not c)

section Folding

variable {P : Condition → Prop} {conditions members : List Condition}

/-- What holds throughout several conditions holds throughout the members that are gathered from them. -/
theorem Flattened.throughout {unit : Condition} {nested : List Condition → Condition}
    (hnested : ∀ inner, (nested inner).parts = inner) (hmembers : Flattened unit nested conditions members)
    (h : ∀ c ∈ conditions, Throughout P c) : ∀ c ∈ members, Throughout P c := by
  induction hmembers with
  | nil => exact h
  | unit _ ih => exact ih (List.forall_mem_cons.mp h).2
  | nested inner _ ih =>
    obtain ⟨hinner, hrest⟩ := List.forall_mem_cons.mp h
    exact List.forall_mem_append.mpr ⟨hnested inner ▸ hinner.parts, ih hrest⟩
  | member c _ ih =>
    obtain ⟨hc, hrest⟩ := List.forall_mem_cons.mp h
    exact List.forall_mem_cons.mpr ⟨hc, ih hrest⟩

theorem two_le_length {α : Type} : ∀ {xs : List α}, xs ≠ [] → (∀ x, xs ≠ [x]) → 2 ≤ xs.length
  | [], hne, _ => absurd rfl hne
  | [x], _, hlone => absurd rfl (hlone x)
  | _ :: _ :: _, _, _ => Nat.le_add_left 2 _

theorem wide_and (h : ∀ c ∈ conditions, Throughout Wide c) : Throughout Wide (Condition.and conditions) := by
  unfold Condition.and
  split
  · exact .of_atom trivial rfl
  · exact .of_atom trivial rfl
  · rename_i c hmembers
    exact (flattened_conjuncts hmembers).throughout (fun _ => rfl) h c List.mem_cons_self
  · rename_i members hne hlone hmembers
    exact .intro (two_le_length hne hlone) ((flattened_conjuncts hmembers).throughout (fun _ => rfl) h)

theorem wide_or (h : ∀ c ∈ conditions, Throughout Wide c) : Throughout Wide (Condition.or conditions) := by
  unfold Condition.or
  split
  · exact .of_atom trivial rfl
  · exact .of_atom trivial rfl
  · rename_i c hmembers
    exact (flattened_disjuncts hmembers).throughout (fun _ => rfl) h c List.mem_cons_self
  · rename_i members hne hlone hmembers
    exact .intro (two_le_length hne hlone) ((flattened_disjuncts hmembers).throughout (fun _ => rfl) h)

theorem wide_not {c : Condition} (h : Throughout Wide c) : Throughout Wide (Condition.not c) := by
  cases c with
  | always => exact .of_atom trivial rfl
  | never => exact .of_atom trivial rfl
  | neg inner => exact h.parts inner List.mem_cons_self
  | _ => exact .intro trivial (List.forall_mem_singleton.mpr h)

/-- No connective in a built condition has fewer than two members. -/
theorem Built.wide {c : Condition} (h : c.Built) : c.Throughout Wide := by
  induction h with
  | and _ ih => exact wide_and ih
  | or _ ih => exact wide_or ih
  | not _ ih => exact wide_not ih
  | related _ _ _ _ _ ih => exact .intro trivial (List.forall_mem_singleton.mpr ih)
  | _ => exact .of_atom trivial rfl

end Folding

theorem Built.or_pair {c d : Condition} (hc : c.Built) (hd : d.Built) : (Condition.or [c, d]).Built :=
  .or (List.forall_mem_cons.mpr ⟨hc, List.forall_mem_singleton.mpr hd⟩)

theorem Built.and_pair {c d : Condition} (hc : c.Built) (hd : d.Built) : (Condition.and [c, d]).Built :=
  .and (List.forall_mem_cons.mpr ⟨hc, List.forall_mem_singleton.mpr hd⟩)

end Condition

theorem PropertyTest.built_lower (operand : Operand) (b : Bindings) : ∀ test : PropertyTest,
    (test.lower operand b).1.Built
  | .oneOf [] => .never
  | .oneOf (_ :: _) => .oneOf operand _
  | .isNull true => .isNull operand
  | .isNull false => .not (.isNull operand)
  | .eq _ => .compare operand _ _
  | .startsWith _ | .endsWith _ | .contains _ | .matching _ => .text operand _ _
  | .lt _ | .lte _ | .gt _ | .gte _ => .and_pair (.not (.isNull operand)) (.compare operand _ _)

namespace Filter

mutual

/-- What a filter becomes is a built condition. -/
theorem built_lower : ∀ (filter : Filter) (var : String) (b : Bindings), (filter.lower var b).1.Built
  | .conj members, var, b => by
    rw [lower]
    exact .and (built_lowerAll members var b)
  | .disj members, var, b => by
    rw [lower]
    exact .or (built_lowerAll members var b)
  | .neg filter, var, b => by
    rw [lower]
    exact .not (built_lower filter var b)
  | .property name test, var, b => by
    rw [lower]
    exact test.built_lower (.property var name) b
  | .related relationship quantifier filter, var, b => by
    rw [lower]
    exact .related var relationship.step b.freshVar.1 quantifier (built_lower filter b.freshVar.1 b.freshVar.2)

theorem built_lowerAll : ∀ (filters : List Filter) (var : String) (b : Bindings),
    ∀ c ∈ (lowerAll filters var b).1, c.Built
  | [], _, _ => List.forall_mem_nil _
  | filter :: rest, var, b =>
    List.forall_mem_cons.mpr ⟨built_lower filter var b, built_lowerAll rest var (filter.lower var b).2⟩

end

end Filter

theorem OrderKey.built_bounds (key : OrderKey) (operand : Operand) (value : Value) (descending : Bool) (b : Bindings) :
    (key.bounds operand value descending b).1.1.Built ∧ (key.bounds operand value descending b).1.2.Built := by
  unfold bounds
  split
  · cases descending with
    | false => exact ⟨.never, .isNull operand⟩
    | true => exact ⟨.not (.isNull operand), .isNull operand⟩
  · refine ⟨?_, .compare operand .eq _⟩
    dsimp only
    split
    · exact .or_pair (.compare operand _ _) (.isNull operand)
    · exact .compare operand _ _

/-- What a cursor becomes is a built condition. -/
theorem Order.built_seek (order : Order) (values : Table Value) (forwards : Bool) (operandOf : OrderKey → Operand)
    (b : Bindings) : (order.seek values forwards operandOf b).1.Built := by
  unfold seek
  fun_induction seekKeys values forwards operandOf order.keys b with
  | case1 => exact .always
  | case2 key b => exact (key.built_bounds _ _ _ _).1
  | case3 key rest b _ beyond _ ih =>
    have hbounds :=
      key.built_bounds (operandOf key) ((values.lookup key.name).getD .null) (key.descends forwards) beyond.2
    exact .or_pair hbounds.1 (.and_pair hbounds.2 ih)

/-! ## Plain forms -/

namespace Condition

/-- The negation of a condition with the given plain form, in plain form. -/
def negated : Condition → Condition → Condition
  | always, _ => never
  | never, _ => always
  | neg _, neg plain => plain
  | _, plain => neg plain

mutual

/-- The form of a condition in which all tests of related nodes are whether some node satisfies a condition. -/
def plain : Condition → Condition
  | conj members => conj (plainAll members)
  | disj members => disj (plainAll members)
  | neg condition => neg (plain condition)
  | related node step reached .any condition => related node step reached .any (plain condition)
  | related node step reached .none condition => neg (related node step reached .any (plain condition))
  | related node step reached .all condition =>
    neg (related node step reached .any (negated condition (plain condition)))
  | condition => condition

/-- The plain forms of several conditions. -/
def plainAll : List Condition → List Condition
  | [] => []
  | condition :: rest => plain condition :: plainAll rest

end

theorem plainAll_eq_map : ∀ conditions : List Condition, plainAll conditions = conditions.map plain
  | [] => rfl
  | condition :: rest => by rw [plainAll, plainAll_eq_map rest, List.map_cons]

/-! ### Text -/

theorem renderAll_eq_map : ∀ conditions : List Condition, renderAll conditions = conditions.map render
  | [] => by rw [renderAll, List.map_nil]
  | condition :: rest => by rw [renderAll, renderAll_eq_map rest, List.map_cons]

/-- Folding constants away when a condition is negated leaves no trace of the constants in the text. -/
theorem renderNot_eq (c : Condition) : renderNot c = c.not.render := by
  cases c <;> simp [renderNot, Condition.not, render]

theorem existsText_of_ne_any {quantifier : Quantifier} (h : quantifier ≠ .any) (matched : String) (always : Bool)
    (condition : String) :
    existsText matched quantifier always condition = "NOT " ++ existsText matched .any always condition := by
  rw [existsText, existsText, if_neg h, if_pos rfl, String.empty_append]
  simp only [String.append_assoc]

theorem isAlways_plain (c : Condition) : c.plain.isAlways = c.isAlways := by
  cases c with
  | related _ _ _ quantifier _ => cases quantifier <;> rfl
  | _ => rfl

theorem isAlways_negated (c : Condition) : (negated c c.plain).isAlways = c.not.isAlways := by
  cases c with
  | neg inner => exact isAlways_plain inner
  | _ => rfl

theorem render_negated {c : Condition} (h : c.plain.render = c.render) :
    (negated c c.plain).render = renderNot c := by
  rw [renderNot_eq]
  cases c with
  | neg inner =>
    rw [plain, render, render, String.append_right_inj] at h
    exact h
  | always | never => rfl
  | _ => simp only [negated, Condition.not, render, h]

mutual

/-- A plain form reads like the condition. -/
theorem render_plain : ∀ c : Condition, c.plain.render = c.render
  | always | never | compare _ _ _ | oneOf _ _ | isNull _ | text _ _ _ => rfl
  | conj members => by rw [plain, render, renderAll_plainAll members, render]
  | disj members => by rw [plain, render, renderAll_plainAll members, render]
  | neg condition => by rw [plain, render, render_plain condition, render]
  | related node step reached quantifier condition => by
    have hplain := render_plain condition
    cases quantifier with
    | any => simp only [plain, render, hplain, isAlways_plain]
    | none => simp [plain, render, hplain, isAlways_plain, existsText_of_ne_any]
    | all => simp [plain, render, render_negated hplain, isAlways_negated, existsText_of_ne_any]

theorem renderAll_plainAll : ∀ conditions : List Condition, renderAll (plainAll conditions) = renderAll conditions
  | [] => rfl
  | condition :: rest => by rw [plainAll, renderAll, render_plain condition, renderAll_plainAll rest, renderAll]

end

end Condition

/-! ### Truth -/

theorem Truth.not_return (b : Bool) : Truth.not <$> (return some b : Result (Option Bool)) = return some !b := rfl

namespace Quantifier

variable {truths : List (Option Bool)}

theorem none_holds : Quantifier.none.holds truths = !Quantifier.any.holds truths := rfl

/-- Every node satisfies a condition, or it is not known to fail, if its negation is true of none. -/
theorem all_holds : Quantifier.all.holds truths = !Quantifier.any.holds (truths.map Truth.not) := by
  have hnot : ∀ a : Option Bool, Truth.not a = some true ↔ a = some false := by
    intro a
    rcases a with _ | _ | _ <;> simp [Truth.not]
  have hmem : some true ∈ truths.map Truth.not ↔ some false ∈ truths := by
    simp only [List.mem_map, hnot, exists_eq_right]
  rw [holds, holds, ← List.elem_eq_contains, ← List.elem_eq_contains, List.elem_eq_mem, List.elem_eq_mem]
  simp only [hmem]

end Quantifier

namespace Evaluation

variable [PropertyTable] {e : Evaluation}

theorem truth_neg {c : Condition} {scope : Scope} : e.truth (.neg c) scope = Truth.not <$> e.truth c scope := by
  rw [truth]

theorem truth_negated {c : Condition} {scope : Scope} (h : e.truth c.plain scope = e.truth c scope) :
    e.truth (Condition.negated c c.plain) scope = Truth.not <$> e.truth c scope := by
  cases c with
  | neg inner =>
    rw [Condition.plain, truth, truth] at h
    rw [Condition.plain, Condition.negated, truth, ← h]
    cases e.truth inner.plain scope <;> simp
  | always => rw [Condition.negated, truth, truth]; rfl
  | never => rw [Condition.negated, truth, truth]; rfl
  | _ => exact truth_neg.trans (congrArg (Truth.not <$> ·) h)

mutual

/-- A plain form has the truth of the condition. -/
theorem truth_plain : ∀ (c : Condition) (scope : Scope), e.truth c.plain scope = e.truth c scope
  | .always, _ | .never, _ | .compare _ _ _, _ | .oneOf _ _, _ | .isNull _, _ | .text _ _ _, _ => rfl
  | .conj members, scope => by rw [Condition.plain, truth, truthOfAll_plainAll members scope, truth]
  | .disj members, scope => by rw [Condition.plain, truth, truthOfAny_plainAll members scope, truth]
  | .neg condition, scope => by rw [Condition.plain, truth, truth_plain condition scope, truth]
  | .related node step reached quantifier condition, scope => by
    have hplain := truth_plain condition
    cases quantifier with
    | any => simp only [Condition.plain, truth, hplain]
    | none =>
      simp only [Condition.plain, truth, hplain, Quantifier.none_holds, map_bind, Truth.not_return]
    | all =>
      simp only [Condition.plain, truth, truth_negated (hplain _), ← Result.map_mapM, Quantifier.all_holds, map_bind,
        bind_map_left, Truth.not_return]

theorem truthOfAll_plainAll : ∀ (conditions : List Condition) (scope : Scope),
    e.truthOfAll (Condition.plainAll conditions) scope = e.truthOfAll conditions scope
  | [], _ => rfl
  | condition :: rest, scope => by
    rw [Condition.plainAll, truthOfAll_cons, truth_plain condition scope, truthOfAll_plainAll rest scope,
      truthOfAll_cons]

theorem truthOfAny_plainAll : ∀ (conditions : List Condition) (scope : Scope),
    e.truthOfAny (Condition.plainAll conditions) scope = e.truthOfAny conditions scope
  | [], _ => rfl
  | condition :: rest, scope => by
    rw [Condition.plainAll, truthOfAny_cons, truth_plain condition scope, truthOfAny_plainAll rest scope,
      truthOfAny_cons]

end

end Evaluation

end GraphQuery
