import GraphQuery.Condition.Bindings
import GraphQuery.Proofs.Condition.Folding
import GraphQuery.Proofs.Graph.Built

/-!
# The meaning of filters

`Filter.verdict` is the truth of a filter on a node, read off the filter itself: connectives follow Kleene's tables,
tests read the property of the node, and a predicate on related nodes counts their verdicts. A verdict may fail only
where a pattern cannot be read. `Evaluation.truth_lower` says that the condition of a filter has this truth, for
whatever variable and from whatever names it was lowered, as long as the parameters have the values registered for them
(`Evaluation.Knows`).
-/

namespace GraphQuery

/-! ## Verdicts -/

namespace PropertyTest

/-- The truth of a value being one of several. -/
def amongst (value : Value) (values : List Value) : Option Bool :=
  values.foldr (fun other known => Truth.or (CompareOp.eq.truth value other) known) (some false)

/-- The truth of a comparison that a null does not satisfy. -/
def rangeTruth (op : CompareOp) (value other : Value) : Option Bool :=
  if value.isNull then some false else op.truth value other

/-- The truth of a test of a value. -/
def verdict [PropertyTable] (value : Value) : PropertyTest → Result (Option Bool)
  | eq other => .ok (CompareOp.eq.truth value other)
  | oneOf values => .ok (amongst value values)
  | lt other => .ok (rangeTruth .lt value other)
  | lte other => .ok (rangeTruth .lte value other)
  | gt other => .ok (rangeTruth .gt value other)
  | gte other => .ok (rangeTruth .gte value other)
  | startsWith text => Evaluation.textTest value .startsWith (.ofValue (.string text))
  | endsWith text => Evaluation.textTest value .endsWith (.ofValue (.string text))
  | contains text => Evaluation.textTest value .contains (.ofValue (.string text))
  | matching pattern => Evaluation.textTest value .matching (.ofValue (.string pattern))
  | isNull expected => .ok (some (value.isNull == expected))

/-- The constant that a test is on every value, if it is one. -/
def constant? : PropertyTest → Option Bool
  | oneOf [] => some false
  | _ => none

end PropertyTest

namespace Filter

mutual

/-- The constant that a filter is on every node, all tests unknown. -/
def constant? : Filter → Option Bool
  | conj members => constantOfAll members
  | disj members => constantOfAny members
  | neg filter => Truth.not (constant? filter)
  | property _ test => test.constant?
  | related _ _ _ => none

/-- The conjunction of the constants of several filters. -/
def constantOfAll : List Filter → Option Bool
  | [] => some true
  | filter :: rest => Truth.and (constant? filter) (constantOfAll rest)

/-- The disjunction of the constants of several filters. -/
def constantOfAny : List Filter → Option Bool
  | [] => some false
  | filter :: rest => Truth.or (constant? filter) (constantOfAny rest)

end

variable [PropertyTable]

mutual

/-- The truth of a filter on a node. -/
def verdict (graph : Graph) : Filter → (id : String) → Result (Option Bool)
  | conj members, id => if constantOfAll members = some false then .ok (some false) else verdictOfAll graph members id
  | disj members, id => if constantOfAny members = some true then .ok (some true) else verdictOfAny graph members id
  | neg filter, id => Truth.not <$> verdict graph filter id
  | property name test, id => test.verdict (graph.value id name)
  | related relationship quantifier filter, id => do
    let truths ← (graph.reached id relationship.step).mapM fun other => verdict graph filter other
    return some (quantifier.holds truths)

/-- The truth of all of several filters on a node; those after a false one are not looked at. -/
def verdictOfAll (graph : Graph) : List Filter → (id : String) → Result (Option Bool)
  | [], _ => .ok (some true)
  | filter :: rest, id => Truth.andThen (verdict graph filter id) (verdictOfAll graph rest id)

/-- The truth of some of several filters on a node; those after a true one are not looked at. -/
def verdictOfAny (graph : Graph) : List Filter → (id : String) → Result (Option Bool)
  | [], _ => .ok (some false)
  | filter :: rest, id => Truth.orElse (verdict graph filter id) (verdictOfAny graph rest id)

end

/-- Whether a filter evaluates to true on a node. -/
def Holds (graph : Graph) (filter : Filter) (id : String) : Prop := filter.verdict graph id = .ok (some true)

end Filter

/-! ## Parameters -/

namespace Bindings

theorem addParam_values (b : Bindings) (value : Value) : (b.addParam value).2.values = b.values ++ [value] := rfl

theorem prefix_addParam (b : Bindings) (value : Value) : b.values <+: (b.addParam value).2.values :=
  List.prefix_append _ _

theorem prefix_addParams : ∀ (values : List Value) (b : Bindings), b.values <+: (b.addParams values).2.values
  | [], _ => List.prefix_refl _
  | value :: rest, b => (b.prefix_addParam value).trans (prefix_addParams rest (b.addParam value).2)

/-- The values registered before keep their indices. -/
theorem value_kept {b b' : Bindings} (hp : b.values <+: b'.values) {i : Nat} {value : Value}
    (hvalue : b.values[i]? = some value) : b'.values[i]? = some value := by
  obtain ⟨rest, hrest⟩ := hp
  have hlt : i < b.values.length := (List.getElem?_eq_some_iff.mp hvalue).1
  rw [← hrest, List.getElem?_append_left hlt]
  exact hvalue

/-- The value registered last has the next index. -/
theorem value_addParam (b : Bindings) (value : Value) :
    (b.addParam value).2.values[b.values.length]? = some value := by
  rw [addParam_values, List.getElem?_append_right (Nat.le_refl _), Nat.sub_self]
  rfl

end Bindings

/-- Lowering keeps the parameters registered before. -/
theorem PropertyTest.prefix_lower (operand : Operand) (b : Bindings) : ∀ test : PropertyTest,
    b.values <+: (test.lower operand b).2.values
  | .oneOf [] => List.prefix_refl _
  | .oneOf (value :: rest) => b.prefix_addParams (value :: rest)
  | .isNull true | .isNull false => List.prefix_refl _
  | .eq value | .lt value | .lte value | .gt value | .gte value => b.prefix_addParam value
  | .startsWith text | .endsWith text | .contains text | .matching text => b.prefix_addParam (.string text)

namespace Filter

mutual

theorem prefix_lower : ∀ (filter : Filter) (var : String) (b : Bindings), b.values <+: (filter.lower var b).2.values
  | conj members, var, b | disj members, var, b => by
    rw [lower]
    exact prefix_lowerAll members var b
  | neg filter, var, b => by
    rw [lower]
    exact prefix_lower filter var b
  | property name test, var, b => by
    rw [lower]
    exact test.prefix_lower _ b
  | related relationship quantifier filter, var, b => by
    rw [lower]
    exact prefix_lower filter b.freshVar.1 b.freshVar.2

theorem prefix_lowerAll : ∀ (filters : List Filter) (var : String) (b : Bindings),
    b.values <+: (lowerAll filters var b).2.values
  | [], _, _ => List.prefix_refl _
  | filter :: rest, var, b => by
    rw [lowerAll]
    exact (prefix_lower filter var b).trans (prefix_lowerAll rest var (filter.lower var b).2)

end

end Filter

namespace Evaluation

variable [PropertyTable]

/-- The parameters have the values registered for them. -/
def Knows (e : Evaluation) (b : Bindings) : Prop :=
  ∀ i value, b.values[i]? = some value → e.argument (Bindings.paramName i) = .ok (.ofValue value)

variable {e : Evaluation} {b b' : Bindings} {scope : Scope} {var id : String}

theorem Knows.of_prefix (h : e.Knows b') (hp : b.values <+: b'.values) : e.Knows b :=
  fun i value hvalue => h i value (Bindings.value_kept hp hvalue)

theorem Knows.addParam {value : Value} (h : e.Knows (b.addParam value).2) :
    e.argument (b.addParam value).1 = .ok (.ofValue value) :=
  h b.values.length value (b.value_addParam value)

theorem Knows.param {value : Value} (h : e.Knows (b.addParam value).2) : e.param (b.addParam value).1 = .ok value := by
  rw [Evaluation.param, h.addParam]
  rfl

/-! ## Tests -/

theorem oneOf_addParams {value : Value} : ∀ {values : List Value} {b : Bindings}, e.Knows (b.addParams values).2 →
    e.oneOf value (b.addParams values).1 = .ok (PropertyTest.amongst value values)
  | [], _, _ => rfl
  | other :: rest, b, h => by
    have hparam : e.param (b.addParam other).1 = .ok other :=
      (h.of_prefix (Bindings.prefix_addParams rest (b.addParam other).2)).param
    have hrest : e.oneOf value ((b.addParam other).2.addParams rest).1 = .ok (PropertyTest.amongst value rest) :=
      oneOf_addParams h
    show e.oneOf value ((b.addParam other).1 :: ((b.addParam other).2.addParams rest).1) =
      .ok (Truth.or (CompareOp.eq.truth value other) (PropertyTest.amongst value rest))
    rw [oneOf, hparam, hrest]
    simp only [Result.ok_bind]
    rcases CompareOp.eq.truth value other with _ | _ | _
    · rfl
    · rfl
    · rw [Truth.true_or]
      rfl

section Tests

variable {operand : Operand} {value : Value}

theorem truth_compare {op : CompareOp} {other : Value} (ho : e.operand scope operand = .ok value)
    (h : e.Knows (b.compare operand op other).2) :
    e.truth (b.compare operand op other).1 scope = .ok (op.truth value other) := by
  rw [Bindings.compare, truth, ho, Result.ok_bind, Knows.param h]
  rfl

theorem truth_range {op : CompareOp} {other : Value} (ho : e.operand scope operand = .ok value)
    (h : e.Knows (b.range operand op other).2) :
    e.truth (b.range operand op other).1 scope = .ok (PropertyTest.rangeTruth op value other) := by
  have hcompare : e.truth (b.compare operand op other).1 scope = .ok (op.truth value other) := truth_compare ho h
  have hproper : ∀ c ∈ [Condition.not (.isNull operand), (b.compare operand op other).1], c.Proper := by
    intro c hc
    rcases List.mem_cons.mp hc with rfl | hc
    · exact ⟨rfl, trivial⟩
    · obtain rfl := List.mem_singleton.mp hc
      exact trivial
  rw [Bindings.range, truth_and hproper, if_neg (by exact nofun), truthOfAll_cons, truthOfAll_cons, truth_not, truth, ho,
    hcompare, truthOfAll, Truth.andThen_ok_true, PropertyTest.rangeTruth]
  cases hn : value.isNull with
  | true => simp [hn, Truth.not]
  | false => simp [hn, Truth.not]

theorem truth_textTest {op : TextOp} {text : String} (ho : e.operand scope operand = .ok value)
    (h : e.Knows (b.text operand op text).2) :
    e.truth (b.text operand op text).1 scope = textTest value op (.ofValue (.string text)) := by
  rw [Bindings.text, truth, ho, Result.ok_bind, Knows.addParam h]
  rfl

/-- The condition of a test has the verdict of the test on the value that is read. -/
theorem truth_lower_test (ho : e.operand scope operand = .ok value) : ∀ {test : PropertyTest},
    e.Knows (test.lower operand b).2 → e.truth (test.lower operand b).1 scope = test.verdict value
  | .eq _, h => truth_compare ho h
  | .oneOf [], _ => by rw [PropertyTest.lower, truth]; rfl
  | .oneOf (other :: rest), h => by
    show e.truth (.oneOf operand (b.addParams (other :: rest)).1) scope = _
    rw [truth, ho, Result.ok_bind]
    exact oneOf_addParams h
  | .lt _, h | .lte _, h | .gt _, h | .gte _, h => truth_range ho h
  | .startsWith _, h | .endsWith _, h | .contains _, h | .matching _, h => truth_textTest ho h
  | .isNull true, _ => by
    rw [PropertyTest.lower, truth, ho]
    simp [PropertyTest.verdict]
  | .isNull false, _ => by
    rw [PropertyTest.lower, truth_not, truth, ho]
    simp [PropertyTest.verdict, Truth.not]

end Tests

end Evaluation

/-! ## Filters -/

/-- The condition of a test is a constant only if the test is. -/
theorem PropertyTest.proper_lower (operand : Operand) (b : Bindings) : ∀ test : PropertyTest,
    (test.lower operand b).1.Proper ∧ (test.lower operand b).1.constant? = test.constant?
  | .oneOf [] | .oneOf (_ :: _) | .isNull true => ⟨trivial, rfl⟩
  | .isNull false => ⟨⟨rfl, trivial⟩, rfl⟩
  | .eq _ | .startsWith _ | .endsWith _ | .contains _ | .matching _ => ⟨trivial, rfl⟩
  | .lt _ | .lte _ | .gt _ | .gte _ => ⟨Nat.le_refl 2, rfl⟩

namespace Filter

mutual

/-- The condition of a filter is a constant only if the filter is. -/
theorem proper_lower : ∀ (filter : Filter) (var : String) (b : Bindings),
    (filter.lower var b).1.Proper ∧ (filter.lower var b).1.constant? = filter.constant?
  | conj members, var, b => by
    obtain ⟨hproper, hall, _⟩ := proper_lowerAll members var b
    obtain ⟨hconst, hp⟩ := Condition.constant?_and hproper
    rw [lower, constant?, ← hall]
    exact ⟨hp, hconst⟩
  | disj members, var, b => by
    obtain ⟨hproper, _, hany⟩ := proper_lowerAll members var b
    obtain ⟨hconst, hp⟩ := Condition.constant?_or hproper
    rw [lower, constant?, ← hany]
    exact ⟨hp, hconst⟩
  | neg filter, var, b => by
    obtain ⟨hproper, heq⟩ := proper_lower filter var b
    obtain ⟨hconst, hp⟩ := Condition.constant?_not hproper
    rw [lower, constant?, ← heq]
    exact ⟨hp, hconst⟩
  | property name test, var, b => by
    rw [lower, constant?]
    exact test.proper_lower _ b
  | related relationship quantifier filter, var, b => by
    rw [lower, constant?]
    exact ⟨trivial, rfl⟩

theorem proper_lowerAll : ∀ (filters : List Filter) (var : String) (b : Bindings),
    (∀ c ∈ (lowerAll filters var b).1, c.Proper) ∧
      Condition.constantOfAll (lowerAll filters var b).1 = constantOfAll filters ∧
      Condition.constantOfAny (lowerAll filters var b).1 = constantOfAny filters
  | [], _, _ => ⟨nofun, rfl, rfl⟩
  | filter :: rest, var, b => by
    obtain ⟨hproper, hconst⟩ := proper_lower filter var b
    obtain ⟨hrest, hall, hany⟩ := proper_lowerAll rest var (filter.lower var b).2
    rw [lowerAll, constantOfAll, constantOfAny, Condition.constantOfAll_cons, Condition.constantOfAny_cons, hconst,
      hall, hany]
    exact ⟨List.forall_mem_cons.mpr ⟨hproper, hrest⟩, rfl, rfl⟩

end

end Filter

namespace Evaluation

variable [PropertyTable] {e : Evaluation}

mutual

/-- The condition of a filter has the verdict of the filter on the node that is bound. -/
theorem truth_lower : ∀ {filter : Filter} {var id : String} {b : Bindings} {scope : Scope}, e.graph.Stored id →
    e.Knows (filter.lower var b).2 → e.truth (filter.lower var b).1 ((var, id) :: scope) = filter.verdict e.graph id
  | .conj members, var, id, b, scope, hs, hk => by
    obtain ⟨hproper, hall, _⟩ := Filter.proper_lowerAll members var b
    rw [Filter.lower] at hk ⊢
    rw [truth_and hproper, hall, Filter.verdict, (truth_lowerAll hs hk).1]
  | .disj members, var, id, b, scope, hs, hk => by
    obtain ⟨hproper, _, hany⟩ := Filter.proper_lowerAll members var b
    rw [Filter.lower] at hk ⊢
    rw [truth_or hproper, hany, Filter.verdict, (truth_lowerAll hs hk).2]
  | .neg filter, var, id, b, scope, hs, hk => by
    rw [Filter.lower] at hk ⊢
    rw [truth_not, truth_lower hs hk, Filter.verdict]
  | .property name test, var, id, b, scope, hs, hk => by
    rw [Filter.lower] at hk ⊢
    rw [Filter.verdict]
    exact truth_lower_test (operand_eq hs (.property name)) hk
  | .related relationship quantifier filter, var, id, b, scope, hs, hk => by
    rw [Filter.lower] at hk ⊢
    rw [truth, bound_cons, Result.ok_bind, Filter.verdict]
    have hreached : ∀ other ∈ e.graph.reached id relationship.step,
        e.truth (filter.lower b.freshVar.1 b.freshVar.2).1 ((b.freshVar.1, other) :: (var, id) :: scope) =
          filter.verdict e.graph other :=
      fun other hmem => truth_lower (Graph.stored_of_mem_neighbours hmem) hk
    rw [Result.mapM_congr hreached]

theorem truth_lowerAll : ∀ {filters : List Filter} {var id : String} {b : Bindings} {scope : Scope},
    e.graph.Stored id → e.Knows (Filter.lowerAll filters var b).2 →
      e.truthOfAll (Filter.lowerAll filters var b).1 ((var, id) :: scope) = Filter.verdictOfAll e.graph filters id ∧
      e.truthOfAny (Filter.lowerAll filters var b).1 ((var, id) :: scope) = Filter.verdictOfAny e.graph filters id
  | [], var, id, b, scope, _, _ => by
    rw [Filter.lowerAll, truthOfAll, truthOfAny, Filter.verdictOfAll, Filter.verdictOfAny]
    exact ⟨rfl, rfl⟩
  | filter :: rest, var, id, b, scope, hs, hk => by
    rw [Filter.lowerAll] at hk ⊢
    have hfirst : e.truth (filter.lower var b).1 ((var, id) :: scope) = filter.verdict e.graph id :=
      truth_lower hs (hk.of_prefix (Filter.prefix_lowerAll rest var (filter.lower var b).2))
    have hrest : e.truthOfAll (Filter.lowerAll rest var (filter.lower var b).2).1 ((var, id) :: scope) =
          Filter.verdictOfAll e.graph rest id ∧
        e.truthOfAny (Filter.lowerAll rest var (filter.lower var b).2).1 ((var, id) :: scope) =
          Filter.verdictOfAny e.graph rest id := truth_lowerAll hs hk
    obtain ⟨hall, hany⟩ := hrest
    rw [truthOfAll_cons, truthOfAny_cons, hfirst, Filter.verdictOfAll, Filter.verdictOfAny, hall, hany]
    exact ⟨rfl, rfl⟩

end

end Evaluation

end GraphQuery
