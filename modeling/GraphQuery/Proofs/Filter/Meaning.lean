import GraphQuery.Pattern.KnownProperty
import GraphQuery.Proofs.Plan.Names
import GraphQuery.Proofs.Value.Order
import Mathlib.Data.List.Infix

/-!
# What a filter means

`Filter.meaning` gives the truth of a filter on a node without reference to how it is evaluated: a conjunction is false
where a member is and true where all members are, a disjunction the other way round, a test says what it says of the
value of the property, and a predicate on related nodes is never unknown. Nothing is looked at in order, and nothing can
fail.

Evaluation stops at the first member that decides, and conditions are folded before. None of this shows:
`Filter.verdict_eq_meaning` says so of the verdict of a filter, and `Filter.truth_lower_params` of the condition that a
filter is lowered to, whatever is lowered before and after it, with the table of all parameters in the end.
-/

namespace GraphQuery

/-! ## Connectives -/

namespace Truth

/-- The truth of all: false if one is, else unknown if one is. -/
def all (truths : List (Option Bool)) : Option Bool :=
  if some false ∈ truths then some false else if none ∈ truths then none else some true

/-- The truth of some: true if one is, else unknown if one is. -/
def any (truths : List (Option Bool)) : Option Bool :=
  if some true ∈ truths then some true else if none ∈ truths then none else some false

theorem all_cons (a : Option Bool) (truths : List (Option Bool)) : all (a :: truths) = Truth.and a (all truths) := by
  unfold all
  rcases a with _ | _ | _ <;> by_cases hfalse : some false ∈ truths <;> by_cases hnone : none ∈ truths <;>
    simp [Truth.and, hfalse, hnone]

theorem any_cons (a : Option Bool) (truths : List (Option Bool)) : any (a :: truths) = Truth.or a (any truths) := by
  unfold any
  rcases a with _ | _ | _ <;> by_cases htrue : some true ∈ truths <;> by_cases hnone : none ∈ truths <;>
    simp [Truth.or, htrue, hnone]

section Known

variable {a b a' b' : Option Bool}

/-- What is known of a conjunction stays when more is known of its parts. -/
theorem and_of_known (ha : ∀ k, a = some k → a' = some k) (hb : ∀ k, b = some k → b' = some k) :
    ∀ {k : Bool}, Truth.and a b = some k → Truth.and a' b' = some k
  | true, h => and_eq_true.mpr ((and_eq_true.mp h).imp (ha true) (hb true))
  | false, h => and_eq_false.mpr ((and_eq_false.mp h).imp (ha false) (hb false))

theorem or_of_known (ha : ∀ k, a = some k → a' = some k) (hb : ∀ k, b = some k → b' = some k) :
    ∀ {k : Bool}, Truth.or a b = some k → Truth.or a' b' = some k
  | true, h => or_eq_true.mpr ((or_eq_true.mp h).imp (ha true) (hb true))
  | false, h => or_eq_false.mpr ((or_eq_false.mp h).imp (ha false) (hb false))

end Known

/-- Asking for the second part only when the first is not false changes no conjunction of parts that have a truth. -/
theorem andThen_ok (a b : Option Bool) : andThen (.ok a) (.ok b) = .ok (Truth.and a b) := by
  rcases a with _ | _ | _ <;> simp

theorem orElse_ok (a b : Option Bool) : orElse (.ok a) (.ok b) = .ok (Truth.or a b) := by
  rcases a with _ | _ | _ <;> simp

end Truth

/-! ## Tests -/

namespace Value

/-- The truth of two values being equal; nothing is known of nulls. -/
def equality (value other : Value) : Option Bool :=
  if value = .null ∨ other = .null then none else some (value.compare other = .eq)

/-- The truth of a value lying in a range that another bounds. A null lies in no range, and nothing is known of values
that cannot be compared. -/
def within (value other : Value) (inRange : Ordering → Bool) : Option Bool :=
  if value = .null then some false
  else if value.comparable other then some (inRange (value.compare other)) else none

/-- The truth of a property of a text; nothing is known of what is not a text. -/
def textually (value : Value) (holds : String → Bool) : Option Bool :=
  match value with
  | .string text => some (holds text)
  | _ => none

theorem isNull_eq_decide (value : Value) : value.isNull = decide (value = .null) := by
  cases value <;> simp [isNull]

theorem not_comparable_null (value : Value) : value.comparable .null = false := by
  cases value <;> rfl

theorem truth_eq_equality (value other : Value) : CompareOp.eq.truth value other = value.equality other := by
  unfold CompareOp.truth equality
  simp [isNull_eq_true, CompareOp.holds]

theorem rangeTruth_eq_within {op : CompareOp} (hop : op ≠ .eq) (value other : Value) :
    PropertyTest.rangeTruth op value other = value.within other op.holds := by
  unfold PropertyTest.rangeTruth within CompareOp.truth
  by_cases hvalue : value = .null
  · simp [isNull_eq_true, hvalue]
  · by_cases hother : other = .null
    · simp [isNull_eq_true, hvalue, hother, not_comparable_null]
    · simp [isNull_eq_true, hvalue, hother, hop]

end Value

theorem containsText_eq_true_iff {part : List Char} : ∀ {text : List Char},
    containsText part text = true ↔ part <:+: text
  | [] => by simp [containsText]
  | c :: rest => by
    rw [containsText, Bool.or_eq_true, List.isPrefixOf_iff_prefix, containsText_eq_true_iff, List.infix_cons_iff]

/-- Whether a pattern compiles in the form that matches whole texts. -/
def Automaton.Anchorable [PropertyTable] (pattern : String) : Prop := (anchored? pattern).isSome = true

namespace PropertyTest

/-- The truth of a test of a value. -/
def meaning [PropertyTable] (value : Value) : PropertyTest → Option Bool
  | eq other => value.equality other
  | oneOf values => Truth.any (values.map value.equality)
  | lt other => value.within other (· = .lt)
  | lte other => value.within other (· ≠ .gt)
  | gt other => value.within other (· = .gt)
  | gte other => value.within other (· ≠ .lt)
  | startsWith word => value.textually fun text => word.toList <+: text.toList
  | endsWith word => value.textually fun text => word.toList <:+ text.toList
  | contains word => value.textually fun text => word.toList <:+: text.toList
  | matching pattern => value.textually fun text => (Automaton.anchored? pattern).any (·.matchesIn text)
  | isNull expected => some (decide (value = .null) == expected)

/-- The pattern of a test, if it has one. -/
def patterns : PropertyTest → List String
  | matching pattern => [pattern]
  | _ => []

theorem amongst_eq_any (value : Value) : ∀ values : List Value,
    amongst value values = Truth.any (values.map value.equality)
  | [] => rfl
  | other :: rest => by
    have ih : amongst value rest = Truth.any (rest.map value.equality) := amongst_eq_any value rest
    rw [List.map_cons, Truth.any_cons, ← ih, ← Value.truth_eq_equality]
    rfl

variable [PropertyTable]

theorem textTest_eq {value : Value} {op : TextOp} {word : String} {holds : String → Bool}
    (h : ∀ text, op.holds text word (Argument.ofValue (.string word)).automaton = .ok (holds text)) :
    Evaluation.textTest value op (.ofValue (.string word)) = .ok (value.textually holds) := by
  cases value with
  | string text =>
    show some <$> op.holds text word (Argument.ofValue (.string word)).automaton = _
    rw [h text]
    rfl
  | _ => rfl

theorem verdict_eq_meaning {value : Value} : ∀ {test : PropertyTest},
    (∀ pattern ∈ test.patterns, Automaton.Anchorable pattern) → test.verdict value = .ok (test.meaning value)
  | .eq other, _ => by rw [verdict, meaning, Value.truth_eq_equality]
  | .oneOf values, _ => by rw [verdict, meaning, amongst_eq_any]
  | .lt other, _ | .lte other, _ | .gt other, _ | .gte other, _ => by
    rw [verdict, meaning, Value.rangeTruth_eq_within (by decide)]
    rfl
  | .startsWith word, _ => textTest_eq fun text => by
    simp only [TextOp.holds, Except.ok.injEq]
    exact Bool.eq_iff_iff.mpr (by rw [List.isPrefixOf_iff_prefix, decide_eq_true_iff])
  | .endsWith word, _ => textTest_eq fun text => by
    simp only [TextOp.holds, Except.ok.injEq]
    exact Bool.eq_iff_iff.mpr (by rw [List.isSuffixOf_iff_suffix, decide_eq_true_iff])
  | .contains word, _ => textTest_eq fun text => by
    simp only [TextOp.holds, Except.ok.injEq]
    exact Bool.eq_iff_iff.mpr (by rw [containsText_eq_true_iff, decide_eq_true_iff])
  | .matching pattern, h => textTest_eq fun text => by
    obtain ⟨automaton, hautomaton⟩ := Option.isSome_iff_exists.mp (h pattern List.mem_cons_self)
    have hargument : (Argument.ofValue (.string pattern)).automaton.get = some automaton := hautomaton
    simp only [TextOp.holds, hargument, hautomaton, Option.any_some]
  | .isNull expected, _ => by
    rw [verdict, meaning, Value.isNull_eq_decide]

end PropertyTest

/-! ## Filters -/

namespace Filter

mutual

/-- The truth of a filter on a node. -/
def meaning [PropertyTable] (graph : Graph) : Filter → (id : String) → Option Bool
  | conj members, id => Truth.all (meanings graph members id)
  | disj members, id => Truth.any (meanings graph members id)
  | neg filter, id => (meaning graph filter id).map (!·)
  | property name test, id => test.meaning (graph.value id name)
  | related relationship .any filter, id =>
    some (decide (∃ other ∈ graph.reached id relationship.step, meaning graph filter other = some true))
  | related relationship .none filter, id =>
    some (decide (∀ other ∈ graph.reached id relationship.step, meaning graph filter other ≠ some true))
  | related relationship .all filter, id =>
    some (decide (∀ other ∈ graph.reached id relationship.step, meaning graph filter other ≠ some false))

/-- The truths of several filters on a node. -/
def meanings [PropertyTable] (graph : Graph) : List Filter → (id : String) → List (Option Bool)
  | [], _ => []
  | filter :: rest, id => meaning graph filter id :: meanings graph rest id

end

mutual

/-- The patterns of a filter. -/
def patterns : Filter → List String
  | conj members | disj members => patternsOfAll members
  | neg filter => patterns filter
  | property _ test => test.patterns
  | related _ _ filter => patterns filter

/-- The patterns of several filters. -/
def patternsOfAll : List Filter → List String
  | [] => []
  | filter :: rest => patterns filter ++ patternsOfAll rest

end

theorem mem_patternsOfAll {pattern : String} : ∀ {filters : List Filter},
    pattern ∈ patternsOfAll filters ↔ ∃ filter ∈ filters, pattern ∈ filter.patterns
  | [] => by simp [patternsOfAll]
  | filter :: rest => by simp [patternsOfAll, mem_patternsOfAll]

variable {graph : Graph}

section

variable [PropertyTable]

mutual

/-- A constant is the meaning on every node. -/
theorem meaning_of_constant {id : String} : ∀ {filter : Filter} {k : Bool}, filter.constant? = some k →
    filter.meaning graph id = some k
  | .conj members, k, h => by
    rw [constant?] at h
    rw [meaning]
    exact all_of_constant h
  | .disj members, k, h => by
    rw [constant?] at h
    rw [meaning]
    exact any_of_constant h
  | .neg filter, k, h => by
    have hinner : constant? filter = some !k := by
      rw [constant?] at h
      rw [← Truth.not_not (constant? filter), h]
      rfl
    rw [meaning, meaning_of_constant hinner]
    simp
  | .property name (.oneOf []), k, h => by
    rw [constant?] at h
    rw [meaning, ← h]
    rfl
  | .property name (.oneOf (_ :: _)), k, h | .property name (.eq _), k, h | .property name (.lt _), k, h
  | .property name (.lte _), k, h | .property name (.gt _), k, h | .property name (.gte _), k, h
  | .property name (.startsWith _), k, h | .property name (.endsWith _), k, h | .property name (.contains _), k, h
  | .property name (.matching _), k, h | .property name (.isNull _), k, h => by
    rw [constant?] at h
    cases h
  | .related relationship quantifier filter, k, h => by
    rw [constant?] at h
    cases h

theorem all_of_constant {id : String} : ∀ {filters : List Filter} {k : Bool}, constantOfAll filters = some k →
    Truth.all (meanings graph filters id) = some k
  | [], k, h => by
    rw [constantOfAll] at h
    rw [← h]
    rfl
  | filter :: rest, k, h => by
    rw [constantOfAll] at h
    rw [meanings, Truth.all_cons]
    exact Truth.and_of_known (fun _ => meaning_of_constant) (fun _ => all_of_constant) h

theorem any_of_constant {id : String} : ∀ {filters : List Filter} {k : Bool}, constantOfAny filters = some k →
    Truth.any (meanings graph filters id) = some k
  | [], k, h => by
    rw [constantOfAny] at h
    rw [← h]
    rfl
  | filter :: rest, k, h => by
    rw [constantOfAny] at h
    rw [meanings, Truth.any_cons]
    exact Truth.or_of_known (fun _ => meaning_of_constant) (fun _ => any_of_constant) h

end

mutual

/-- The verdict of a filter is its meaning, where its patterns compile. -/
theorem verdict_eq_meaning : ∀ {filter : Filter} {id : String},
    (∀ pattern ∈ filter.patterns, Automaton.Anchorable pattern) → filter.verdict graph id = .ok (filter.meaning graph id)
  | .conj members, id, h => by
    rw [patterns] at h
    rw [verdict, meaning]
    split
    · rename_i hfalse
      rw [all_of_constant hfalse]
    · exact (verdicts_eq_meanings h).1
  | .disj members, id, h => by
    rw [patterns] at h
    rw [verdict, meaning]
    split
    · rename_i htrue
      rw [any_of_constant htrue]
    · exact (verdicts_eq_meanings h).2
  | .neg filter, id, h => by
    rw [patterns] at h
    rw [verdict, meaning, verdict_eq_meaning h]
    rfl
  | .property name test, id, h => by
    rw [patterns] at h
    rw [verdict, meaning, PropertyTest.verdict_eq_meaning h]
  | .related relationship quantifier filter, id, h => by
    rw [patterns] at h
    have hothers : ∀ other ∈ graph.reached id relationship.step,
        filter.verdict graph other = .ok (filter.meaning graph other) := fun other _ => verdict_eq_meaning h
    rw [verdict, Result.mapM_eq_map hothers, Result.ok_bind]
    cases quantifier <;> rw [meaning] <;>
      exact congrArg (fun truth => Except.ok (some truth)) (Bool.eq_iff_iff.mpr (by simp [Quantifier.holds]))

theorem verdicts_eq_meanings : ∀ {filters : List Filter} {id : String},
    (∀ pattern ∈ patternsOfAll filters, Automaton.Anchorable pattern) →
      verdictOfAll graph filters id = .ok (Truth.all (meanings graph filters id)) ∧
      verdictOfAny graph filters id = .ok (Truth.any (meanings graph filters id))
  | [], id, _ => by
    rw [verdictOfAll, verdictOfAny]
    exact ⟨rfl, rfl⟩
  | filter :: rest, id, h => by
    rw [patternsOfAll] at h
    obtain ⟨hfirst, hrest⟩ := List.forall_mem_append.mp h
    obtain ⟨hall, hany⟩ := @verdicts_eq_meanings rest id hrest
    rw [verdictOfAll, verdictOfAny, meanings, Truth.all_cons, Truth.any_cons, verdict_eq_meaning hfirst, hall, hany,
      Truth.andThen_ok, Truth.orElse_ok]
    exact ⟨rfl, rfl⟩

end

end

/-! ## Lowering -/

variable {filter : Filter} {var id : String} {b b' : Bindings}

/-- The condition of a filter means what the filter does, in every statement that names are handed out for before and
after the condition. -/
theorem truth_lower_params [PropertyTable] (root : Block) (scope : Scope) (hs : graph.Stored id)
    (hp : ∀ pattern ∈ filter.patterns, Automaton.Anchorable pattern) (hlater : (filter.lower var b).2.Grows b') :
    (graph.evaluation ⟨root, b'.params⟩).truth (filter.lower var b).1 ((var, id) :: scope) =
      .ok (filter.meaning graph id) := by
  have hknows : (graph.evaluation ⟨root, b'.params⟩).Knows (filter.lower var b).2 :=
    Evaluation.Knows.of_prefix (Graph.knows_of_params rfl) hlater.values
  rw [← verdict_eq_meaning hp]
  exact Evaluation.truth_lower hs hknows

/-- Two nodes with an edge from the first to the second; the first has no size. -/
def sizedGraph : Graph :=
  { (Graph.empty.addNode "a" ["A"] []).addNode "b" ["A"] [("size", .int 3)] with edges := [⟨"a", "NEXT", "b"⟩] }

/-- The size is not three, and every node that follows has a size below a text and an identifier in letters. -/
def unsettled : Filter :=
  .conj [.neg (.property "size" (.eq (.int 3))),
    .related ⟨"next", "A", "A", "NEXT", .outgoing, .many, none⟩ .all
      (.conj [.property "size" (.lt (.string "x")), .property "id" (.matching "[a-z]+")])]

/-- A null leaves the size of the first node unknown, and values of different kinds do not make the second fail. -/
theorem truth_lower_params_unsettled :
    (∀ pattern ∈ unsettled.patterns, Automaton.Anchorable pattern) ∧ sizedGraph.Stored "a" ∧
      (sizedGraph.evaluation ⟨default, ((unsettled.lower "n7" ⟨8, [.null]⟩).2.addParam (.bool true)).2.params⟩).truth
        (unsettled.lower "n7" ⟨8, [.null]⟩).1 [("n7", "a"), ("n0", "b")] = .ok none := by
  have hanchored : (Automaton.anchored? "[a-z]+").isSome = true := by decide +kernel
  have hpatterns : ∀ pattern ∈ unsettled.patterns, Automaton.Anchorable pattern := by
    intro pattern hpattern
    rw [List.mem_singleton.mp hpattern]
    exact hanchored
  have hstored : sizedGraph.Stored "a" := rfl
  have hlater : (unsettled.lower "n7" ⟨8, [.null]⟩).2.Grows
      ((unsettled.lower "n7" ⟨8, [.null]⟩).2.addParam (.bool true)).2 := ⟨Bindings.prefix_addParam _ _, Nat.le_refl _⟩
  have hmeaning : unsettled.meaning sizedGraph "a" = none := by decide +kernel
  exact ⟨hpatterns, hstored,
    (truth_lower_params default [("n0", "b")] hstored hpatterns hlater).trans (congrArg Except.ok hmeaning)⟩

end Filter
end GraphQuery
