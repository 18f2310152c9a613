import GraphQuery.Pattern.KnownProperty
import GraphQuery.Proofs.Filter.Holds
import GraphQuery.Proofs.Filter.Reading

/-!
# Nodes that match a filter

A node matches a filter when the condition of the filter is true of it, at whatever site of a statement the filter
stands (`Filter.Matches`), and misses it when the condition is true of it at no site (`Filter.Misses`). The site does not
matter (`Filter.truthAt_eq_verdict`), so a node does one or the other. A condition has a truth unless its evaluation
fails (`Filter.Evaluates`).

Matching is two-valued, truth is not. A node on which a filter is unknown misses both the filter and its negation: so it
is with most tests of a property that the node does not have (`Filter.matches_of_null`), but a range test is false there
and its negation true. Predicates on related nodes are read accordingly (`Filter.matches_quantified`): `any` and `none`
ask which related nodes match, `all` which of them match the negation, so that a related node on which the filter is
unknown counts for `all` although it does not match.
-/

namespace GraphQuery
namespace Filter

/-! ## Sites -/

/-- A place of a statement at which a filter may stand. -/
structure Site where
  /-- The variable whose node the filter is about. -/
  var : String
  /-- The names handed out before the filter. -/
  names : Bindings
  /-- The nodes bound around it. -/
  scope : Scope
  /-- The values registered after it. -/
  later : List Value

variable [PropertyTable]

/-- The truth of the condition of a filter on a node. -/
def truthAt (graph : Graph) (filter : Filter) (site : Site) (id : String) : Result (Option Bool) :=
  let lowered := filter.lower site.var site.names
  let names : Bindings := { lowered.2 with values := lowered.2.values ++ site.later }
  (graph.evaluation ⟨default, names.params⟩).truth lowered.1 ((site.var, id) :: site.scope)

/-- Whether a filter is evaluated on a node without failure, wherever it stands. -/
def Evaluates (graph : Graph) (filter : Filter) (id : String) : Prop :=
  ∀ site, ∃ truth, filter.truthAt graph site id = .ok truth

/-- Whether a node matches a filter: the condition of the filter is true of it. -/
def Matches (graph : Graph) (filter : Filter) (id : String) : Prop :=
  ∀ site, filter.truthAt graph site id = .ok (some true)

/-- Whether a node misses a filter: the condition of the filter is true of it nowhere. -/
def Misses (graph : Graph) (filter : Filter) (id : String) : Prop :=
  ∀ site, filter.truthAt graph site id ≠ .ok (some true)

section Sites

variable {graph : Graph} {filter : Filter} {id : String}

/-- The condition of a filter has the verdict of the filter, wherever it stands. -/
theorem truthAt_eq_verdict (hs : graph.Stored id) (site : Site) :
    filter.truthAt graph site id = filter.verdict graph id :=
  Evaluation.truth_lower hs (Evaluation.Knows.of_prefix (Graph.knows_of_params rfl) (List.prefix_append _ _))

theorem evaluates_iff_verdict (hs : graph.Stored id) :
    filter.Evaluates graph id ↔ ∃ truth, filter.verdict graph id = .ok truth := by
  simp only [Evaluates, truthAt_eq_verdict hs]
  exact ⟨fun h => h ⟨"", .empty, [], []⟩, fun h _ => h⟩

theorem matches_iff_holds (hs : graph.Stored id) : filter.Matches graph id ↔ filter.Holds graph id := by
  simp only [Matches, truthAt_eq_verdict hs, Holds]
  exact ⟨fun h => h ⟨"", .empty, [], []⟩, fun h _ => h⟩

theorem misses_iff_not_matches (hs : graph.Stored id) : filter.Misses graph id ↔ ¬ filter.Matches graph id := by
  rw [matches_iff_holds hs]
  simp only [Misses, truthAt_eq_verdict hs, Holds]
  exact ⟨fun h => h ⟨"", .empty, [], []⟩, fun h _ => h⟩

/-- A node matches a negation when the filter is false on it. -/
theorem matches_neg_iff (hs : graph.Stored id) : (neg filter).Matches graph id ↔ filter.Fails graph id := by
  rw [matches_iff_holds hs]
  refine ⟨fails_of_neg, fun h => ?_⟩
  rw [Holds, verdict, h]
  rfl

end Sites

end Filter

/-! ## Absent properties -/

namespace PropertyTest

/-- Whether a test asks for a range. -/
def isRange : PropertyTest → Bool
  | lt _ | lte _ | gt _ | gte _ => true
  | _ => false

theorem amongst_null : ∀ {values : List Value}, values ≠ [] → amongst .null values = none
  | [], h => absurd rfl h
  | [_], _ => rfl
  | _ :: value :: rest, _ => by
    have hrest : amongst .null (value :: rest) = none := amongst_null (List.cons_ne_nil value rest)
    rw [amongst, List.foldr_cons, ← amongst, hrest]
    rfl

/-- Nothing is known of a null, but that it lies in no range. -/
theorem verdict_null [PropertyTable] : ∀ {test : PropertyTest}, (∀ expected, test ≠ .isNull expected) → test ≠ .oneOf []
    → test.verdict .null = .ok (if test.isRange then some false else none)
  | .eq _, _, _ | .lt _, _, _ | .lte _, _, _ | .gt _, _, _ | .gte _, _, _ => rfl
  | .startsWith _, _, _ | .endsWith _, _, _ | .contains _, _, _ | .matching _, _, _ => rfl
  | .oneOf values, _, hsome => by
    rw [verdict, amongst_null fun hnil => hsome (by rw [hnil])]
    rfl
  | .isNull expected, hisNull, _ => absurd rfl (hisNull expected)

end PropertyTest

namespace Filter

/-- A node misses every test of a property that it does not have, or has as null. It misses the negation of the test
as well, unless the test asks for a range, and then it matches the negation. -/
theorem matches_of_null [PropertyTable] {graph : Graph} {id name : String} {test : PropertyTest} (hs : graph.Stored id)
    (hvalue : graph.value id name = .null) (hisNull : ∀ expected, test ≠ .isNull expected) (hsome : test ≠ .oneOf []) :
    (property name test).Misses graph id ∧
      ((neg (property name test)).Misses graph id ↔ test.isRange = false) ∧
      ((neg (property name test)).Matches graph id ↔ test.isRange = true) := by
  have hverdict : (property name test).verdict graph id = .ok (if test.isRange then some false else none) := by
    rw [verdict, hvalue, PropertyTest.verdict_null hisNull hsome]
  rw [misses_iff_not_matches hs, misses_iff_not_matches hs, matches_iff_holds hs, matches_neg_iff hs, Holds, Fails,
    hverdict]
  cases test.isRange <;> simp

/-- A node without a size is neither three in size nor not three. -/
theorem matches_of_null_size : sizedGraph.Stored "a" ∧ sizedGraph.value "a" "size" = .null ∧
    (property "size" (.eq (.int 3))).Misses sizedGraph "a" ∧
    (neg (property "size" (.eq (.int 3)))).Misses sizedGraph "a" := by
  have hstored : sizedGraph.Stored "a" := rfl
  have hvalue : sizedGraph.value "a" "size" = .null := rfl
  obtain ⟨htest, hneg, _⟩ : (property "size" (.eq (.int 3))).Misses sizedGraph "a" ∧ _ ∧ _ :=
    matches_of_null hstored hvalue nofun nofun
  exact ⟨hstored, hvalue, htest, hneg.mpr rfl⟩

/-- A node without a size is not below three in size, so it matches the negation. -/
theorem matches_neg_bounded : sizedGraph.Stored "a" ∧ sizedGraph.value "a" "size" = .null ∧
    (neg (property "size" (.lt (.int 3)))).Matches sizedGraph "a" := by
  have hstored : sizedGraph.Stored "a" := rfl
  exact ⟨hstored, rfl, (matches_neg_iff hstored).mpr rfl⟩

/-! ## Related nodes -/

section Related

variable {graph : Graph} {filter : Filter} {r : RelationshipDef} {id : String}

variable [PropertyTable]

/-- A predicate on related nodes is evaluated by evaluating the filter on every one of them. -/
theorem holds_related (quantifier : Quantifier) : (related r quantifier filter).Holds graph id ↔
    (∀ other ∈ graph.reached id r.step, ∃ truth, filter.verdict graph other = .ok truth) ∧
      match quantifier with
      | .any => ∃ other ∈ graph.reached id r.step, filter.Holds graph other
      | .none => ∀ other ∈ graph.reached id r.step, ¬ filter.Holds graph other
      | .all => ∀ other ∈ graph.reached id r.step, ¬ filter.Fails graph other := by
  rw [Holds, verdict]
  cases hrun : (graph.reached id r.step).mapM fun other => filter.verdict graph other with
  | error e =>
    refine iff_of_false (by simp) ?_
    rintro ⟨htotal, _⟩
    obtain ⟨truths, htruths⟩ := Result.mapM_total htotal
    cases hrun.symm.trans htruths
  | ok truths =>
    have htotal : ∀ other ∈ graph.reached id r.step, ∃ truth, filter.verdict graph other = .ok truth := by
      intro other hother
      obtain ⟨truth, _, htruth⟩ := Result.answer_of_mem_mapM hrun other hother
      exact ⟨truth, htruth⟩
    have hmem : ∀ truth, truth ∈ truths ↔
        ∃ other ∈ graph.reached id r.step, filter.verdict graph other = .ok truth := by
      refine fun truth => ⟨Result.member_of_mem_mapM hrun truth, ?_⟩
      rintro ⟨other, hother, htruth⟩
      obtain ⟨truth', hmem, htruth'⟩ := Result.answer_of_mem_mapM hrun other hother
      cases htruth.symm.trans htruth'
      exact hmem
    rw [Result.ok_bind, Result.pure_eq_ok, Except.ok.injEq, Option.some.injEq, and_iff_right htotal]
    cases quantifier <;> simp [Quantifier.holds, hmem, Holds, Fails]

/-- A predicate on related nodes, and how a client writes it. Wherever the filter is evaluated without failure, `any`
matches when some related node matches the filter, and `none` when none does, but `all` when no related node matches the
negation of the filter. -/
theorem matches_quantified (hs : graph.Stored id) (r : RelationshipDef) (filter : Filter) :
    (∀ {schema : Schema} {entity target : EntityType} {key : String} {raw : Json}, key ∉ reserved →
      entity.property? key = none → entity.relationship? key = some r → r.isMany = true →
      schema.entity? r.target = some target → parse schema target raw = .ok filter → ∀ quantifier : Quantifier,
        parse schema entity (.object [(key, .object [(quantifier.name, raw)])]) = .ok (related r quantifier filter)) ∧
    ((related r .any filter).Matches graph id ↔ (∀ other ∈ graph.reached id r.step, filter.Evaluates graph other) ∧
      ∃ other ∈ graph.reached id r.step, filter.Matches graph other) ∧
    ((related r .none filter).Matches graph id ↔ (∀ other ∈ graph.reached id r.step, filter.Evaluates graph other) ∧
      ∀ other ∈ graph.reached id r.step, ¬ filter.Matches graph other) ∧
    ((related r .all filter).Matches graph id ↔ (∀ other ∈ graph.reached id r.step, filter.Evaluates graph other) ∧
      ∀ other ∈ graph.reached id r.step, ¬ (neg filter).Matches graph other) := by
  have hstored : ∀ other ∈ graph.reached id r.step, graph.Stored other := fun _ => Graph.stored_of_mem_neighbours
  have hevaluates : (∀ other ∈ graph.reached id r.step, filter.Evaluates graph other) ↔
      ∀ other ∈ graph.reached id r.step, ∃ truth, filter.verdict graph other = .ok truth :=
    forall₂_congr fun other hother => evaluates_iff_verdict (hstored other hother)
  have hmatches : ∀ other ∈ graph.reached id r.step, (filter.Matches graph other ↔ filter.Holds graph other) :=
    fun other hother => matches_iff_holds (hstored other hother)
  simp only [matches_iff_holds hs, holds_related, hevaluates]
  refine ⟨fun hkey hproperty hr hmany htarget hread => parse_quantified hkey hproperty hr hmany htarget hread,
    and_congr_right' ?_, and_congr_right' ?_, and_congr_right' ?_⟩
  · exact exists_congr fun other => and_congr_right fun hother => (hmatches other hother).symm
  · exact forall₂_congr fun other hother => not_congr (hmatches other hother).symm
  · exact forall₂_congr fun other hother => not_congr (matches_neg_iff (hstored other hother)).symm

end Related

/-- A person with a friend that has no name. -/
def strangerGraph : Graph :=
  { (Graph.empty.addNode "p" ["Person"] []).addNode "a" ["Person"] [] with edges := [⟨"p", "KNOWS", "a"⟩] }

/-- Whether a person is called Rex. -/
def isRex : Filter := property "name" (.eq (.string "Rex"))

/-- What a client writes who asks for persons all of whose friends are called Rex. -/
def allRexRaw : Json :=
  .object [("friends", .object [("all", .object [("name", .object [("eq", .string "Rex")])])])]

/-- The friend without a name is not known not to be called Rex. -/
theorem matches_quantified_friends : strangerGraph.Stored "p" ∧
    parse Archive.schema Archive.person allRexRaw = .ok (related Archive.friends .all isRex) ∧
    (related Archive.friends .all isRex).Matches strangerGraph "p" := by
  have hstored : strangerGraph.Stored "p" := rfl
  have hreached : strangerGraph.reached "p" Archive.friends.step = ["a"] := rfl
  have hfriend : strangerGraph.Stored "a" := rfl
  have hread : parse Archive.schema Archive.person (.object [("name", .object [("eq", .string "Rex")])]) = .ok isRex :=
    parse_property (by simp [reserved]) rfl rfl rfl
  obtain ⟨hparse, _, _, hall⟩ := matches_quantified hstored Archive.friends isRex
  refine ⟨hstored, hparse (by simp [reserved]) rfl rfl rfl rfl hread .all, hall.mpr ?_⟩
  simp only [hreached, List.forall_mem_singleton]
  refine ⟨(evaluates_iff_verdict hfriend).mpr ⟨none, rfl⟩, fun hneg => ?_⟩
  cases (matches_neg_iff hfriend).mp hneg

/-- All friends of a person count as called Rex although the only one does not match. -/
theorem matches_all_unnamed : strangerGraph.reached "p" Archive.friends.step = ["a"] ∧
    ¬ isRex.Matches strangerGraph "a" ∧ (related Archive.friends .all isRex).Matches strangerGraph "p" := by
  have hstored : strangerGraph.Stored "p" := rfl
  have hfriend : strangerGraph.Stored "a" := rfl
  refine ⟨rfl, fun h => ?_, (matches_iff_holds hstored).mpr rfl⟩
  cases (matches_iff_holds hfriend).mp h

end Filter
end GraphQuery
