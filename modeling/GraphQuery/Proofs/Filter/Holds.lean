import GraphQuery.Proofs.Filter.Verdict

/-!
# Filters that hold

A filter holds on a node when it evaluates to true there, and fails when it evaluates to false. What a filter is built
from decides both: the members of a conjunction hold where it holds (`Filter.holds_of_conj`), a disjunction holds where
one of its members does (`Filter.exists_of_disj`), and all of them fail where it fails (`Filter.fails_of_disj`). Where
nothing is known of a connective, something is unknown below it (`Filter.unknown_of_disj`, `Filter.unknown_of_conjoin`).
-/

namespace GraphQuery
namespace Filter

variable [PropertyTable]

/-- Whether a filter evaluates to false on a node. -/
def Fails (graph : Graph) (filter : Filter) (id : String) : Prop := filter.verdict graph id = .ok (some false)

/-- Whether a filter evaluates to neither on a node. -/
def Unknown (graph : Graph) (filter : Filter) (id : String) : Prop := filter.verdict graph id = .ok none

variable {graph : Graph} {id : String}

/-! ## Constants -/

mutual

/-- A constant is the verdict on every node. -/
theorem verdict_of_constant : ∀ {filter : Filter} {k : Bool}, filter.constant? = some k →
    filter.verdict graph id = .ok (some k)
  | .conj members, k, h => by
    rw [constant?] at h
    rw [verdict]
    cases k with
    | false => rw [if_pos h]
    | true =>
      rw [if_neg (by simp [h])]
      exact verdictOfAll_of_constant h
  | .disj members, k, h => by
    rw [constant?] at h
    rw [verdict]
    cases k with
    | true => rw [if_pos h]
    | false =>
      rw [if_neg (by simp [h])]
      exact verdictOfAny_of_constant h
  | .neg filter, k, h => by
    have hinner : constant? filter = some !k := by
      rw [constant?] at h
      rw [← Truth.not_not (constant? filter), h]
      rfl
    rw [verdict, verdict_of_constant hinner]
    simp [Truth.not]
  | .property name test, k, h => by
    rw [constant?] at h
    unfold PropertyTest.constant? at h
    split at h
    · cases h
      rfl
    · cases h
  | .related relationship quantifier filter, k, h => by
    rw [constant?] at h
    cases h

theorem verdictOfAll_of_constant : ∀ {filters : List Filter}, constantOfAll filters = some true →
    verdictOfAll graph filters id = .ok (some true)
  | [], _ => by rw [verdictOfAll]
  | filter :: rest, h => by
    rw [constantOfAll] at h
    obtain ⟨hfirst, hrest⟩ := Truth.and_eq_true.mp h
    rw [verdictOfAll, verdict_of_constant hfirst, verdictOfAll_of_constant hrest, Truth.andThen_true]

theorem verdictOfAny_of_constant : ∀ {filters : List Filter}, constantOfAny filters = some false →
    verdictOfAny graph filters id = .ok (some false)
  | [], _ => by rw [verdictOfAny]
  | filter :: rest, h => by
    rw [constantOfAny] at h
    obtain ⟨hfirst, hrest⟩ := Truth.or_eq_false.mp h
    rw [verdictOfAny, verdict_of_constant hfirst, verdictOfAny_of_constant hrest, Truth.orElse_false]

end

omit [PropertyTable] in
theorem exists_constant : ∀ {filters : List Filter}, constantOfAny filters = some true →
    ∃ filter ∈ filters, filter.constant? = some true
  | [], h => by
    rw [constantOfAny] at h
    cases h
  | filter :: rest, h => by
    rw [constantOfAny] at h
    cases hfirst : filter.constant? with
    | none =>
      cases hrest : constantOfAny rest with
      | none => simp [hfirst, hrest, Truth.or] at h
      | some k =>
        cases k with
        | false => simp [hfirst, hrest, Truth.or] at h
        | true =>
          obtain ⟨other, hmem, hother⟩ := exists_constant hrest
          exact ⟨other, List.mem_cons_of_mem filter hmem, hother⟩
    | some k =>
      cases k with
      | true => exact ⟨filter, List.mem_cons_self, hfirst⟩
      | false =>
        rw [hfirst, Truth.false_or] at h
        obtain ⟨other, hmem, hother⟩ := exists_constant h
        exact ⟨other, List.mem_cons_of_mem filter hmem, hother⟩

/-! ## Members -/

/-- Every node passes the empty conjunction. -/
theorem holds_all : all.Holds graph id := by
  rw [Holds, all, verdict, verdictOfAll]
  simp [constantOfAll]

/-- No node passes the empty disjunction. -/
theorem not_holds_nothing : ¬ nothing.Holds graph id := by
  rw [Holds, nothing, verdict, verdictOfAny]
  simp [constantOfAny]

theorem holds_of_verdictOfAll : ∀ {filters : List Filter}, verdictOfAll graph filters id = .ok (some true) →
    ∀ filter ∈ filters, filter.Holds graph id
  | [], _, filter, hfilter => by cases hfilter
  | first :: rest, h, filter, hfilter => by
    rw [verdictOfAll, Truth.andThen_eq_true] at h
    rcases List.mem_cons.mp hfilter with rfl | hfilter
    · exact h.1
    · exact holds_of_verdictOfAll h.2 filter hfilter

/-- The members of a conjunction hold where it holds. -/
theorem holds_of_conj {members : List Filter} (h : (conj members).Holds graph id) :
    ∀ filter ∈ members, filter.Holds graph id := by
  rw [Holds, verdict] at h
  split at h
  · cases h
  · exact holds_of_verdictOfAll h

theorem holds_of_conjoin {filters : List Filter} (h : (conjoin filters).Holds graph id) :
    ∀ filter ∈ filters, filter.Holds graph id := by
  intro filter hfilter
  have hmembers : ∀ filter ∈ filters.filter fun f => !f.isAll, filter.Holds graph id := by
    unfold conjoin at h
    split at h
    · rename_i only heq
      rw [heq]
      intro filter hmem
      rwa [List.mem_singleton.mp hmem]
    · exact holds_of_conj h
  cases hall : filter.isAll with
  | false => exact hmembers filter (List.mem_filter.mpr ⟨hfilter, by simp [hall]⟩)
  | true =>
    -- members left out are the filter that every node passes
    unfold isAll at hall
    split at hall
    · exact holds_all
    · cases hall

theorem exists_of_verdictOfAny : ∀ {filters : List Filter}, verdictOfAny graph filters id = .ok (some true) →
    ∃ filter ∈ filters, filter.Holds graph id
  | [], h => by
    rw [verdictOfAny] at h
    cases h
  | first :: rest, h => by
    rw [verdictOfAny] at h
    rcases Truth.orElse_eq_true h with h | h
    · exact ⟨first, List.mem_cons_self, h⟩
    · obtain ⟨filter, hmem, hfilter⟩ := exists_of_verdictOfAny h
      exact ⟨filter, List.mem_cons_of_mem first hmem, hfilter⟩

/-- Some member of a disjunction holds where it holds. -/
theorem exists_of_disj {members : List Filter} (h : (disj members).Holds graph id) :
    ∃ filter ∈ members, filter.Holds graph id := by
  rw [Holds, verdict] at h
  split at h
  · rename_i hconstant
    obtain ⟨filter, hmem, hfilter⟩ := exists_constant hconstant
    exact ⟨filter, hmem, verdict_of_constant hfilter⟩
  · exact exists_of_verdictOfAny h

theorem fails_of_verdictOfAny : ∀ {filters : List Filter}, verdictOfAny graph filters id = .ok (some false) →
    ∀ filter ∈ filters, filter.Fails graph id
  | [], _, filter, hfilter => by cases hfilter
  | first :: rest, h, filter, hfilter => by
    rw [verdictOfAny, Truth.orElse_eq_false] at h
    rcases List.mem_cons.mp hfilter with rfl | hfilter
    · exact h.1
    · exact fails_of_verdictOfAny h.2 filter hfilter

/-- The members of a disjunction fail where it fails. -/
theorem fails_of_disj {members : List Filter} (h : (disj members).Fails graph id) :
    ∀ filter ∈ members, filter.Fails graph id := by
  rw [Fails, verdict] at h
  split at h
  · cases h
  · exact fails_of_verdictOfAny h

theorem fails_of_neg {filter : Filter} (h : (neg filter).Holds graph id) : filter.Fails graph id := by
  rw [Holds, verdict] at h
  obtain ⟨truth, htruth, hnot⟩ := Result.map_eq_ok.mp h
  rw [Fails, htruth, ← Truth.not_not truth, hnot]
  rfl

/-- Some node is reached on which the filter holds. -/
theorem exists_of_related {relationship : RelationshipDef} {filter : Filter}
    (h : (related relationship .any filter).Holds graph id) :
    ∃ other ∈ graph.reached id relationship.step, filter.Holds graph other := by
  rw [Holds, verdict] at h
  obtain ⟨truths, htruths, h⟩ := Result.bind_eq_ok.mp h
  have hmem : some true ∈ truths := by
    simpa [Quantifier.holds] using h
  exact Result.member_of_mem_mapM htruths _ hmem

/-! ## What fails or is unknown -/

omit [PropertyTable] in
theorem exists_constant_false : ∀ {filters : List Filter}, constantOfAll filters = some false →
    ∃ filter ∈ filters, filter.constant? = some false
  | [], h => by
    rw [constantOfAll] at h
    cases h
  | filter :: rest, h => by
    rw [constantOfAll] at h
    rcases Truth.and_eq_false.mp h with h | h
    · exact ⟨filter, List.mem_cons_self, h⟩
    · obtain ⟨other, hmem, hother⟩ := exists_constant_false h
      exact ⟨other, List.mem_cons_of_mem filter hmem, hother⟩

theorem exists_of_verdictOfAll : ∀ {filters : List Filter},
    (verdictOfAll graph filters id = .ok (some false) → ∃ filter ∈ filters, filter.Fails graph id) ∧
      (verdictOfAll graph filters id = .ok none → ∃ filter ∈ filters, filter.Unknown graph id)
  | [] => by
    rw [verdictOfAll]
    exact ⟨nofun, nofun⟩
  | first :: rest => by
    obtain ⟨hfails, hunknown⟩ := @exists_of_verdictOfAll rest
    rw [verdictOfAll]
    constructor
    · intro h
      rcases Truth.andThen_eq_false h with h | h
      · exact ⟨first, List.mem_cons_self, h⟩
      · obtain ⟨filter, hmem, hfilter⟩ := hfails h
        exact ⟨filter, List.mem_cons_of_mem first hmem, hfilter⟩
    · intro h
      rcases Truth.andThen_eq_unknown h with h | h
      · exact ⟨first, List.mem_cons_self, h⟩
      · obtain ⟨filter, hmem, hfilter⟩ := hunknown h
        exact ⟨filter, List.mem_cons_of_mem first hmem, hfilter⟩

/-- The verdict of a conjunction of several filters is the verdict of the one that is left or of the conjunction of
those that are left. -/
theorem verdict_conjoin (graph : Graph) (id : String) (filters : List Filter) :
    (∃ filter ∈ filters, (conjoin filters).verdict graph id = filter.verdict graph id) ∨
      ∃ members, members ⊆ filters ∧ (conjoin filters).verdict graph id = (conj members).verdict graph id := by
  unfold conjoin
  split
  · rename_i only heq
    exact .inl ⟨only, List.mem_of_mem_filter (heq ▸ List.mem_singleton_self only), rfl⟩
  · exact .inr ⟨_, List.filter_subset_self _, rfl⟩

/-- Some member fails where a conjunction does. -/
theorem fails_of_conjoin {filters : List Filter} (h : (conjoin filters).Fails graph id) :
    ∃ filter ∈ filters, filter.Fails graph id := by
  rw [Fails] at h
  rcases verdict_conjoin graph id filters with ⟨filter, hmem, heq⟩ | ⟨members, hsub, heq⟩
  · exact ⟨filter, hmem, heq.symm.trans h⟩
  · rw [heq, verdict] at h
    split at h
    · rename_i hconstant
      obtain ⟨filter, hmem, hfilter⟩ := exists_constant_false hconstant
      exact ⟨filter, hsub hmem, verdict_of_constant hfilter⟩
    · obtain ⟨filter, hmem, hfilter⟩ := exists_of_verdictOfAll.1 h
      exact ⟨filter, hsub hmem, hfilter⟩

/-- Some member is unknown where a conjunction is. -/
theorem unknown_of_conjoin {filters : List Filter} (h : (conjoin filters).Unknown graph id) :
    ∃ filter ∈ filters, filter.Unknown graph id := by
  rw [Unknown] at h
  rcases verdict_conjoin graph id filters with ⟨filter, hmem, heq⟩ | ⟨members, hsub, heq⟩
  · exact ⟨filter, hmem, heq.symm.trans h⟩
  · rw [heq, verdict] at h
    split at h
    · cases h
    · obtain ⟨filter, hmem, hfilter⟩ := exists_of_verdictOfAll.2 h
      exact ⟨filter, hsub hmem, hfilter⟩

theorem unknown_of_verdictOfAny : ∀ {filters : List Filter}, verdictOfAny graph filters id = .ok none →
    (∃ filter ∈ filters, filter.Unknown graph id) ∧
      ∀ filter ∈ filters, filter.Unknown graph id ∨ filter.Fails graph id
  | [], h => by
    rw [verdictOfAny] at h
    cases h
  | first :: rest, h => by
    rw [verdictOfAny] at h
    rcases Truth.orElse_eq_unknown h with ⟨hfirst, hrest | hrest⟩ | ⟨hfirst, hrest⟩
    · obtain ⟨-, hmembers⟩ := unknown_of_verdictOfAny hrest
      exact ⟨⟨first, List.mem_cons_self, hfirst⟩, List.forall_mem_cons.mpr ⟨.inl hfirst, hmembers⟩⟩
    · have hmembers := fails_of_verdictOfAny hrest
      exact ⟨⟨first, List.mem_cons_self, hfirst⟩,
        List.forall_mem_cons.mpr ⟨.inl hfirst, fun filter hmem => .inr (hmembers filter hmem)⟩⟩
    · obtain ⟨⟨filter, hmem, hfilter⟩, hmembers⟩ := unknown_of_verdictOfAny hrest
      exact ⟨⟨filter, List.mem_cons_of_mem first hmem, hfilter⟩, List.forall_mem_cons.mpr ⟨.inr hfirst, hmembers⟩⟩

/-- Where a disjunction is unknown some member is, and none holds. -/
theorem unknown_of_disj {members : List Filter} (h : (disj members).Unknown graph id) :
    (∃ filter ∈ members, filter.Unknown graph id) ∧
      ∀ filter ∈ members, filter.Unknown graph id ∨ filter.Fails graph id := by
  rw [Unknown, verdict] at h
  split at h
  · cases h
  · exact unknown_of_verdictOfAny h

theorem holds_of_neg_fails {filter : Filter} (h : (neg filter).Fails graph id) : filter.Holds graph id := by
  rw [Fails, verdict] at h
  obtain ⟨truth, htruth, hnot⟩ := Result.map_eq_ok.mp h
  rw [Holds, htruth, ← Truth.not_not truth, hnot]
  rfl

theorem unknown_of_neg {filter : Filter} (h : (neg filter).Unknown graph id) : filter.Unknown graph id := by
  rw [Unknown, verdict] at h
  obtain ⟨truth, htruth, hnot⟩ := Result.map_eq_ok.mp h
  rw [Unknown, htruth, ← Truth.not_not truth, hnot]
  rfl

/-- Where a predicate on related nodes has a verdict it is known, and true if it is to be. -/
theorem holds_of_related {relationship : RelationshipDef} {filter : Filter} {other : String}
    (hother : other ∈ graph.reached id relationship.step) (hholds : filter.Holds graph other) {truth : Option Bool}
    (h : (related relationship .any filter).verdict graph id = .ok truth) : truth = some true := by
  rw [verdict] at h
  obtain ⟨truths, htruths, h⟩ := Result.bind_eq_ok.mp h
  obtain ⟨answer, hanswer, hmem⟩ := Result.answer_of_mem_mapM htruths other hother
  cases h
  rw [Holds] at hholds
  simp_all [Quantifier.holds]

end Filter
end GraphQuery
