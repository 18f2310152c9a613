import GraphQuery.Proofs.Authorization.Grants
import GraphQuery.Proofs.Graph.Variant
import GraphQuery.Proofs.Schema.Named

/-!
# Nodes that a permission denies

A permission denies a node when the node passes the filter of none of its types (`Access.Denies`). When all rules compare
properties with parameters (`Access.ParametersOnly`), what a denied node stores does not even decide about other nodes:
the filters of the permission mean the same on every other node of two graphs that differ in the denied node only
(`Access.discreet_filter`). They read the denied node where access is passed on by related nodes, but it passes on none.
-/

namespace GraphQuery

/-! ## Filters that do not tell -/

/-- Whether a filter has a truth on every node and means the same on all nodes but one of two graphs. -/
structure Filter.Discreet [PropertyTable] (odd : String) (graph other : Graph) (filter : Filter) : Prop where
  patterns : ∀ pattern ∈ filter.patterns, Automaton.Anchorable pattern
  meaning : ∀ id, id ≠ odd → filter.meaning other id = filter.meaning graph id

namespace Filter

variable [PropertyTable]

section Members

variable {graph : Graph} {id : String}

theorem meanings_eq_map (filters : List Filter) : meanings graph filters id = filters.map (·.meaning graph id) := by
  induction filters with
  | nil => rfl
  | cons filter rest ih => rw [meanings, List.map_cons, ih]

end Members

variable {odd : String} {graph other : Graph} {filter : Filter} {members : List Filter}

theorem Discreet.verdict (h : filter.Discreet odd graph other) (id : String) :
    filter.verdict graph id = .ok (filter.meaning graph id) ∧ filter.verdict other id = .ok (filter.meaning other id) :=
  ⟨verdict_eq_meaning h.patterns, verdict_eq_meaning h.patterns⟩

theorem discreet_conj (h : ∀ filter ∈ members, filter.Discreet odd graph other) :
    (conj members).Discreet odd graph other where
  patterns pattern hpattern := by
    obtain ⟨filter, hmem, hpattern⟩ := mem_patternsOfAll.mp (patterns.eq_1 members ▸ hpattern)
    exact (h filter hmem).patterns pattern hpattern
  meaning id hne := by
    rw [Filter.meaning, Filter.meaning, meanings_eq_map, meanings_eq_map,
      List.map_congr_left fun filter hmem => (h filter hmem).meaning id hne]

theorem discreet_disj (h : ∀ filter ∈ members, filter.Discreet odd graph other) :
    (disj members).Discreet odd graph other where
  patterns pattern hpattern := by
    obtain ⟨filter, hmem, hpattern⟩ := mem_patternsOfAll.mp (patterns.eq_2 members ▸ hpattern)
    exact (h filter hmem).patterns pattern hpattern
  meaning id hne := by
    rw [Filter.meaning, Filter.meaning, meanings_eq_map, meanings_eq_map,
      List.map_congr_left fun filter hmem => (h filter hmem).meaning id hne]

theorem discreet_neg (h : filter.Discreet odd graph other) : (neg filter).Discreet odd graph other where
  patterns pattern hpattern := h.patterns pattern (patterns.eq_3 filter ▸ hpattern)
  meaning id hne := by rw [Filter.meaning, Filter.meaning, h.meaning id hne]

theorem discreet_conjoin (h : ∀ filter ∈ members, filter.Discreet odd graph other) :
    (conjoin members).Discreet odd graph other := by
  unfold conjoin
  split
  · rename_i only heq
    exact h only (List.mem_of_mem_filter (heq ▸ List.mem_singleton_self only))
  · exact discreet_conj fun filter hmem => h filter (List.mem_of_mem_filter hmem)

/-- A test of a property of the node itself. -/
theorem discreet_property (h : Graph.Variant odd graph other) {name : String} {test : PropertyTest}
    (hpatterns : ∀ pattern ∈ test.patterns, Automaton.Anchorable pattern) :
    (property name test).Discreet odd graph other where
  patterns := hpatterns
  meaning id hne := by rw [Filter.meaning, Filter.meaning, h.value_eq hne]

/-- A search among related nodes for one that passes a filter, when the odd node does not pass it. -/
theorem discreet_related (h : Graph.Variant odd graph other) {relationship : RelationshipDef}
    (hfilter : filter.Discreet odd graph other)
    (hodd : graph.hasLabel odd relationship.target = true → ¬ filter.Holds graph odd ∧ ¬ filter.Holds other odd) :
    (related relationship .any filter).Discreet odd graph other where
  patterns pattern hpattern := hfilter.patterns pattern (patterns.eq_5 relationship .any filter ▸ hpattern)
  meaning id hne := by
    rw [Filter.meaning, Filter.meaning, h.reached_eq]
    refine congrArg some (decide_eq_decide.mpr (exists_congr fun reached => and_congr_right fun hreached => ?_))
    by_cases heq : reached = odd
    · subst heq
      obtain ⟨hgraph, hother⟩ := hodd (Graph.mem_neighbours.mp hreached).2
      rw [Holds, (hfilter.verdict reached).1, Except.ok.injEq] at hgraph
      rw [Holds, (hfilter.verdict reached).2, Except.ok.injEq] at hother
      exact iff_of_false hother hgraph
    · rw [hfilter.meaning reached heq]

/-- A filter that reads of related nodes only what the graphs share. -/
theorem discreet_of_reads (h : Graph.Variant odd graph other)
    (hreads : filter.Reads (Graph.Shares odd graph other) fun _ => True)
    (hpatterns : ∀ pattern ∈ filter.patterns, Automaton.Anchorable pattern) : filter.Discreet odd graph other where
  patterns := hpatterns
  meaning _ hne := meaning_eq h hreads fun _ _ => h.value_eq hne

end Filter

/-! ## Rules that compare with parameters -/

namespace Access

/-- Whether every rule that a schema mentions is the comparison of a property with a parameter. -/
def ParametersOnly (access : Access) (schema : Schema) : Prop :=
  ∀ name entity, schema.entity name = .ok entity → ∀ permission authorization,
    entity.authorization? permission = some authorization →
      ∀ rule ∈ authorization.allow ++ authorization.disallow,
        List.lookup rule.name access.rules.rules = some matchesParameter

/-- Whether a permission denies a node: it passes the filter of no type whose label it carries. -/
def Denies [PropertyTable] (access : Access) (schema : Schema) (permission : Permission) (graph : Graph) (id : String) :
    Prop :=
  ∀ label entity filter, graph.hasLabel id label = true → schema.entity label = .ok entity →
    access.filter schema entity permission = .ok filter → ¬ filter.Holds graph id

variable {access : Access} {schema : Schema} {permission : Permission} {entity : EntityType} {filter : Filter}
  {odd : String} {graph other : Graph}

/-- The filter of a comparison with a parameter. -/
theorem matchesParameter_eq_ok {context : RuleContext} (h : matchesParameter context = .ok filter) :
    ∃ name value, filter = .property name (.ofParameter value) := by
  unfold matchesParameter at h
  split at h
  · cases h
  · dsimp only at h
    split at h
    · cases h
    · split at h
      · cases h
      · cases h
        exact ⟨_, _, rfl⟩

theorem patterns_ofParameter (value : Value) : (PropertyTest.ofParameter value).patterns = [] := by
  cases value <;> rfl

theorem discreet_generate [PropertyTable] (h : Graph.Variant odd graph other) {rule : RuleRef}
    (hrule : List.lookup rule.name access.rules.rules = some matchesParameter)
    (hgenerate : access.rules.generate entity permission rule = .ok filter) : filter.Discreet odd graph other := by
  unfold RuleRegistry.generate at hgenerate
  rw [hrule] at hgenerate
  obtain ⟨name, value, rfl⟩ := matchesParameter_eq_ok hgenerate
  refine Filter.discreet_property h fun pattern hpattern => ?_
  rw [patterns_ofParameter] at hpattern
  cases hpattern

/-! ## More visits -/

/-- What allows access does not change when more is known of the related nodes. -/
theorem allowing_of_inherits {rules : RuleRegistry} {authorization : Authorization}
    {inherited inherited' : RelationshipDef → Result Filter}
    (hinherits : ∀ relationship passed, inherited relationship = .ok passed → inherited' relationship = .ok passed)
    (h : allowing rules entity permission authorization inherited = .ok filter) :
    allowing rules entity permission authorization inherited' = .ok filter := by
  unfold allowing at h ⊢
  split at h
  · rename_i hall
    rw [if_pos hall, h]
  · rename_i hall
    rw [if_neg hall]
    obtain ⟨direct, hdirect, h⟩ := Result.bind_eq_ok.mp h
    obtain ⟨related, hrelated, h⟩ := Result.bind_eq_ok.mp h
    refine Result.bind_eq_ok.mpr ⟨direct, hdirect, Result.bind_eq_ok.mpr ⟨related, ?_, h⟩⟩
    refine Result.mapM_eq_ok.mpr ((Result.mapM_eq_ok.mp hrelated).imp fun relationship member hstep => ?_)
    obtain ⟨passed, hpassed, hstep⟩ := Result.bind_eq_ok.mp hstep
    exact Result.bind_eq_ok.mpr ⟨passed, hinherits relationship passed hpassed, hstep⟩

/-- The filter of a permission is the same when more types may be visited. -/
theorem filterWithin_succ : ∀ {visits : Nat} {entity : EntityType} {filter : Filter},
    access.filterWithin schema permission visits entity = .ok filter →
      access.filterWithin schema permission (visits + 1) entity = .ok filter
  | 0, _, _, h => by
    rw [filterWithin] at h
    cases h
  | visits + 1, entity, filter, h => by
    rw [filterWithin] at h ⊢
    cases hdeclared : entity.authorization? permission.name with
    | none => rwa [hdeclared] at h
    | some authorization =>
      rw [hdeclared] at h
      simp only [filterOf_eq] at h ⊢
      obtain ⟨allow, hallow, h⟩ := Result.bind_eq_ok.mp h
      refine Result.bind_eq_ok.mpr ⟨allow, allowing_of_inherits (fun relationship passed hpassed => ?_) hallow, h⟩
      obtain ⟨target, htarget, hpassed⟩ := Result.bind_eq_ok.mp hpassed
      exact Result.bind_eq_ok.mpr ⟨target, htarget, filterWithin_succ hpassed⟩

theorem filter_of_filterWithin {visits : Nat} (hle : visits ≤ access.maxHops + 1)
    (h : access.filterWithin schema permission visits entity = .ok filter) :
    access.filter schema entity permission = .ok filter := by
  have hmore : ∀ more, visits ≤ more → access.filterWithin schema permission more entity = .ok filter := by
    intro more hle
    induction hle with
    | refl => exact h
    | step _ ih => exact filterWithin_succ ih
  exact hmore _ hle

/-! ## Filters of permissions -/

variable [PropertyTable]

section Rules

variable {rules : RuleRegistry} {authorization : Authorization}

/-- What allows access is discreet when the rules are and what is passed on by related nodes is. -/
theorem discreet_allowing {inherited : RelationshipDef → Result Filter}
    (hrules : ∀ rule ∈ authorization.allow, ∀ filter, rules.generate entity permission rule = .ok filter →
      filter.Discreet odd graph other)
    (hinherited : ∀ relationship passed, inherited relationship = .ok passed →
      (Filter.related relationship .any passed).Discreet odd graph other)
    (hallow : allowing rules entity permission authorization inherited = .ok filter) :
    filter.Discreet odd graph other := by
  unfold allowing at hallow
  split at hallow
  · cases hallow
    exact Filter.discreet_conj (List.forall_mem_nil _)
  · obtain ⟨direct, hdirect, hallow⟩ := Result.bind_eq_ok.mp hallow
    obtain ⟨related, hrelated, hallow⟩ := Result.bind_eq_ok.mp hallow
    cases hallow
    refine Filter.discreet_disj fun member hmember => ?_
    rcases List.mem_append.mp hmember with hmember | hmember
    · obtain ⟨rule, hmem, hgenerate⟩ := Result.member_of_mem_mapM hdirect member hmember
      exact hrules rule hmem member hgenerate
    · obtain ⟨relationship, _, hstep⟩ := Result.member_of_mem_mapM hrelated member hmember
      obtain ⟨passed, hpassed, hstep⟩ := Result.bind_eq_ok.mp hstep
      cases hstep
      exact hinherited relationship passed hpassed

theorem discreet_forbidding {allow : Filter} (hallow : allow.Discreet odd graph other)
    (hrules : ∀ rule ∈ authorization.disallow, ∀ filter, rules.generate entity permission rule = .ok filter →
      filter.Discreet odd graph other)
    (hforbid : forbidding rules entity permission authorization allow = .ok filter) :
    filter.Discreet odd graph other := by
  unfold forbidding at hforbid
  split at hforbid
  · cases hforbid
    exact hallow
  · obtain ⟨disallow, hdisallow, hforbid⟩ := Result.bind_eq_ok.mp hforbid
    cases hforbid
    refine Filter.discreet_conjoin (List.forall_mem_cons.mpr ⟨hallow, List.forall_mem_singleton.mpr ?_⟩)
    refine Filter.discreet_neg (Filter.discreet_disj fun member hmember => ?_)
    obtain ⟨rule, hmem, hgenerate⟩ := Result.member_of_mem_mapM hdisallow member hmember
    exact hrules rule hmem member hgenerate

end Rules

section Discreet

variable (h : Graph.Variant odd graph other) (hrules : access.ParametersOnly schema)
  (hdenies : access.Denies schema permission graph odd) (hdenies' : access.Denies schema permission other odd)

include h hrules hdenies hdenies'

theorem discreet_filterWithin {visits : Nat} {name : String} (hle : visits ≤ access.maxHops + 1)
    (hentity : schema.entity name = .ok entity)
    (hfilter : access.filterWithin schema permission visits entity = .ok filter) : filter.Discreet odd graph other := by
  induction visits generalizing name entity filter with
  | zero =>
    rw [filterWithin] at hfilter
    cases hfilter
  | succ visits ih =>
    rw [filterWithin] at hfilter
    cases hdeclared : entity.authorization? permission.name with
    | none =>
      rw [hdeclared] at hfilter
      cases hfilter
      exact Filter.discreet_disj (List.forall_mem_nil _)
    | some authorization =>
      rw [hdeclared] at hfilter
      simp only [filterOf_eq] at hfilter
      obtain ⟨allow, hallow, hforbid⟩ := Result.bind_eq_ok.mp hfilter
      have hrule := hrules name entity hentity permission.name authorization hdeclared
      refine discreet_forbidding (discreet_allowing ?_ ?_ hallow) ?_ hforbid
      · exact fun rule hmem _ => discreet_generate h (hrule rule (List.mem_append_left _ hmem))
      · -- the odd node does not pass what a related node passes on, since it is denied
        intro relationship passed hpassed
        obtain ⟨target, htarget, hpassed⟩ := Result.bind_eq_ok.mp hpassed
        have hwhole := filter_of_filterWithin (by omega) hpassed
        refine Filter.discreet_related h (ih (by omega) htarget hpassed) fun hlabel => ?_
        exact ⟨hdenies _ target passed hlabel htarget hwhole,
          hdenies' _ target passed (h.hasLabel_eq.trans hlabel) htarget hwhole⟩
      · exact fun rule hmem _ => discreet_generate h (hrule rule (List.mem_append_right _ hmem))

/-- The filter of a permission does not tell on other nodes what a denied node stores. -/
theorem discreet_filter {name : String} (hentity : schema.entity name = .ok entity)
    (hfilter : access.filter schema entity permission = .ok filter) : filter.Discreet odd graph other :=
  discreet_filterWithin h hrules hdenies hdenies' (Nat.le_refl _) hentity hfilter

end Discreet

end Access

end GraphQuery
