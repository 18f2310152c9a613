import GraphQuery.Pattern.KnownProperty
import GraphQuery.Proofs.Authorization.Grants
import GraphQuery.Proofs.Filter.Meaning

/-!
# Which allowed nodes a permission shows

A node that something allows and that no forbidding rule is true of should pass the filter of its permission. It does
when every forbidding rule is definitely false of it (`Access.verdict_of_allows`). A rule of which nothing is known on
the node, such as a comparison with a property that it does not have, is enough to keep it away, as if the rule were
true: the negation of what is unknown is unknown, and an unknown filter does not hold.
-/

namespace GraphQuery
namespace Access

variable {access : Access} {schema : Schema} {graph : Graph} {permission : Permission} {entity : EntityType}
  {authorization : Authorization} {filter : Filter} {id : String}

section

variable [PropertyTable]

/-- What allows access holds on the nodes that something allows, if it has a verdict there. -/
theorem holds_of_allows {rules : RuleRegistry} {inherited : RelationshipDef → Result Filter}
    (h : allowing rules entity permission authorization inherited = .ok filter)
    (hallows : Allows rules graph entity permission authorization
      (fun relationship other => ∃ passed, inherited relationship = .ok passed ∧ passed.Holds graph other) id)
    {truth : Option Bool} (hverdict : filter.verdict graph id = .ok truth) : filter.Holds graph id := by
  unfold allowing at h
  split at h
  · cases h
    exact Filter.holds_all
  · rename_i hall
    obtain ⟨direct, hdirect, h⟩ := Result.bind_eq_ok.mp h
    obtain ⟨related, hrelated, h⟩ := Result.bind_eq_ok.mp h
    cases h
    -- the alternative that allows the node is true wherever it has a verdict
    obtain ⟨member, hmember, hmemberHolds⟩ : ∃ member ∈ direct ++ related,
        ∀ truth, member.verdict graph id = .ok truth → truth = some true := by
      rcases hallows with hallowAll | ⟨rule, hrule, member, hgenerate, hholds⟩ | hpasses
      · exact absurd hallowAll hall
      · obtain ⟨answer, hanswer, hgenerated⟩ := Result.answer_of_mem_mapM hdirect rule hrule
        rw [hgenerate] at hgenerated
        cases hgenerated
        refine ⟨member, List.mem_append_left related hanswer, fun truth htruth => ?_⟩
        rw [hholds] at htruth
        cases htruth
        rfl
      · obtain ⟨relationship, hrelationship, other, hother, passed, hpassed, hholds⟩ := hpasses
        obtain ⟨member, hmember, hstep⟩ := Result.answer_of_mem_mapM hrelated relationship hrelationship
        rw [hpassed] at hstep
        cases hstep
        exact ⟨_, List.mem_append_right direct hmember, fun truth htruth =>
          Filter.holds_of_related hother hholds htruth⟩
    rcases truth with _ | _ | _
    · rcases (Filter.unknown_of_disj hverdict).2 member hmember with h | h
      · cases hmemberHolds _ h
      · cases hmemberHolds _ h
    · cases hmemberHolds _ (Filter.fails_of_disj hverdict member hmember)
    · exact hverdict

/-- Where access is allowed, whatever else the filter says comes from a forbidding rule. -/
theorem exists_of_forbidding {rules : RuleRegistry} {allow : Filter}
    (h : forbidding rules entity permission authorization allow = .ok filter)
    (hallow : ∀ truth, allow.verdict graph id = .ok truth → truth = some true) :
    (filter.Fails graph id → ∃ rule ∈ authorization.disallow, rules.Stands entity permission (·.Holds graph id) rule) ∧
      (filter.Unknown graph id →
        ∃ rule ∈ authorization.disallow, rules.Stands entity permission (·.Unknown graph id) rule) := by
  unfold forbidding at h
  split at h
  · cases h
    exact ⟨fun hfails => (nomatch hallow _ hfails), fun hunknown => (nomatch hallow _ hunknown)⟩
  · obtain ⟨disallow, hdisallow, h⟩ := Result.bind_eq_ok.mp h
    cases h
    constructor
    · intro hfails
      obtain ⟨member, hmember, hmemberFails⟩ := Filter.fails_of_conjoin hfails
      rcases List.mem_pair.mp hmember with rfl | rfl
      · cases hallow _ hmemberFails
      · obtain ⟨forbids, hforbids, hholds⟩ := Filter.exists_of_disj (Filter.holds_of_neg_fails hmemberFails)
        obtain ⟨rule, hrule, hgenerate⟩ := Result.member_of_mem_mapM hdisallow forbids hforbids
        exact ⟨rule, hrule, forbids, hgenerate, hholds⟩
    · intro hunknown
      obtain ⟨member, hmember, hmemberUnknown⟩ := Filter.unknown_of_conjoin hunknown
      rcases List.mem_pair.mp hmember with rfl | rfl
      · cases hallow _ hmemberUnknown
      · obtain ⟨⟨forbids, hforbids, hunknown⟩, -⟩ := Filter.unknown_of_disj (Filter.unknown_of_neg hmemberUnknown)
        obtain ⟨rule, hrule, hgenerate⟩ := Result.member_of_mem_mapM hdisallow forbids hforbids
        exact ⟨rule, hrule, forbids, hgenerate, hunknown⟩

/-- What the filter of a permission says of a node that something allows and that no forbidding rule is true of: it holds
where every forbidding rule is false, is unknown where one of them is, and has no verdict only if one of its patterns
cannot be compiled. -/
theorem verdict_of_allows (hfilter : access.filter schema entity permission = .ok filter)
    (hdeclared : entity.authorization? permission.name = some authorization)
    (hallows : Allows access.rules graph entity permission authorization (fun relationship other =>
      ∃ target passed, schema.entity relationship.target = .ok target ∧
        access.filterWithin schema permission access.maxHops target = .ok passed ∧ passed.Holds graph other) id)
    (hforbids : ∀ rule ∈ authorization.disallow,
      ¬ access.rules.Stands entity permission (·.Holds graph id) rule) :
    (filter.Holds graph id ∧
        ∀ rule ∈ authorization.disallow, access.rules.Stands entity permission (·.Fails graph id) rule) ∨
      (filter.Unknown graph id ∧
        ∃ rule ∈ authorization.disallow, access.rules.Stands entity permission (·.Unknown graph id) rule) ∨
      ((∃ e, filter.verdict graph id = .error e) ∧ ∃ pattern ∈ filter.patterns, ¬ Automaton.Anchorable pattern) := by
  rw [Access.filter, filterWithin, hdeclared] at hfilter
  simp only [filterOf_eq] at hfilter
  obtain ⟨allow, hallow, hforbidding⟩ := Result.bind_eq_ok.mp hfilter
  have hallowed : ∀ truth, allow.verdict graph id = .ok truth → truth = some true := by
    intro truth htruth
    refine Except.ok.inj (htruth.symm.trans (holds_of_allows hallow (hallows.imp_right (.imp_right ?_)) htruth))
    rintro ⟨relationship, hrelationship, other, hother, target, passed, htarget, hpassed, hholds⟩
    exact ⟨relationship, hrelationship, other, hother, passed, Result.bind_eq_ok.mpr ⟨target, htarget, hpassed⟩, hholds⟩
  cases hverdict : filter.verdict graph id with
  | error e =>
    refine .inr (.inr ⟨⟨e, rfl⟩, ?_⟩)
    by_contra hnone
    have hanchorable : ∀ pattern ∈ filter.patterns, Automaton.Anchorable pattern :=
      fun pattern hpattern => by_contra fun h => hnone ⟨pattern, hpattern, h⟩
    rw [Filter.verdict_eq_meaning hanchorable] at hverdict
    cases hverdict
  | ok truth =>
    rcases truth with _ | _ | _
    · exact .inr (.inl ⟨hverdict, (exists_of_forbidding hforbidding hallowed).2 hverdict⟩)
    · obtain ⟨rule, hrule, hholds⟩ := (exists_of_forbidding hforbidding hallowed).1 hverdict
      exact absurd hholds (hforbids rule hrule)
    · exact .inl ⟨hverdict, (fails_of_forbidding hforbidding hverdict).2⟩

end

/-- Documents are readable by everyone, save those of a hidden kind. -/
def documentType : EntityType :=
  ⟨"Doc", false, [⟨"id", .id, false⟩, ⟨"kind", .string, true⟩], [], [],
    [("read", ⟨[], [], [⟨"matchesParameter", [("property", "kind"), ("parameter", "hidden")]⟩], true⟩)]⟩

/-- A reader from whom one kind is hidden. -/
def reader : Permission := ⟨"read", [("hidden", .string "secret")]⟩

/-- A document without a kind. -/
def unkindGraph : Graph := Graph.empty.addNode "d" ["Doc"] []

/-- The document is kept away by the rule that hides a kind, of which nothing is known on it. -/
theorem verdict_of_allows_reader : ∃ filter rule,
    (⟨.builtin, defaultMaxHops⟩ : Access).filter ⟨[("Doc", documentType)]⟩ documentType reader = .ok filter ∧
      filter.Unknown unkindGraph "d" ∧
      RuleRegistry.builtin.Stands documentType reader (·.Unknown unkindGraph "d") rule := by
  obtain ⟨filter, hfilter, hverdict⟩ : ∃ filter,
      (⟨.builtin, defaultMaxHops⟩ : Access).filter ⟨[("Doc", documentType)]⟩ documentType reader = .ok filter ∧
        filter.verdict unkindGraph "d" = .ok none := ⟨_, rfl, rfl⟩
  have hforbids : ∀ rule ∈ [(⟨"matchesParameter", [("property", "kind"), ("parameter", "hidden")]⟩ : RuleRef)],
      ¬ RuleRegistry.builtin.Stands documentType reader (·.Holds unkindGraph "d") rule := by
    rintro rule hrule ⟨hidden, hgenerate, hholds⟩
    rw [List.mem_singleton.mp hrule] at hgenerate
    cases hgenerate
    cases hholds
  rcases verdict_of_allows hfilter rfl (.inl rfl) hforbids with
    ⟨hholds, -⟩ | ⟨-, rule, -, hrule⟩ | ⟨⟨e, herror⟩, -⟩
  · cases hverdict.symm.trans hholds
  · exact ⟨filter, rule, hfilter, hverdict, hrule⟩
  · cases hverdict.symm.trans herror

end Access
end GraphQuery
