import GraphQuery.Authorization.Access
import GraphQuery.Proofs.Filter.Holds
import GraphQuery.Proofs.Result

/-!
# What a permission grants

`Access.Grants` says of a node that a permission grants it: the type declares something for the permission, some
allowing rule or some related node allows access, and every forbidding rule is definitely false. It speaks of rules and
nodes only; the filter that is built of a permission holds on no other nodes (`Access.grants_of_holds`).
-/

namespace GraphQuery

/-- A reference to a rule stands for a filter of which something is true. -/
def RuleRegistry.Stands (rules : RuleRegistry) (entity : EntityType) (permission : Permission) (P : Filter → Prop)
    (rule : RuleRef) : Prop :=
  ∃ filter, rules.generate entity permission rule = .ok filter ∧ P filter

namespace Access

variable {access : Access} {schema : Schema} {graph : Graph} {permission : Permission} {entity : EntityType}

/-! ## The filter of a united authorization -/

section United

variable {rules : RuleRegistry} {authorization : Authorization} {inherited : RelationshipDef → Result Filter}
  {filter : Filter} {id : String}

/-- What allows access. -/
def allowing (rules : RuleRegistry) (entity : EntityType) (permission : Permission) (authorization : Authorization)
    (inherited : RelationshipDef → Result Filter) : Result Filter :=
  if authorization.allowAll then .ok .all
  else do
    let direct ← authorization.allow.mapM (rules.generate entity permission)
    let related ← authorization.allowFromRelated.mapM fun r => return Filter.related r .any (← inherited r)
    return .disj (direct ++ related)

/-- What allows access, with what forbids it. -/
def forbidding (rules : RuleRegistry) (entity : EntityType) (permission : Permission) (authorization : Authorization)
    (allow : Filter) : Result Filter :=
  if authorization.disallow.isEmpty then .ok allow
  else do
    let disallow ← authorization.disallow.mapM (rules.generate entity permission)
    return .conjoin [allow, .neg (.disj disallow)]

theorem filterOf_eq : filterOf rules entity permission authorization inherited =
    allowing rules entity permission authorization inherited >>= forbidding rules entity permission authorization := by
  unfold filterOf allowing forbidding
  cases authorization.allowAll <;> simp

variable [PropertyTable]

/-- Whether something allows access to a node, given when a related node passes its access on. -/
def Allows (rules : RuleRegistry) (graph : Graph) (entity : EntityType) (permission : Permission)
    (authorization : Authorization) (passes : RelationshipDef → (id : String) → Prop) (id : String) : Prop :=
  authorization.allowAll = true ∨
    (∃ rule ∈ authorization.allow, rules.Stands entity permission (·.Holds graph id) rule) ∨
    ∃ relationship ∈ authorization.allowFromRelated, ∃ other ∈ graph.reached id relationship.step,
      passes relationship other

theorem allows_of_allowing (h : allowing rules entity permission authorization inherited = .ok filter)
    (hholds : filter.Holds graph id) : Allows rules graph entity permission authorization
      (fun relationship other => ∃ passed, inherited relationship = .ok passed ∧ passed.Holds graph other) id := by
  unfold allowing at h
  split at h
  · exact .inl ‹_›
  · obtain ⟨direct, hdirect, h⟩ := Result.bind_eq_ok.mp h
    obtain ⟨passing, hpassing, h⟩ := Result.bind_eq_ok.mp h
    cases h
    obtain ⟨member, hmember, hmemberHolds⟩ := Filter.exists_of_disj hholds
    rcases List.mem_append.mp hmember with hmember | hmember
    · obtain ⟨rule, hrule, hgenerate⟩ := Result.member_of_mem_mapM hdirect member hmember
      exact .inr (.inl ⟨rule, hrule, member, hgenerate, hmemberHolds⟩)
    · obtain ⟨relationship, hrelationship, hstep⟩ := Result.member_of_mem_mapM hpassing member hmember
      obtain ⟨passed, hpassed, hstep⟩ := Result.bind_eq_ok.mp hstep
      cases hstep
      obtain ⟨other, hother, hpasses⟩ := Filter.exists_of_related hmemberHolds
      exact .inr (.inr ⟨relationship, hrelationship, other, hother, passed, hpassed, hpasses⟩)

theorem fails_of_forbidding {allow : Filter} (h : forbidding rules entity permission authorization allow = .ok filter)
    (hholds : filter.Holds graph id) : allow.Holds graph id ∧
      ∀ rule ∈ authorization.disallow, rules.Stands entity permission (·.Fails graph id) rule := by
  unfold forbidding at h
  split at h
  · rename_i hempty
    cases h
    rw [List.isEmpty_iff.mp hempty]
    exact ⟨hholds, nofun⟩
  · obtain ⟨disallow, hdisallow, h⟩ := Result.bind_eq_ok.mp h
    cases h
    have hmembers := Filter.holds_of_conjoin hholds
    have hfails := Filter.fails_of_disj (Filter.fails_of_neg (hmembers (.neg (.disj disallow)) (by simp)))
    refine ⟨hmembers allow (by simp), fun rule hrule => ?_⟩
    obtain ⟨member, hmember, hgenerate⟩ := Result.answer_of_mem_mapM hdisallow rule hrule
    exact ⟨member, hgenerate, hfails member hmember⟩

end United

/-! ## Grants -/

variable [PropertyTable]

/-- Whether a permission grants a node of a type, when the check may visit at most so many types: something allows access
to it, and every forbidding rule is false of it. -/
def Grants (access : Access) (schema : Schema) (graph : Graph) (permission : Permission) :
    (visits : Nat) → EntityType → (id : String) → Prop
  | 0, _, _ => False
  | visits + 1, entity, id => ∃ authorization, entity.authorization? permission.name = some authorization ∧
      Allows access.rules graph entity permission authorization (fun relationship other =>
        ∃ target, schema.entity relationship.target = .ok target ∧
          Grants access schema graph permission visits target other) id ∧
      ∀ rule ∈ authorization.disallow, access.rules.Stands entity permission (·.Fails graph id) rule

/-- A type that declares nothing for a permission has no granted nodes. -/
theorem not_grants {visits : Nat} {id : String} (h : entity.authorization? permission.name = none) :
    ¬ access.Grants schema graph permission visits entity id := by
  intro hgrants
  cases visits with
  | zero => exact hgrants
  | succ visits =>
    obtain ⟨authorization, hsome, _⟩ := hgrants
    rw [h] at hsome
    cases hsome

/-- The filter of a permission holds on granted nodes only. -/
theorem grants_of_holds : ∀ {visits : Nat} {entity : EntityType} {filter : Filter} {id : String},
    access.filterWithin schema permission visits entity = .ok filter → filter.Holds graph id →
      access.Grants schema graph permission visits entity id
  | 0, _, _, _, h, _ => by
    rw [filterWithin] at h
    cases h
  | visits + 1, entity, filter, id, h, hholds => by
    rw [filterWithin] at h
    cases hdeclared : entity.authorization? permission.name with
    | none =>
      rw [hdeclared] at h
      cases h
      exact absurd hholds Filter.not_holds_nothing
    | some authorization =>
      rw [hdeclared] at h
      simp only [filterOf_eq] at h
      obtain ⟨allow, hallow, hforbidding⟩ := Result.bind_eq_ok.mp h
      obtain ⟨hallowHolds, hforbids⟩ := fails_of_forbidding hforbidding hholds
      refine ⟨authorization, hdeclared, ?_, hforbids⟩
      rcases allows_of_allowing hallow hallowHolds with hall | hdirect | hrelated
      · exact .inl hall
      · exact .inr (.inl hdirect)
      · obtain ⟨relationship, hrelationship, other, hother, passed, hpassed, hpasses⟩ := hrelated
        obtain ⟨target, htarget, hpassed⟩ := Result.bind_eq_ok.mp hpassed
        exact .inr (.inr ⟨relationship, hrelationship, other, hother, target, htarget, grants_of_holds hpassed hpasses⟩)

end Access
end GraphQuery
