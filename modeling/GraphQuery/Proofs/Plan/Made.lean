import GraphQuery.Plan.Build
import GraphQuery.Proofs.Plan.Arguments
import GraphQuery.Proofs.Plan.Branches
import GraphQuery.Proofs.Table

/-!
# The levels that planning makes

Every level of a plan has the requested filter joined with that of the permission as its condition, a limit that leaves
room for one row beyond the page, and not both limits of a page (`Planner.Made`). Below it stand levels for the targets
of relationships, made in the same way; `Planner.makes` is this for all levels of a plan, by induction on the room that
is left for nesting.

`Planner.Plans` are the plans of requests.
-/

namespace GraphQuery

/-- Not both limits are set. -/
def Options.Exclusive (options : Options) : Prop := options.first = none ∨ options.last = none

theorem Options.exclusive_of_build {filter : Filter} {order : Order} {after before : Option String}
    {first last : Option Int} {countsTotal : Bool} {options : Options}
    (h : Options.build filter order after before first last countsTotal = .ok options) : options.Exclusive := by
  obtain ⟨hboth, front, back, hfront, hback, rfl⟩ := Options.build_eq_ok.mp h
  cases first with
  | none =>
    cases hfront
    exact .inl rfl
  | some n =>
    cases last with
    | none =>
      cases hback
      exact .inr rfl
    | some m => cases hboth

theorem Field.exclusive_of_options [PropertyTable] {field : Field} {schema : Schema} {entity : EntityType}
    {countsTotal : Bool} {options : Options} (h : field.options schema entity countsTotal = .ok options) :
    options.Exclusive := by
  obtain ⟨_, _, _, _, _, _, _, _, _, _, _, _, hbuild⟩ := Field.options_eq_ok.mp h
  exact Options.exclusive_of_build hbuild

namespace Planner

variable {planner : Planner}

theorem exclusive_of_relationshipOptions [PropertyTable] {relationship : RelationshipDef} {target : EntityType}
    {field : Field} {others : List Field} {options : Options}
    (h : planner.relationshipOptions relationship target field others = .ok options) : options.Exclusive := by
  unfold relationshipOptions at h
  split at h
  · cases h
  · split at h
    · exact Field.exclusive_of_options h
    · cases h
      exact .inr rfl

/-! ## Levels -/

/-- What planning a level for a type ensures about the level itself. -/
structure Heads (planner : Planner) (entity : EntityType) (level : Level) : Prop where
  entityType : level.entityType = entity.name
  /-- The condition is the requested filter together with that of the permission. -/
  condition : ∃ authorization, planner.authorization entity = .ok authorization ∧
    level.condition = .conjoin [level.options.filter, authorization]
  limit : level.limit = level.options.rowLimit level.cardinality
  exclusive : level.options.Exclusive
  sorted : Table.Sorted level.parts

/-- The levels that planning makes for a type. -/
inductive Makes (planner : Planner) : EntityType → Level → Prop
  | mk {entity : EntityType} {level : Level} : planner.Heads entity level →
      (∀ branch ∈ level.branches, branch.sub.query.cardinality = branch.sub.relationship.cardinality) →
      (∀ branch ∈ level.branches, ∃ target, planner.schema.entity branch.sub.relationship.target = .ok target) →
      (∀ branch ∈ level.branches, ∀ target, planner.schema.entity branch.sub.relationship.target = .ok target →
        Makes planner target branch.sub.query) →
      Makes planner entity level

theorem Makes.heads {entity : EntityType} {level : Level} (h : planner.Makes entity level) :
    planner.Heads entity level := by
  cases h with
  | mk hheads => exact hheads

/-- A sub-query that is planned under a result key for one of several groups of fields. -/
def SubFor (nested : FieldGroup → Result Level) (groups : List FieldGroup) (resultKey : String)
    (sub : SubQuery Level) : Prop :=
  ∃ group ∈ groups, group.resultKey = resultKey ∧ nested group = .ok sub.query ∧
    sub.relationship = group.relationship ∧ sub.onlyOnTypes = group.onlyOnTypes

/-- What adding sub-queries to parts keeps. -/
structure PartsFor (nested : FieldGroup → Result Level) (groups : List FieldGroup)
    (parts : List (String × List (SubQuery Level))) : Prop where
  sorted : Table.Sorted parts
  nonempty : ∀ key subs, (key, subs) ∈ parts → subs ≠ []
  subs : ∀ key subs, (key, subs) ∈ parts → ∀ sub ∈ subs, SubFor nested groups key sub

theorem PartsFor.addToPart {nested : FieldGroup → Result Level} {groups : List FieldGroup}
    {parts : List (String × List (SubQuery Level))} (h : PartsFor nested groups parts) {resultKey : String}
    {sub : SubQuery Level} (hsub : SubFor nested groups resultKey sub) :
    PartsFor nested groups (addToPart parts resultKey sub) where
  sorted := Table.sorted_insert h.sorted _ _
  nonempty key subs hmem := by
    have hlookup := (Table.lookup_eq_some_iff (Table.sorted_insert h.sorted _ _)).mpr hmem
    rw [Table.lookup_insert] at hlookup
    split at hlookup
    · cases hlookup
      exact List.append_ne_nil_of_right_ne_nil _ (List.cons_ne_nil _ _)
    · exact h.nonempty _ _ (Table.mem_of_lookup hlookup)
  subs key subs hmem other hother := by
    have hlookup := (Table.lookup_eq_some_iff (Table.sorted_insert h.sorted _ _)).mpr hmem
    rw [Table.lookup_insert] at hlookup
    split at hlookup
    · rename_i hkey
      cases hlookup
      subst hkey
      rcases List.mem_append.mp hother with hother | hother
      · cases hpart : List.lookup key parts with
        | none =>
          rw [hpart] at hother
          cases hother
        | some earlier =>
          rw [hpart] at hother
          exact h.subs _ _ (Table.mem_of_lookup hpart) other hother
      · exact List.mem_singleton.mp hother ▸ hsub
    · exact h.subs _ _ (Table.mem_of_lookup hlookup) other hother

theorem mem_branchesOfSubs {branch : Branch} {resultKey : String} : ∀ {subs : List (SubQuery Level)} {i : Nat},
    branch ∈ Level.branchesOfSubs resultKey subs i → branch.resultKey = resultKey ∧ branch.sub ∈ subs
  | [], _, h => by cases h
  | sub :: rest, i, h => by
    rcases List.mem_cons.mp h with rfl | h
    · exact ⟨rfl, List.mem_cons_self⟩
    · obtain ⟨hkey, hmem⟩ := mem_branchesOfSubs h
      exact ⟨hkey, List.mem_cons_of_mem sub hmem⟩

theorem mem_branchesOfParts {branch : Branch} : ∀ {parts : List (String × List (SubQuery Level))},
    branch ∈ Level.branchesOfParts parts → ∃ subs, (branch.resultKey, subs) ∈ parts ∧ branch.sub ∈ subs
  | [], h => by cases h
  | (key, subs) :: rest, h => by
    rcases List.mem_append.mp h with h | h
    · obtain ⟨hkey, hmem⟩ := mem_branchesOfSubs h
      exact ⟨subs, hkey ▸ List.mem_cons_self, hmem⟩
    · obtain ⟨subs, hpart, hmem⟩ := mem_branchesOfParts h
      exact ⟨subs, List.mem_cons_of_mem _ hpart, hmem⟩

section Over

variable {nested : FieldGroup → Result Level} {entity : EntityType} {selection : List Field} {options : Options}
  {cardinality : Cardinality} {level : Level}

/-- What planning one level does. -/
theorem levelOver_eq_ok : planner.levelOver nested entity selection options cardinality = .ok level ↔
    ∃ authorization groups parts, planner.budget.checkPage entity options = .ok () ∧
      planner.authorization entity = .ok authorization ∧ planner.groups entity selection = .ok groups ∧
      groups.foldlM (fun parts group => do
        return addToPart parts group.resultKey ⟨group.relationship, ← nested group, group.onlyOnTypes⟩) [] = .ok parts ∧
      level = ⟨entity.name, options, .conjoin [options.filter, authorization], options.rowLimit cardinality, cardinality,
        parts⟩ := by
  constructor
  · intro h
    obtain ⟨_, hpage, h⟩ := Result.bind_eq_ok.mp h
    obtain ⟨authorization, hauthorization, h⟩ := Result.bind_eq_ok.mp h
    obtain ⟨groups, hgroups, h⟩ := Result.bind_eq_ok.mp h
    obtain ⟨parts, hparts, h⟩ := Result.bind_eq_ok.mp h
    cases h
    exact ⟨authorization, groups, parts, hpage, hauthorization, hgroups, hparts, rfl⟩
  · rintro ⟨authorization, groups, parts, hpage, hauthorization, hgroups, hparts, rfl⟩
    exact Result.bind_eq_ok.mpr ⟨_, hpage, Result.bind_eq_ok.mpr ⟨_, hauthorization, Result.bind_eq_ok.mpr
      ⟨_, hgroups, Result.bind_eq_ok.mpr ⟨_, hparts, rfl⟩⟩⟩⟩

/-- A level is planned over the plans of the levels below it, whatever room is left for them. -/
theorem levelOver_of_level [PropertyTable] {room : Nat} (h : planner.level room entity selection options cardinality =
    .ok level) : ∃ nested, planner.levelOver nested entity selection options cardinality = .ok level := by
  cases room with
  | zero => exact ⟨_, h⟩
  | succ room => exact ⟨_, h⟩

/-- The sub-queries of a level are planned for the groups of its fields. -/
theorem subs_of_levelOver (h : planner.levelOver nested entity selection options cardinality = .ok level) :
    Table.Sorted level.parts ∧ (∀ key subs, (key, subs) ∈ level.parts → subs ≠ []) ∧
      ∃ groups, planner.groups entity selection = .ok groups ∧
        ∀ branch ∈ level.branches, SubFor nested groups branch.resultKey branch.sub := by
  obtain ⟨_, groups, parts, _, _, hgroups, hparts, rfl⟩ := levelOver_eq_ok.mp h
  have hnil : PartsFor nested groups [] := ⟨.nil, nofun, nofun⟩
  have hfor : PartsFor nested groups parts := by
    refine Result.foldlM_induct hparts hnil fun parts group parts' hgroup hfor hstep => ?_
    obtain ⟨query, hquery, hstep⟩ := Result.bind_eq_ok.mp hstep
    cases hstep
    exact hfor.addToPart ⟨group, hgroup, rfl, hquery, rfl, rfl⟩
  refine ⟨hfor.sorted, hfor.nonempty, groups, hgroups, fun branch hbranch => ?_⟩
  obtain ⟨subs, hpart, hmem⟩ := mem_branchesOfParts hbranch
  exact hfor.subs _ _ hpart _ hmem

/-- A level has the type, the options and the cardinality that it is planned for. -/
theorem head_of_level [PropertyTable] {room : Nat} (h : planner.level room entity selection options cardinality = .ok
    level) : level.entityType = entity.name ∧ level.options = options ∧ level.cardinality = cardinality := by
  obtain ⟨nested, hover⟩ := levelOver_of_level h
  obtain ⟨_, _, _, _, _, _, _, rfl⟩ := levelOver_eq_ok.mp hover
  exact ⟨rfl, rfl, rfl⟩

/-- What planning one level ensures. -/
theorem heads_of_levelOver (hexclusive : options.Exclusive)
    (h : planner.levelOver nested entity selection options cardinality = .ok level) :
    planner.Heads entity level ∧ level.cardinality = cardinality ∧ level.options = options ∧
      ∃ groups, ∀ branch ∈ level.branches, SubFor nested groups branch.resultKey branch.sub := by
  obtain ⟨hsorted, _, groups, _, hsubs⟩ := subs_of_levelOver h
  obtain ⟨authorization, _, _, _, hauthorization, _, _, rfl⟩ := levelOver_eq_ok.mp h
  exact ⟨⟨rfl, ⟨authorization, hauthorization, rfl⟩, rfl, hexclusive, hsorted⟩, rfl, rfl, groups, hsubs⟩

end Over

variable [PropertyTable]

/-- Planning makes its levels, whatever room is left below them. -/
theorem makes : ∀ {room : Nat} {entity : EntityType} {selection : List Field} {options : Options}
    {cardinality : Cardinality} {level : Level}, options.Exclusive →
      planner.level room entity selection options cardinality = .ok level →
        planner.Makes entity level ∧ level.cardinality = cardinality ∧ level.options = options
  | 0, _, _, _, _, level, hexclusive, h => by
    obtain ⟨hheads, hcardinality, hoptions, _, hsubs⟩ := heads_of_levelOver hexclusive h
    have hnone : ∀ branch ∈ level.branches, False := fun branch hbranch => by
      obtain ⟨_, _, _, hnested, _⟩ := hsubs branch hbranch
      cases hnested
    exact ⟨.mk hheads (fun b hb => (hnone b hb).elim) (fun b hb => (hnone b hb).elim)
      (fun b hb => (hnone b hb).elim), hcardinality, hoptions⟩
  | room + 1, _, _, _, _, level, hexclusive, h => by
    obtain ⟨hheads, hcardinality, hoptions, _, hsubs⟩ := heads_of_levelOver hexclusive h
    have hnested : ∀ branch ∈ level.branches, ∃ target,
        planner.schema.entity branch.sub.relationship.target = .ok target ∧ planner.Makes target branch.sub.query ∧
          branch.sub.query.cardinality = branch.sub.relationship.cardinality := by
      intro branch hbranch
      obtain ⟨group, _, _, hnested, hrelationship, _⟩ := hsubs branch hbranch
      obtain ⟨target, htarget, hnested⟩ := Result.bind_eq_ok.mp hnested
      obtain ⟨options, hoptions, hnested⟩ := Result.bind_eq_ok.mp hnested
      obtain ⟨hmakes, hc, _⟩ := makes (exclusive_of_relationshipOptions hoptions) hnested
      rw [hrelationship]
      exact ⟨target, htarget, hmakes, hc⟩
    refine ⟨.mk hheads (fun b hb => ?_) (fun b hb => ?_) (fun b hb target htarget => ?_), hcardinality, hoptions⟩
    · obtain ⟨_, _, _, hc⟩ := hnested b hb
      exact hc
    · obtain ⟨target, htarget, _⟩ := hnested b hb
      exact ⟨target, htarget⟩
    · obtain ⟨other, hother, hmakes, _⟩ := hnested b hb
      rw [htarget] at hother
      cases hother
      exact hmakes

/-! ## Plans of requests -/

section Requests

variable {entityType parentType : String} {parentId : Value} {selection : List Field} {field : Field} {options : Options}
  {plan : Plan}

/-- What the plan of a query is made of. -/
theorem query_eq_ok (h : planner.query entityType selection options = .ok plan) :
    ∃ entity root, planner.schema.entity entityType = .ok entity ∧
      planner.level planner.budget.maxDepth entity selection options .many = .ok root ∧ plan = ⟨root, none⟩ := by
  obtain ⟨entity, hentity, h⟩ := Result.bind_eq_ok.mp h
  obtain ⟨root, hroot, h⟩ := Result.bind_eq_ok.mp h
  cases h
  exact ⟨entity, root, hentity, hroot, rfl⟩

/-- What the plan of a connection is made of. -/
theorem connection_eq_ok (h : planner.connection entityType field = .ok plan) :
    ∃ entity options root, planner.schema.entity entityType = .ok entity ∧
      field.options planner.schema entity field.wantsTotal = .ok options ∧
      planner.level planner.budget.maxDepth entity (Field.nodeSelection [field] .many) options .many = .ok root ∧
      plan = ⟨root, none⟩ := by
  obtain ⟨entity, hentity, h⟩ := Result.bind_eq_ok.mp h
  obtain ⟨options, hoptions, h⟩ := Result.bind_eq_ok.mp h
  obtain ⟨root, hroot, h⟩ := Result.bind_eq_ok.mp h
  cases h
  exact ⟨entity, options, root, hentity, hoptions, hroot, rfl⟩

/-- What the plan of a load is made of. -/
theorem relationship_eq_ok (h : planner.relationship parentType parentId field = .ok plan) :
    ∃ parent relationship target options root,
      planner.schema.entity parentType = .ok parent ∧ parent.relationship? field.name = some relationship ∧
      planner.schema.entity relationship.target = .ok target ∧
      planner.relationshipOptions relationship target field [] = .ok options ∧
      planner.level planner.budget.maxDepth target (Field.nodeSelection [field] relationship.cardinality) options
        relationship.cardinality = .ok root ∧
      plan = ⟨root, some ⟨parent.name, parentId, relationship⟩⟩ := by
  obtain ⟨parent, hparent, h⟩ := Result.bind_eq_ok.mp h
  split at h
  · cases h
  · rename_i relationship hrelationship
    obtain ⟨target, htarget, h⟩ := Result.bind_eq_ok.mp h
    obtain ⟨options, hoptions, h⟩ := Result.bind_eq_ok.mp h
    obtain ⟨root, hroot, h⟩ := Result.bind_eq_ok.mp h
    cases h
    exact ⟨parent, relationship, target, options, root, hparent, hrelationship, htarget, hoptions, hroot, rfl⟩

theorem anchor_of_query (h : planner.query entityType selection options = .ok plan) : plan.anchor = none := by
  obtain ⟨_, _, _, _, rfl⟩ := query_eq_ok h
  rfl

theorem anchor_of_connection (h : planner.connection entityType field = .ok plan) : plan.anchor = none := by
  obtain ⟨_, _, _, _, _, _, rfl⟩ := connection_eq_ok h
  rfl

theorem anchor_of_relationship (h : planner.relationship parentType parentId field = .ok plan) :
    ∃ anchor, plan.anchor = some anchor := by
  obtain ⟨_, _, _, _, _, _, _, _, _, _, rfl⟩ := relationship_eq_ok h
  exact ⟨_, rfl⟩

end Requests

/-- The plans of requests: of a query whose options were checked, of a connection, or of the load of a relationship. -/
inductive Plans (planner : Planner) : Plan → Prop
  | query {entityType : String} {selection : List Field} {filter : Filter} {order : Order}
      {after before : Option String} {first last : Option Int} {countsTotal : Bool} {options : Options} {plan : Plan} :
      Options.build filter order after before first last countsTotal = .ok options →
      planner.query entityType selection options = .ok plan → Plans planner plan
  | connection {entityType : String} {field : Field} {plan : Plan} :
      planner.connection entityType field = .ok plan → Plans planner plan
  | relationship {parentType : String} {parentId : Value} {field : Field} {plan : Plan} :
      planner.relationship parentType parentId field = .ok plan → Plans planner plan

/-- The topmost level of a plan is made for a type of the schema. -/
theorem Plans.makes {plan : Plan} (h : planner.Plans plan) :
    ∃ name entity, planner.schema.entity name = .ok entity ∧ planner.Makes entity plan.root := by
  cases h with
  | query hbuild h =>
    obtain ⟨entity, root, hentity, hroot, rfl⟩ := query_eq_ok h
    exact ⟨_, entity, hentity, (Planner.makes (Options.exclusive_of_build hbuild) hroot).1⟩
  | connection h =>
    obtain ⟨entity, options, root, hentity, hoptions, hroot, rfl⟩ := connection_eq_ok h
    exact ⟨_, entity, hentity, (Planner.makes (Field.exclusive_of_options hoptions) hroot).1⟩
  | relationship h =>
    obtain ⟨_, relationship, target, options, root, _, _, htarget, hoptions, hroot, rfl⟩ := relationship_eq_ok h
    exact ⟨_, target, htarget, (Planner.makes (exclusive_of_relationshipOptions hoptions) hroot).1⟩

end Planner

end GraphQuery
