import GraphQuery.Pattern.KnownProperty
import GraphQuery.Proofs.Plan.Arguments
import GraphQuery.Proofs.Plan.Wanted
import GraphQuery.Proofs.Schema.Lineage

/-!
# Fragments

Fragments on several types may ask for relationships under one result key. Fields are grouped when they ask on the same
types; of the groups that apply to a node only the first is looked at. So the sub-query that is picked for the nodes of
a concrete type is planned for the first field that asks on them and for all that ask on exactly the same types: it
keeps the options of such a field and has a part for every relationship below it (`Planner.Draws.picks`). A field that
asks on other types, on more or on fewer, has no say in it.
-/

namespace GraphQuery

/-! ## Groups stand apart -/

namespace FieldGroup

theorem joins_iff {group other : FieldGroup} :
    group.joins other = true ↔ group.resultKey = other.resultKey ∧ group.onlyOnTypes = other.onlyOnTypes := by
  simp [joins]

/-- No two groups are for the same types under the same result key. -/
def Apart (groups : List FieldGroup) : Prop := groups.Pairwise fun a b => a.joins b = false

theorem Apart.add {new : FieldGroup} : ∀ {groups : List FieldGroup}, Apart groups → Apart (FieldGroup.add groups new)
  | [], _ => List.pairwise_singleton _ _
  | first :: rest, h => by
    obtain ⟨hfirst, hrest⟩ := List.pairwise_cons.mp h
    rw [FieldGroup.add]
    split
    · exact List.pairwise_cons.mpr ⟨hfirst, hrest⟩
    · rename_i hnew
      refine List.pairwise_cons.mpr ⟨fun group hgroup => ?_, Apart.add hrest⟩
      obtain ⟨other, hother, hjoins, _⟩ := mem_add hgroup
      rw [← Bool.not_eq_true]
      intro hsame
      rw [joins_iff] at hjoins hsame
      rcases hother with rfl | hother
      · exact hnew ⟨hsame.1.trans hjoins.1, hsame.2.trans hjoins.2⟩
      · have hapart := hfirst other hother
        rw [← Bool.not_eq_true] at hapart
        exact hapart (joins_iff.mpr ⟨hsame.1.trans hjoins.1, hsame.2.trans hjoins.2⟩)

theorem Apart.foldl_add : ∀ {news groups : List FieldGroup}, Apart groups → Apart (news.foldl FieldGroup.add groups)
  | [], _, h => h
  | new :: rest, _, h => by
    rw [List.foldl_cons]
    exact Apart.foldl_add h.add

theorem Apart.eq_of_joins {groups : List FieldGroup} (h : Apart groups) {group other : FieldGroup}
    (hgroup : group ∈ groups) (hother : other ∈ groups) (hjoins : group.joins other = true) : group = other := by
  induction groups with
  | nil => cases hgroup
  | cons first rest ih =>
    obtain ⟨hfirst, hrest⟩ := List.pairwise_cons.mp h
    have hno : ∀ {a b : FieldGroup}, a.joins b = false → b.joins a = true → False := by
      intro a b hab hba
      rw [← Bool.not_eq_true] at hab
      exact hab (joins_iff.mpr ((joins_iff.mp hba).imp Eq.symm Eq.symm))
    rcases List.mem_cons.mp hgroup with rfl | hmem
    · rcases List.mem_cons.mp hother with rfl | hmem'
      · rfl
      · rw [hfirst other hmem'] at hjoins
        cases hjoins
    · rcases List.mem_cons.mp hother with rfl | hmem'
      · exact (hno (hfirst group hmem) hjoins).elim
      · exact ih hrest hmem hmem'

/-- The fields of the first group of a result key that applies to the nodes of a concrete type are those of all groups
that join it. -/
theorem fields_of_firstFor {news : List FieldGroup} {resultKey typeName : String} {first : FieldGroup}
    (h : firstFor news resultKey typeName = some first) (hothers : first.others = []) :
    (first.followedBy (news.filter first.joins).tail).fields = (news.filter first.joins).map (·.field) := by
  obtain ⟨hfirst, before, after, rfl, hbefore⟩ := List.find?_eq_some_iff_append.mp h
  have hnone : before.filter first.joins = [] := by
    refine List.filter_eq_nil_iff.mpr fun group hgroup hjoins => ?_
    have hnot := hbefore group hgroup
    rw [← applies_of_joins hjoins, hfirst] at hnot
    cases hnot
  rw [List.filter_append, hnone, List.nil_append, List.filter_cons_of_pos (by simp [joins]), List.tail_cons,
    List.map_cons, fields, followedBy, hothers, List.nil_append]

end FieldGroup

/-! ## Picking a sub-query -/

/-- The first sub-query that applies to the nodes of a concrete type is the one that is picked for them. -/
theorem forType_of_find? {subs : List (SubQuery Level)} {sub : SubQuery Level} {typeName : String}
    (h : subs.find? (·.appliesTo typeName) = some sub) :
    ∃ i, forType subs typeName = some (i, sub) ∧ subs[i]? = some sub := by
  suffices hfrom : ∀ {subs : List (SubQuery Level)} (start : Nat), subs.find? (·.appliesTo typeName) = some sub →
      ∃ i, (subs.zipIdx start).find? (fun entry => entry.1.appliesTo typeName) = some (sub, start + i) ∧
        subs[i]? = some sub by
    obtain ⟨i, hfound, hi⟩ := hfrom 0 h
    refine ⟨i, ?_, hi⟩
    rw [Nat.zero_add] at hfound
    rw [forType, hfound]
    rfl
  intro subs
  induction subs with
  | nil => exact fun _ h => by cases h
  | cons first rest ih =>
    intro start h
    rw [List.find?_cons] at h
    rw [List.zipIdx_cons, List.find?_cons]
    cases happlies : first.appliesTo typeName with
    | true =>
      rw [happlies] at h
      cases h
      exact ⟨0, rfl, rfl⟩
    | false =>
      rw [happlies] at h
      obtain ⟨i, hfound, hi⟩ := ih (start + 1) h
      refine ⟨i + 1, ?_, hi⟩
      rw [Nat.add_right_comm] at hfound
      exact hfound

namespace Planner

variable {planner : Planner} {plan : Plan} {entity concrete : EntityType} {selection : List Field} {level : Level}

theorem apart_of_groups {groups : List FieldGroup} (h : planner.groups entity selection = .ok groups) :
    FieldGroup.Apart groups := by
  rw [(groups_eq_ok h).1]
  exact FieldGroup.Apart.foldl_add .nil

/-! ## The levels of a plan -/

section

variable [PropertyTable]

/-- The levels of a plan, with the types and the fields that they are planned for. -/
inductive Draws (planner : Planner) (plan : Plan) : EntityType → List Field → Level → Prop
  | query {entityType : String} {selection : List Field} {options : Options} {entity : EntityType} :
      planner.query entityType selection options = .ok plan → planner.schema.entity entityType = .ok entity →
      Draws planner plan entity selection plan.root
  | connection {entityType : String} {field : Field} {entity : EntityType} :
      planner.connection entityType field = .ok plan → planner.schema.entity entityType = .ok entity →
      Draws planner plan entity (Field.nodeSelection [field] .many) plan.root
  | load {parentType : String} {parentId : Value} {field : Field} {parent target : EntityType}
      {relationship : RelationshipDef} :
      planner.relationship parentType parentId field = .ok plan → planner.schema.entity parentType = .ok parent →
      parent.relationship? field.name = some relationship → planner.schema.entity relationship.target = .ok target →
      Draws planner plan target (Field.nodeSelection [field] relationship.cardinality) plan.root
  | nested {entity target : EntityType} {selection : List Field} {level : Level} {groups : List FieldGroup}
      {group : FieldGroup} {branch : Branch} :
      Draws planner plan entity selection level → planner.groups entity selection = .ok groups → group ∈ groups →
      branch ∈ level.branches → group.resultKey = branch.resultKey → group.onlyOnTypes = branch.sub.onlyOnTypes →
      planner.schema.entity group.relationship.target = .ok target →
      Draws planner plan target (Field.nodeSelection group.fields group.relationship.cardinality) branch.sub.query

/-- The levels of a plan are planned for types of the schema. -/
theorem Draws.stands (h : planner.Draws plan entity selection level) (hnamed : planner.schema.Named) :
    planner.schema.entity? entity.name = some entity := by
  cases h with
  | query _ hentity => exact hnamed.stands hentity
  | connection _ hentity => exact hnamed.stands hentity
  | load _ _ _ htarget => exact hnamed.stands htarget
  | nested _ _ _ _ _ _ htarget => exact hnamed.stands htarget

/-- Every level of a plan is planned for its type and its fields. -/
theorem Draws.planned (h : planner.Draws plan entity selection level) : ∃ room options cardinality,
    planner.level room entity selection options cardinality = .ok level := by
  induction h with
  | query hplan hentity =>
    obtain ⟨found, root, hfound, hroot, rfl⟩ := query_eq_ok hplan
    rw [hentity] at hfound
    cases hfound
    exact ⟨_, _, _, hroot⟩
  | connection hplan hentity =>
    obtain ⟨found, options, root, hfound, _, hroot, rfl⟩ := connection_eq_ok hplan
    rw [hentity] at hfound
    cases hfound
    exact ⟨_, _, _, hroot⟩
  | load hplan hparent hrelationship htarget =>
    obtain ⟨_, _, _, options, root, hparent', hrelationship', htarget', _, hroot, rfl⟩ := relationship_eq_ok hplan
    rw [hparent] at hparent'
    cases hparent'
    rw [hrelationship] at hrelationship'
    cases hrelationship'
    rw [htarget] at htarget'
    cases htarget'
    exact ⟨_, _, _, hroot⟩
  | nested _ hgroups hgroup hbranch hkey htypes htarget ih =>
    obtain ⟨room, options, cardinality, hlevel⟩ := ih
    obtain ⟨groups, hgroups', hbranches⟩ := branch_of_level hlevel
    rw [hgroups] at hgroups'
    cases hgroups'
    obtain ⟨other, hother, hkey', _, htypes', less, target, _, hfor⟩ := hbranches _ hbranch
    have hsame : _ = other := (apart_of_groups hgroups).eq_of_joins hgroup hother
      (FieldGroup.joins_iff.mpr ⟨hkey.trans hkey'.symm, htypes.trans htypes'⟩)
    subst hsame
    have hleads := hfor.leads
    rw [htarget] at hleads
    cases hleads
    obtain ⟨_, _, hplanned⟩ := hfor.planned
    exact ⟨_, _, _, hplanned⟩

/-- Whatever stands below a level of a plan is a level of the plan. -/
theorem Draws.of_branch (h : planner.Draws plan entity selection level) {branch : Branch}
    (hbranch : branch ∈ level.branches) : ∃ target fields, planner.Draws plan target fields branch.sub.query := by
  obtain ⟨room, options, cardinality, hlevel⟩ := h.planned
  obtain ⟨groups, hgroups, hbranches⟩ := branch_of_level hlevel
  obtain ⟨group, hgroup, hkey, _, htypes, _, target, _, hfor⟩ := hbranches branch hbranch
  exact ⟨target, _, .nested h hgroups hgroup hbranch hkey htypes.symm hfor.leads⟩

/-! ## Fields that ask on a type -/

/-- A field of a level asks for a relationship of its scope on the nodes of a concrete type. -/
structure Asks (planner : Planner) (entity concrete : EntityType) (field : Field) (scope : EntityType)
    (relationship : RelationshipDef) : Prop where
  scope_eq : planner.scopeOf entity field = .ok scope
  declared : scope.relationship? field.name = some relationship
  covers : concrete.isSubtypeOf scope.name = true

/-- The first field under a result key that asks on the nodes of a concrete type. -/
structure AsksFirst (planner : Planner) (entity concrete : EntityType) (selection : List Field) (resultKey : String)
    (field : Field) (scope : EntityType) (relationship : RelationshipDef) : Prop where
  key : field.resultKey = resultKey
  asks : planner.Asks entity concrete field scope relationship
  first : ∃ before after, selection = before ++ field :: after ∧ ∀ other ∈ before, other.resultKey = resultKey →
    ∀ scope relationship, ¬ planner.Asks entity concrete other scope relationship

/-- A level keeps what a field asks for: the options in its arguments, but for whether the total is counted, and a part
for every relationship below it. -/
structure Keeps (planner : Planner) (plan : Plan) (relationship : RelationshipDef) (target : EntityType) (field : Field)
    (level : Level) : Prop where
  leads : planner.schema.entity relationship.target = .ok target
  options : ∃ options, planner.relationshipOptions relationship target field [] = .ok options ∧
    Json.same level.options.toJson { options with countsTotal := level.options.countsTotal }.toJson = true
  /-- The level is planned for all fields below the field. -/
  drawn : ∃ selection, planner.Draws plan target selection level ∧
    ∀ nested ∈ Field.nodeSelection [field] relationship.cardinality, nested ∈ selection
  nested : ∀ nested ∈ Field.nodeSelection [field] relationship.cardinality, ∀ scope inner,
    planner.scopeOf target nested = .ok scope → scope.relationship? nested.name = some inner →
      ∃ subs, level.part? nested.resultKey = some subs

end

section Asking

variable {decls : Table EntityDecl} {field : Field} {scope : EntityType} {relationship : RelationshipDef}

/-- The types of a scope include a concrete type at or below the type of the level exactly when the scope is at or above
the concrete type. -/
theorem appliesTo_iff (h : Schema.Flattens decls planner.schema)
    (hentity : planner.schema.entity? entity.name = some entity)
    (hconcrete : planner.schema.entity? concrete.name = some concrete) (habstract : concrete.isAbstract = false)
    (hbelow : concrete.isSubtypeOf entity.name = true) :
    FieldGroup.appliesTo ⟨field.resultKey, relationship, planner.typesOf entity scope, field, []⟩ concrete.name = true ↔
      concrete.isSubtypeOf scope.name = true := by
  unfold FieldGroup.appliesTo typesOf
  split
  · rename_i hnone
    split at hnone
    · rename_i hcovers
      exact iff_of_true rfl (h.isSubtypeOf_trans hconcrete hentity hbelow hcovers)
    · cases hnone
  · rename_i types hsome
    split at hsome
    · cases hsome
    · cases hsome
      rw [List.contains_iff_mem, h.mem_concreteSubtypes]
      constructor
      · rintro ⟨found, hfound, _, hcovers⟩
        rw [hconcrete] at hfound
        cases hfound
        exact hcovers
      · exact fun hcovers => ⟨concrete, hconcrete, habstract, hcovers⟩

section First

variable (h : Schema.Flattens decls planner.schema) (hentity : planner.schema.entity? entity.name = some entity)
  (hconcrete : planner.schema.entity? concrete.name = some concrete) (habstract : concrete.isAbstract = false)
  (hbelow : concrete.isSubtypeOf entity.name = true)

include h hentity hconcrete habstract hbelow

/-- A field asks on the nodes of a concrete type when it asks for a group that applies to them. -/
theorem asks_iff {group : FieldGroup} (hgroup : planner.groupOf? entity field = some group) :
    group.appliesTo concrete.name = true ↔ ∃ scope, planner.Asks entity concrete field scope group.relationship ∧
      group.onlyOnTypes = planner.typesOf entity scope := by
  obtain ⟨scope, relationship, hscope, hrelationship, rfl⟩ := groupOf?_eq_some.mp hgroup
  rw [appliesTo_iff h hentity hconcrete habstract hbelow]
  constructor
  · exact fun hcovers => ⟨scope, ⟨hscope, hrelationship, hcovers⟩, rfl⟩
  · rintro ⟨other, ⟨hother, _, hcovers⟩, _⟩
    rw [hscope] at hother
    cases hother
    exact hcovers

/-- Whether a field asks for a group of a result key that applies to the nodes of a concrete type. -/
theorem any_groupOf?_iff {resultKey : String} : (planner.groupOf? entity field).any (fun group =>
    decide (group.resultKey = resultKey ∧ group.appliesTo concrete.name = true)) = true ↔
      field.resultKey = resultKey ∧ ∃ scope relationship, planner.Asks entity concrete field scope relationship := by
  cases hfield : planner.groupOf? entity field with
  | none =>
    refine iff_of_false nofun ?_
    rintro ⟨_, scope, relationship, hasks⟩
    rw [groupOf?_eq_some.mpr ⟨scope, relationship, hasks.scope_eq, hasks.declared, rfl⟩] at hfield
    cases hfield
  | some group =>
    have hkey : group.resultKey = field.resultKey := by
      obtain ⟨_, _, _, _, rfl⟩ := groupOf?_eq_some.mp hfield
      rfl
    rw [Option.any_some, decide_eq_true_eq, hkey, asks_iff h hentity hconcrete habstract hbelow hfield]
    refine and_congr_right fun _ => ⟨fun ⟨scope, hasks, _⟩ => ⟨scope, _, hasks⟩, fun ⟨scope, relationship, hasks⟩ => ?_⟩
    rw [groupOf?_eq_some.mpr ⟨scope, relationship, hasks.scope_eq, hasks.declared, rfl⟩] at hfield
    cases hfield
    exact ⟨scope, hasks, rfl⟩

/-- The first group that fields ask for under a result key and that applies to the nodes of a concrete type is that of
the first field that asks on them. -/
theorem asksFirst_of_firstFor {resultKey : String} {group : FieldGroup}
    (hfirst : FieldGroup.firstFor (selection.filterMap (planner.groupOf? entity)) resultKey concrete.name = some group) :
    ∃ scope, planner.AsksFirst entity concrete selection resultKey group.field scope group.relationship ∧
      group = ⟨resultKey, group.relationship, planner.typesOf entity scope, group.field, []⟩ := by
  rw [FieldGroup.firstFor, List.find?_filterMap] at hfirst
  obtain ⟨field, hfield, hgroup⟩ := Option.bind_eq_some_iff.mp hfirst
  obtain ⟨hany, before, after, rfl, hbefore⟩ := List.find?_eq_some_iff_append.mp hfield
  have hkey := ((any_groupOf?_iff h hentity hconcrete habstract hbelow).mp hany).1
  rw [hgroup, Option.any_some, decide_eq_true_eq] at hany
  obtain ⟨scope, hasks, _⟩ := (asks_iff h hentity hconcrete habstract hbelow hgroup).mp hany.2
  obtain ⟨scope', relationship, hscope, _, rfl⟩ := groupOf?_eq_some.mp hgroup
  rw [hasks.scope_eq] at hscope
  cases hscope
  refine ⟨scope, ⟨hkey, hasks, before, after, rfl, fun other hother hkey scope relationship hasks => ?_⟩, by rw [hkey]⟩
  have hno := hbefore other hother
  rw [(any_groupOf?_iff h hentity hconcrete habstract hbelow).mpr ⟨hkey, scope, relationship, hasks⟩] at hno
  cases hno

/-- Some group applies to the nodes of a concrete type when a field of the result key asks on them. -/
theorem firstFor_of_asks (hfield : field ∈ selection) (hasks : planner.Asks entity concrete field scope relationship) :
    ∃ group, FieldGroup.firstFor (selection.filterMap (planner.groupOf? entity)) field.resultKey concrete.name =
      some group := by
  have hgroup := groupOf?_eq_some.mpr ⟨scope, relationship, hasks.scope_eq, hasks.declared, rfl⟩
  rw [← Option.isSome_iff_exists, FieldGroup.firstFor, List.find?_isSome]
  refine ⟨_, List.mem_filterMap.mpr ⟨field, hfield, hgroup⟩, decide_eq_true ⟨rfl, ?_⟩⟩
  exact (asks_iff h hentity hconcrete habstract hbelow hgroup).mpr ⟨scope, hasks, rfl⟩

/-- The fields that join the first group are those that ask on exactly its types. -/
theorem mem_joining_iff {resultKey : String} {group : FieldGroup}
    (hfirst : FieldGroup.firstFor (selection.filterMap (planner.groupOf? entity)) resultKey concrete.name = some group) :
    field ∈ ((selection.filterMap (planner.groupOf? entity)).filter group.joins).map (·.field) ↔
      field ∈ selection ∧ field.resultKey = resultKey ∧ ∃ scope relationship,
        planner.Asks entity concrete field scope relationship ∧ planner.typesOf entity scope = group.onlyOnTypes := by
  have hgroup : group.resultKey = resultKey ∧ group.appliesTo concrete.name = true := by
    have hfound := List.find?_some hfirst
    rwa [decide_eq_true_eq] at hfound
  constructor
  · intro hmem
    obtain ⟨other, hother, rfl⟩ := List.mem_map.mp hmem
    obtain ⟨hother, hjoins⟩ := List.mem_filter.mp hother
    obtain ⟨field, hfield, hother⟩ := List.mem_filterMap.mp hother
    have happlies := hgroup.2
    rw [FieldGroup.joins_iff] at hjoins
    rw [FieldGroup.appliesTo, hjoins.2, ← FieldGroup.appliesTo, asks_iff h hentity hconcrete habstract hbelow hother]
      at happlies
    obtain ⟨scope, hasks, htypes⟩ := happlies
    obtain ⟨_, _, _, _, rfl⟩ := groupOf?_eq_some.mp hother
    exact ⟨hfield, hjoins.1.symm.trans hgroup.1, scope, _, hasks, (hjoins.2.trans htypes).symm⟩
  · rintro ⟨hfield, hkey, scope, relationship, hasks, htypes⟩
    refine List.mem_map.mpr ⟨⟨field.resultKey, relationship, planner.typesOf entity scope, field, []⟩, ?_, rfl⟩
    refine List.mem_filter.mpr ⟨List.mem_filterMap.mpr ⟨field, hfield, ?_⟩, ?_⟩
    · exact groupOf?_eq_some.mpr ⟨scope, relationship, hasks.scope_eq, hasks.declared, rfl⟩
    · exact FieldGroup.joins_iff.mpr ⟨hgroup.1.trans hkey.symm, htypes.symm⟩

end First

variable [PropertyTable]

/-- Options that are agreed on by several fields are those of each of them. -/
theorem keeps_options {target : EntityType} {others : List Field} {options : Options}
    (h : planner.relationshipOptions relationship target field others = .ok options) {asking : Field}
    (hasking : asking ∈ field :: others) : ∃ own, planner.relationshipOptions relationship target asking [] = .ok own ∧
      Json.same options.toJson { own with countsTotal := options.countsTotal }.toJson = true := by
  unfold relationshipOptions at h ⊢
  split at h
  · cases h
  · rename_i hagree
    have hsame : asking.sameArguments field = true := by
      rcases List.mem_cons.mp hasking with rfl | hother
      · exact Json.sameFields_refl _
      · simpa using List.find?_eq_none.mp hagree asking hother
    rw [List.find?_nil]
    dsimp only
    split at h
    · rename_i hmany
      obtain ⟨own, hown, hwritten⟩ := Field.options_of_sameArguments hsame h
      have htotal : options.countsTotal = own.countsTotal :=
        (Field.countsTotal_of_options h).trans (Field.countsTotal_of_options hown).symm
      rw [if_pos hmany]
      refine ⟨_, Field.options_withTotal hown _, ?_⟩
      rw [htotal]
      exact hwritten
    · rename_i hone
      cases h
      rw [if_neg hone]
      exact ⟨.single, rfl, Json.same_refl _⟩

/-- A level that is planned for several fields keeps what each of them asks for. -/
theorem Draws.keeps {target : EntityType} {others : List Field} {options : Options} {query : Level}
    (hdrawn : planner.Draws plan target (Field.nodeSelection (field :: others) relationship.cardinality) query)
    (htarget : planner.schema.entity relationship.target = .ok target)
    (hoptions : planner.relationshipOptions relationship target field others = .ok options)
    (hquery : query.options = options) {asking : Field} (hasking : asking ∈ field :: others) :
    planner.Keeps plan relationship target asking query := by
  have hwanted : ∀ nested ∈ Field.nodeSelection [asking] relationship.cardinality,
      nested ∈ Field.nodeSelection (field :: others) relationship.cardinality := by
    intro nested hnested
    obtain ⟨other, hother, hnested⟩ := List.mem_flatMap.mp hnested
    exact List.mem_flatMap.mpr ⟨other, List.mem_singleton.mp hother ▸ hasking, hnested⟩
  refine ⟨htarget, hquery ▸ keeps_options hoptions hasking, ⟨_, hdrawn, hwanted⟩, ?_⟩
  intro nested hnested scope inner hscope hinner
  obtain ⟨room, _, _, hplanned⟩ := hdrawn.planned
  exact part?_of_asks hplanned (hwanted nested hnested) (groupOf?_eq_some.mpr ⟨scope, inner, hscope, hinner, rfl⟩)

/-- For the nodes of a concrete type, the sub-query under the result key of a field that asks on them is planned for
the first field under the key that asks on them and for all that ask on exactly the same types. It keeps what the field
asks for when the field asks on these types for the relationship of the first. -/
theorem Draws.picks {decls : List EntityDecl} (hbuild : Schema.build decls = .ok planner.schema)
    (h : planner.Draws plan entity selection level) (hconcrete : planner.schema.entity? concrete.name = some concrete)
    (habstract : concrete.isAbstract = false) (hbelow : concrete.isSubtypeOf entity.name = true)
    (hfield : field ∈ selection) (hasks : planner.Asks entity concrete field scope relationship) :
    ∃ first firstScope firstRelationship target asking subs i sub,
      planner.AsksFirst entity concrete selection field.resultKey first firstScope firstRelationship ∧
      (∀ other, other ∈ asking ↔ other ∈ selection ∧ other.resultKey = field.resultKey ∧
        ∃ scope relationship, planner.Asks entity concrete other scope relationship ∧
          planner.typesOf entity scope = planner.typesOf entity firstScope) ∧
      level.part? field.resultKey = some subs ∧ forType subs concrete.name = some (i, sub) ∧
      sub.relationship = firstRelationship ∧
      planner.Draws plan target (Field.nodeSelection asking firstRelationship.cardinality) sub.query ∧
      (∀ other ∈ asking, planner.Keeps plan firstRelationship target other sub.query) ∧
      (planner.typesOf entity scope = planner.typesOf entity firstScope → relationship = firstRelationship →
        planner.Keeps plan relationship target field sub.query) := by
  obtain ⟨table, hflat⟩ := Schema.flattens_of_build hbuild
  have hentity := h.stands hflat.named
  obtain ⟨room, options, cardinality, hplanned⟩ := h.planned
  obtain ⟨groups, hgroups, hsub⟩ := below_of_level hplanned field.resultKey concrete.name
  obtain ⟨first, hfirst⟩ := firstFor_of_asks hflat hentity hconcrete habstract hbelow hfield hasks
  obtain ⟨firstScope, hasksFirst, hfirstGroup⟩ := asksFirst_of_firstFor hflat hentity hconcrete habstract hbelow hfirst
  -- the group that the sub-query is planned for
  obtain ⟨group, hgroup⟩ : ∃ group, group =
      first.followedBy ((selection.filterMap (planner.groupOf? entity)).filter first.joins).tail := ⟨_, rfl⟩
  have hfound : FieldGroup.firstFor groups field.resultKey concrete.name = some group := by
    rw [(groups_eq_ok hgroups).1, FieldGroup.firstFor_foldl_add, hfirst, hgroup]
    rfl
  rw [hfound] at hsub
  obtain ⟨less, target, options', query, _, htarget, hoptions, hquery, hsub⟩ := hsub
  obtain ⟨subs, hsubs, hpick⟩ := Option.bind_eq_some_iff.mp hsub
  obtain ⟨i, hpick, hi⟩ := forType_of_find? hpick
  have hbranch := List.mem_of_find?_eq_some (Level.find_branch hsubs hi)
  have hrelationship : group.relationship = first.relationship := by rw [hgroup, FieldGroup.followedBy]
  have hkey : group.resultKey = field.resultKey := by rw [hgroup, FieldGroup.followedBy, hfirstGroup]
  have htypes : group.onlyOnTypes = planner.typesOf entity firstScope := by
    rw [hgroup, FieldGroup.followedBy, hfirstGroup]
  have hdrawn : planner.Draws plan target (Field.nodeSelection group.fields group.relationship.cardinality) query :=
    .nested h hgroups (List.mem_of_find?_eq_some hfound) hbranch hkey rfl htarget
  have hasking : ∀ other, other ∈ group.fields ↔ other ∈ selection ∧ other.resultKey = field.resultKey ∧
      ∃ scope relationship, planner.Asks entity concrete other scope relationship ∧
        planner.typesOf entity scope = planner.typesOf entity firstScope := by
    intro other
    rw [hgroup, FieldGroup.fields_of_firstFor hfirst (by rw [hfirstGroup]),
      mem_joining_iff hflat hentity hconcrete habstract hbelow hfirst, hfirstGroup]
  have hkeeps : ∀ other ∈ group.fields, planner.Keeps plan group.relationship target other query := fun other hother =>
    Draws.keeps hdrawn htarget hoptions (head_of_level hquery).2.1 hother
  refine ⟨first.field, firstScope, first.relationship, target, group.fields, subs, i, _, hasksFirst, hasking, hsubs,
    hpick, hrelationship, hrelationship ▸ hdrawn, hrelationship ▸ hkeeps, fun hsame hfirst => ?_⟩
  rw [hfirst, ← hrelationship]
  exact hkeeps field ((hasking field).mpr ⟨hfield, rfl, scope, relationship, hasks, hsame⟩)

end Asking

/-- A planner that asks for no permission. -/
def unguarded (schema : Schema) : Planner := ⟨schema, ⟨.empty, 0⟩, .default, none⟩

/-- The planner of the archive. -/
def archive : Planner := unguarded Archive.schema

/-! ## Novels among works -/

/-- The editions of novels. -/
def editions : RelationshipDef := ⟨"editions", "Novel", "Edition", "PUBLISHED_AS", .outgoing, .many, none⟩

/-- The press of an edition. -/
def press : RelationshipDef := ⟨"press", "Edition", "Press", "PRINTED_BY", .outgoing, .one, none⟩

/-- Works. -/
def work : EntityType := ⟨"Work", false, [⟨"id", .id, false⟩], [], [], []⟩

/-- Novels are works with editions. -/
def novel : EntityType := ⟨"Novel", false, [⟨"id", .id, false⟩], [editions], ["Work"], []⟩

/-- Editions have a press. -/
def edition : EntityType := ⟨"Edition", false, [⟨"id", .id, false⟩], [press], [], []⟩

/-- Works, some of which are novels with editions. -/
def library : Planner :=
  unguarded ⟨[("Edition", edition), ("Novel", novel),
    ("Press", ⟨"Press", false, [⟨"id", .id, false⟩], [], [], []⟩), ("Work", work)]⟩

/-- The presses of the editions of novels. -/
def pressesOfNovels : Field := ⟨"editions", none, [], some "Novel", [⟨"nodes", none, [], none, [.named "press"]⟩]⟩

/-- The number of the editions of novels. -/
def countOfNovels : Field := ⟨"editions", none, [], some "Novel", [.named "totalCount"]⟩

/-- The sub-query for novels keeps what both fields ask for: the press, and the count. -/
theorem Draws.picks_novels : ∃ plan,
    Schema.build [.declare "Press" false [] [] [] [], .declare "Edition" false [] [press] [] [],
      .declare "Work" false [] [] [] [], .declare "Novel" false [] [editions] ["Work"] []] = .ok library.schema ∧
    library.query "Work" [pressesOfNovels, countOfNovels] .default = .ok plan ∧
    library.Draws plan work [pressesOfNovels, countOfNovels] plan.root ∧
    library.Asks work novel countOfNovels novel editions ∧
    ∃ subs i sub, plan.root.part? "editions" = some subs ∧ forType subs "Novel" = some (i, sub) ∧
      library.Keeps plan editions edition pressesOfNovels sub.query ∧
      library.Keeps plan editions edition countOfNovels sub.query := by
  have hbuild : Schema.build [.declare "Press" false [] [] [] [], .declare "Edition" false [] [press] [] [],
      .declare "Work" false [] [] [] [], .declare "Novel" false [] [editions] ["Work"] []] = .ok library.schema := rfl
  obtain ⟨plan, hplan⟩ : ∃ plan, library.query "Work" [pressesOfNovels, countOfNovels] .default = .ok plan := ⟨_, rfl⟩
  have hdraws : library.Draws plan work [pressesOfNovels, countOfNovels] plan.root := .query hplan rfl
  have hcount : library.Asks work novel countOfNovels novel editions := ⟨rfl, rfl, rfl⟩
  have hpresses : library.Asks work novel pressesOfNovels novel editions := ⟨rfl, rfl, rfl⟩
  obtain ⟨first, firstScope, firstRelationship, target, asking, subs, i, sub, hfirst, hasking, hsubs, hpick, _, _, hkeeps,
    _⟩ := Draws.picks hbuild hdraws (rfl : library.schema.entity? novel.name = some novel) rfl rfl
      (List.mem_cons_of_mem _ List.mem_cons_self) hcount
  -- both fields are in the same scope, so whichever is the first is for novels
  have hnovels : firstScope = novel ∧ firstRelationship = editions := by
    obtain ⟨before, after, hselection, _⟩ := hfirst.first
    have hmem : first ∈ [pressesOfNovels, countOfNovels] := by
      rw [hselection]
      exact List.mem_append_right _ List.mem_cons_self
    have hscope := hfirst.asks.scope_eq
    have hdeclared := hfirst.asks.declared
    simp only [List.mem_cons, List.not_mem_nil, or_false] at hmem
    rcases hmem with rfl | rfl
    · cases hscope
      cases hdeclared
      exact ⟨rfl, rfl⟩
    · cases hscope
      cases hdeclared
      exact ⟨rfl, rfl⟩
  obtain ⟨rfl, rfl⟩ := hnovels
  have hkeepsPresses := hkeeps pressesOfNovels
    ((hasking _).mpr ⟨List.mem_cons_self, rfl, novel, editions, hpresses, rfl⟩)
  have hkeepsCount := hkeeps countOfNovels
    ((hasking _).mpr ⟨List.mem_cons_of_mem _ List.mem_cons_self, rfl, novel, editions, hcount, rfl⟩)
  have htarget : target = edition := by
    have hleads := hkeepsCount.leads
    cases hleads
    rfl
  subst htarget
  exact ⟨plan, hbuild, hplan, hdraws, hcount, subs, i, sub, hsubs, hpick, hkeepsPresses, hkeepsCount⟩

end Planner

end GraphQuery
