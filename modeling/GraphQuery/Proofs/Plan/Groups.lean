import GraphQuery.Proofs.Plan.Made
import GraphQuery.Proofs.Schema.Named

/-!
# Groups of fields

A field of a level that is a relationship of its scope asks for a group of its own (`Planner.groupOf?`). The groups of a
level are these, one by one, each joining an earlier group of the same result key and types (`Planner.groups_eq_ok`):
the first group with a property of result key and types is the first such field, with all others of its result key
and types behind it (`FieldGroup.find?_foldl_add`). Every sub-query of a level is planned for one of its groups
(`Planner.branch_of_level`).
-/

namespace GraphQuery

/-! ## Adding one field -/

/-- Whether a group of fields applies to the nodes of a concrete type. -/
def FieldGroup.appliesTo (group : FieldGroup) (typeName : String) : Bool :=
  match group.onlyOnTypes with
  | none => true
  | some types => types.contains typeName

/-- The first group of a result key that applies to the nodes of a concrete type. -/
def FieldGroup.firstFor (groups : List FieldGroup) (resultKey typeName : String) : Option FieldGroup :=
  groups.find? fun group => group.resultKey = resultKey ∧ group.appliesTo typeName = true

section Grouping

variable {planner : Planner} {entity : EntityType} {groups groups' : List FieldGroup} {field : Field} {key : String}

/-- Groups of other result keys stay as they are when a group is added. -/
theorem FieldGroup.filter_add_of_ne {new : FieldGroup} (hne : new.resultKey ≠ key) : ∀ groups : List FieldGroup,
    (FieldGroup.add groups new).filter (·.resultKey = key) = groups.filter (·.resultKey = key)
  | [] => by simp [FieldGroup.add, hne]
  | group :: rest => by
    rw [FieldGroup.add]
    split
    · rename_i hsame
      have hgroup : group.resultKey ≠ key := hsame.1 ▸ hne
      rw [List.filter_cons_of_neg (by simp [hgroup]), List.filter_cons_of_neg (by simp [hgroup])]
    · rw [List.filter_cons, List.filter_cons, FieldGroup.filter_add_of_ne hne rest]

/-- A group joins the groups of its result key. -/
theorem FieldGroup.filter_add {new : FieldGroup} (heq : new.resultKey = key) : ∀ groups : List FieldGroup,
    (FieldGroup.add groups new).filter (·.resultKey = key) =
      FieldGroup.add (groups.filter (·.resultKey = key)) new
  | [] => by simp [FieldGroup.add, heq]
  | group :: rest => by
    rw [FieldGroup.add]
    by_cases hgroup : group.resultKey = key
    · rw [List.filter_cons_of_pos (by simp [hgroup]), FieldGroup.add]
      split
      · rw [List.filter_cons_of_pos (by simp [hgroup])]
      · rw [List.filter_cons_of_pos (by simp [hgroup]), FieldGroup.filter_add heq rest]
    · have hskip : ¬ (group.resultKey = new.resultKey ∧ group.onlyOnTypes = new.onlyOnTypes) :=
        fun hsame => hgroup (hsame.1.trans heq)
      rw [if_neg hskip, List.filter_cons_of_neg (by simp [hgroup]), List.filter_cons_of_neg (by simp [hgroup]),
        FieldGroup.filter_add heq rest]

/-- What adding a field to the groups of its level does. -/
theorem Planner.addField_eq_ok : planner.addField entity groups field = .ok groups' ↔
    ∃ scope, planner.scopeOf entity field = .ok scope ∧
      (scope.isSubtypeOf entity.name = true ∨ entity.isSubtypeOf scope.name = true) ∧
      groups' = match scope.relationship? field.name with
        | none => groups
        | some relationship =>
          FieldGroup.add groups ⟨field.resultKey, relationship, planner.typesOf entity scope, field, []⟩ := by
  unfold Planner.addField
  rw [Result.bind_eq_ok]
  refine exists_congr fun scope => and_congr_right fun _ => ?_
  cases scope.isSubtypeOf entity.name <;> cases entity.isSubtypeOf scope.name <;>
    cases scope.relationship? field.name <;> simp [eq_comm]

theorem Planner.addField_of_ne (hne : field.resultKey ≠ key) (h : planner.addField entity groups field = .ok groups') :
    groups'.filter (·.resultKey = key) = groups.filter (·.resultKey = key) := by
  obtain ⟨scope, _, _, rfl⟩ := Planner.addField_eq_ok.mp h
  cases scope.relationship? field.name with
  | none => rfl
  | some relationship => exact FieldGroup.filter_add_of_ne hne groups

theorem Planner.addField_filter (heq : field.resultKey = key) (h : planner.addField entity groups field = .ok groups') :
    planner.addField entity (groups.filter (·.resultKey = key)) field =
      .ok (groups'.filter (·.resultKey = key)) := by
  obtain ⟨scope, hscope, happlies, rfl⟩ := Planner.addField_eq_ok.mp h
  refine Planner.addField_eq_ok.mpr ⟨scope, hscope, happlies, ?_⟩
  cases scope.relationship? field.name with
  | none => rfl
  | some relationship => exact FieldGroup.filter_add heq groups

/-- The groups of a result key come from the fields of that result key. -/
theorem Planner.groups_filter (key : String) : ∀ {selection : List Field} {groups groups' : List FieldGroup},
    selection.foldlM (planner.addField entity) groups = .ok groups' →
      (selection.filter (·.resultKey = key)).foldlM (planner.addField entity) (groups.filter (·.resultKey = key)) =
        .ok (groups'.filter (·.resultKey = key))
  | [], groups, groups', h => by
    cases h
    rfl
  | field :: rest, groups, groups', h => by
    rw [List.foldlM_cons] at h
    obtain ⟨middle, hmiddle, h⟩ := Result.bind_eq_ok.mp h
    have ih := Planner.groups_filter key h
    by_cases heq : field.resultKey = key
    · rw [List.filter_cons_of_pos (by simp [heq]), List.foldlM_cons, Planner.addField_filter heq hmiddle]
      exact ih
    · rw [List.filter_cons_of_neg (by simp [heq]), ← Planner.addField_of_ne heq hmiddle]
      exact ih

/-- The only field of a result key, when it has no type condition, is a group of its own. -/
theorem Planner.groups_of_only {selection : List Field} {relationship : RelationshipDef}
    (h : planner.groups entity selection = .ok groups)
    (honly : selection.filter (·.resultKey = field.resultKey) = [field]) (hcondition : field.typeCondition = none)
    (hrelationship : entity.relationship? field.name = some relationship) :
    groups.filter (·.resultKey = field.resultKey) = [⟨field.resultKey, relationship, none, field, []⟩] := by
  have hfold : planner.addField entity [] field >>= pure =
      .ok (groups.filter (·.resultKey = field.resultKey)) := by
    have hfilter := Planner.groups_filter field.resultKey h
    rw [honly] at hfilter
    exact hfilter
  rw [bind_pure] at hfold
  obtain ⟨scope, hscope, _, hgroups⟩ := Planner.addField_eq_ok.mp hfold
  rw [Planner.scopeOf, hcondition] at hscope
  cases hscope
  have hself : planner.typesOf entity entity = none := by simp [Planner.typesOf, EntityType.isSubtypeOf]
  rw [hgroups, hrelationship, hself]
  rfl

end Grouping

/-! ## Adding all fields -/

/-- The group that a relationship field of a level asks for; a property asks for none. -/
def Planner.groupOf? (planner : Planner) (entity : EntityType) (field : Field) : Option FieldGroup :=
  match planner.scopeOf entity field with
  | .error _ => none
  | .ok scope => (scope.relationship? field.name).map fun relationship =>
      ⟨field.resultKey, relationship, planner.typesOf entity scope, field, []⟩

namespace FieldGroup

/-- Whether two groups are for the same types under the same result key. -/
def joins (group other : FieldGroup) : Bool :=
  group.resultKey = other.resultKey ∧ group.onlyOnTypes = other.onlyOnTypes

/-- A group with the fields of more groups behind its own. -/
def followedBy (group : FieldGroup) (more : List FieldGroup) : FieldGroup :=
  { group with others := group.others ++ more.map (·.field) }

theorem followedBy_followedBy (group : FieldGroup) (first second : List FieldGroup) :
    (group.followedBy first).followedBy second = group.followedBy (first ++ second) := by
  simp [followedBy, List.append_assoc]

theorem mem_add {new group : FieldGroup} : ∀ {groups : List FieldGroup}, group ∈ FieldGroup.add groups new →
    ∃ other, (other = new ∨ other ∈ groups) ∧ group.joins other = true ∧ group.relationship = other.relationship ∧
      group.field = other.field
  | [], h => ⟨new, .inl rfl, by simp [List.mem_singleton.mp h, joins], by simp [List.mem_singleton.mp h],
      by simp [List.mem_singleton.mp h]⟩
  | first :: rest, h => by
    rw [FieldGroup.add] at h
    split at h
    · rcases List.mem_cons.mp h with rfl | h
      · exact ⟨first, .inr List.mem_cons_self, by simp [joins], rfl, rfl⟩
      · exact ⟨group, .inr (List.mem_cons_of_mem _ h), by simp [joins], rfl, rfl⟩
    · rcases List.mem_cons.mp h with rfl | h
      · exact ⟨group, .inr List.mem_cons_self, by simp [joins], rfl, rfl⟩
      · obtain ⟨other, hother, hsame⟩ := mem_add h
        exact ⟨other, hother.imp_right (List.mem_cons_of_mem _), hsame⟩

section Finding

variable {p : FieldGroup → Bool} (hp : ∀ a b : FieldGroup, a.joins b = true → p a = p b)

include hp

/-- What adding a group changes about the first group with a property of result key and types. -/
theorem find?_add (new : FieldGroup) : ∀ groups : List FieldGroup, (FieldGroup.add groups new).find? p =
    match groups.find? p with
    | some group => some (group.followedBy ([new].filter group.joins))
    | none => [new].find? p
  | [] => by simp [FieldGroup.add]
  | first :: rest => by
    rw [FieldGroup.add]
    by_cases hjoins : first.joins new = true
    · rw [if_pos (by simpa [joins] using hjoins)]
      have hadded : p { first with others := first.others ++ [new.field] } = p first := hp _ _ (by simp [joins])
      cases hfirst : p first with
      | true =>
        rw [List.find?_cons_of_pos (hadded.trans hfirst), List.find?_cons_of_pos hfirst]
        simp [followedBy, hjoins]
      | false =>
        have hnew : p new = false := (hp _ _ hjoins).symm.trans hfirst
        rw [List.find?_cons_of_neg (by simp [hadded, hfirst]), List.find?_cons_of_neg (by simp [hfirst])]
        cases hrest : rest.find? p with
        | none => simp [hnew]
        | some group =>
          have hapart : group.joins new = false := by
            rw [← Bool.not_eq_true]
            intro hgroup
            have hsame := hp _ _ hgroup
            rw [List.find?_some hrest, hnew] at hsame
            cases hsame
          simp [followedBy, hapart]
    · rw [if_neg (by simpa [joins] using hjoins)]
      cases hfirst : p first with
      | true =>
        rw [List.find?_cons_of_pos hfirst, List.find?_cons_of_pos hfirst]
        simp [followedBy, hjoins]
      | false =>
        rw [List.find?_cons_of_neg (by simp [hfirst]), List.find?_cons_of_neg (by simp [hfirst])]
        exact find?_add new rest

theorem find?_foldl_add_of_some : ∀ {news groups : List FieldGroup} {group : FieldGroup}, groups.find? p = some group →
    (news.foldl FieldGroup.add groups).find? p = some (group.followedBy (news.filter group.joins))
  | [], groups, group, h => by simp [h, followedBy]
  | new :: rest, groups, group, h => by
    have hadd := find?_add hp new groups
    rw [h] at hadd
    have hkeeps : (group.followedBy ([new].filter group.joins)).joins = group.joins := rfl
    rw [List.foldl_cons, find?_foldl_add_of_some hadd, hkeeps, followedBy_followedBy, ← List.filter_append]
    rfl

/-- The first group with a property of result key and types is the first that was added, with the fields of all others
of its result key and types behind its own. -/
theorem find?_foldl_add : ∀ {news groups : List FieldGroup}, groups.find? p = none →
    (news.foldl FieldGroup.add groups).find? p =
      (news.find? p).map fun first => first.followedBy (news.filter first.joins).tail
  | [], groups, h => h
  | new :: rest, groups, h => by
    have hadd := find?_add hp new groups
    rw [h] at hadd
    rw [List.foldl_cons]
    cases hnew : p new with
    | true =>
      have hself : new.joins new = true := by simp [joins]
      have hfound : (FieldGroup.add groups new).find? p = some new := by rw [hadd, List.find?_cons_of_pos hnew]
      rw [find?_foldl_add_of_some hp hfound, List.find?_cons_of_pos hnew, Option.map_some, List.filter_cons_of_pos hself,
        List.tail_cons]
    | false =>
      have hnone : (FieldGroup.add groups new).find? p = none := by rw [hadd]; simp [hnew]
      rw [find?_foldl_add hnone, List.find?_cons_of_neg (by simp [hnew])]
      cases hrest : rest.find? p with
      | none => rfl
      | some first =>
        have hapart : first.joins new = false := by
          rw [← Bool.not_eq_true]
          intro hjoins
          have hsame := hp _ _ hjoins
          rw [List.find?_some hrest, hnew] at hsame
          cases hsame
        rw [Option.map_some, Option.map_some, List.filter_cons_of_neg (by simp [hapart])]

end Finding

/-- Groups for the same types under the same result key apply alike. -/
theorem applies_of_joins {group other : FieldGroup} (h : group.joins other = true) (resultKey typeName : String) :
    decide (group.resultKey = resultKey ∧ group.appliesTo typeName = true) =
      decide (other.resultKey = resultKey ∧ other.appliesTo typeName = true) := by
  rw [joins, decide_eq_true_eq] at h
  refine decide_eq_decide.mpr ?_
  rw [appliesTo, appliesTo, h.1, h.2]

/-- The first group of a result key that applies to the nodes of a concrete type is the first that was added, with the
fields of all others of its types behind its own. -/
theorem firstFor_foldl_add (news : List FieldGroup) (resultKey typeName : String) :
    firstFor (news.foldl FieldGroup.add []) resultKey typeName =
      (firstFor news resultKey typeName).map fun first => first.followedBy (news.filter first.joins).tail :=
  find?_foldl_add (fun _ _ hjoins => applies_of_joins hjoins resultKey typeName) rfl

end FieldGroup

namespace Planner

section Groups

variable {planner : Planner} {entity : EntityType} {selection : List Field} {groups : List FieldGroup}

theorem groupOf?_eq_some {field : Field} {group : FieldGroup} : planner.groupOf? entity field = some group ↔
    ∃ scope relationship, planner.scopeOf entity field = .ok scope ∧ scope.relationship? field.name = some relationship ∧
      group = ⟨field.resultKey, relationship, planner.typesOf entity scope, field, []⟩ := by
  unfold groupOf?
  cases planner.scopeOf entity field with
  | error => simp
  | ok scope =>
    constructor
    · intro h
      obtain ⟨relationship, hrelationship, rfl⟩ := Option.map_eq_some_iff.mp h
      exact ⟨scope, relationship, rfl, hrelationship, rfl⟩
    · rintro ⟨_, relationship, hscope, hrelationship, rfl⟩
      cases hscope
      exact Option.map_eq_some_iff.mpr ⟨relationship, hrelationship, rfl⟩

/-- The type a field is declared on stands in the schema. -/
theorem stands_scopeOf (hnamed : planner.schema.Named) (hentity : planner.schema.entity? entity.name = some entity)
    {field : Field} {scope : EntityType} (h : planner.scopeOf entity field = .ok scope) :
    planner.schema.entity? scope.name = some scope := by
  unfold scopeOf at h
  split at h
  · exact hnamed.stands h
  · cases h
    exact hentity

/-- The groups of a level are those its fields ask for, one by one; every scope has to do with the type of the level. -/
theorem groups_eq_ok (h : planner.groups entity selection = .ok groups) :
    groups = (selection.filterMap (planner.groupOf? entity)).foldl FieldGroup.add [] ∧
      ∀ field ∈ selection, ∃ scope, planner.scopeOf entity field = .ok scope ∧
        (scope.isSubtypeOf entity.name = true ∨ entity.isSubtypeOf scope.name = true) := by
  suffices ∀ {fields : List Field} {start : List FieldGroup}, fields.foldlM (planner.addField entity) start = .ok groups →
      groups = (fields.filterMap (planner.groupOf? entity)).foldl FieldGroup.add start ∧
        ∀ field ∈ fields, ∃ scope, planner.scopeOf entity field = .ok scope ∧
          (scope.isSubtypeOf entity.name = true ∨ entity.isSubtypeOf scope.name = true) from this h
  intro fields
  induction fields with
  | nil =>
    intro start h
    cases h
    exact ⟨rfl, nofun⟩
  | cons field rest ih =>
    intro start h
    rw [List.foldlM_cons] at h
    obtain ⟨middle, hmiddle, h⟩ := Result.bind_eq_ok.mp h
    obtain ⟨scope, hscope, happlies, rfl⟩ := addField_eq_ok.mp hmiddle
    obtain ⟨hgroups, hrest⟩ := ih h
    refine ⟨?_, List.forall_mem_cons.mpr ⟨⟨scope, hscope, happlies⟩, hrest⟩⟩
    rw [hgroups, List.filterMap_cons, groupOf?, hscope]
    cases hrelationship : scope.relationship? field.name <;> simp [hrelationship]

/-- Every group comes from a field that asks for it. -/
theorem field_of_group (h : planner.groups entity selection = .ok groups) {group : FieldGroup}
    (hgroup : group ∈ groups) : ∃ field ∈ selection, ∃ scope relationship, planner.scopeOf entity field = .ok scope ∧
      scope.relationship? field.name = some relationship ∧
      (scope.isSubtypeOf entity.name = true ∨ entity.isSubtypeOf scope.name = true) ∧
      group.resultKey = field.resultKey ∧ group.relationship = relationship ∧
      group.onlyOnTypes = planner.typesOf entity scope := by
  obtain ⟨hgroups, hscopes⟩ := groups_eq_ok h
  have hfrom : ∀ {news start : List FieldGroup} {group : FieldGroup}, group ∈ news.foldl FieldGroup.add start →
      ∃ other, other ∈ start ++ news ∧ group.joins other = true ∧ group.relationship = other.relationship := by
    intro news
    induction news with
    | nil => exact fun {_ group} hmem => ⟨group, List.mem_append_left _ hmem, by simp [FieldGroup.joins], rfl⟩
    | cons new rest ih =>
      intro start group hmem
      obtain ⟨other, hother, hjoins, hsame⟩ := ih hmem
      rcases List.mem_append.mp hother with hother | hother
      · obtain ⟨first, hfirst, hjoins', hsame', _⟩ := FieldGroup.mem_add hother
        refine ⟨first, ?_, ?_, hsame.trans hsame'⟩
        · rcases hfirst with rfl | hfirst
          · exact List.mem_append_right _ List.mem_cons_self
          · exact List.mem_append_left _ hfirst
        · simp only [FieldGroup.joins, decide_eq_true_eq] at hjoins hjoins' ⊢
          exact ⟨hjoins.1.trans hjoins'.1, hjoins.2.trans hjoins'.2⟩
      · exact ⟨other, List.mem_append_right _ (List.mem_cons_of_mem _ hother), hjoins, hsame⟩
  rw [hgroups] at hgroup
  obtain ⟨other, hother, hjoins, hsame⟩ := hfrom hgroup
  obtain ⟨field, hfield, hother⟩ := List.mem_filterMap.mp hother
  obtain ⟨scope, relationship, hscope, hrelationship, rfl⟩ := groupOf?_eq_some.mp hother
  obtain ⟨scope', hscope', happlies⟩ := hscopes field hfield
  rw [hscope] at hscope'
  cases hscope'
  simp only [FieldGroup.joins, decide_eq_true_eq] at hjoins
  exact ⟨field, hfield, scope, relationship, hscope, hrelationship, happlies, hjoins.1, hsame, hjoins.2⟩

end Groups

/-! ## The sub-queries of a level -/

section Levels

variable {planner : Planner} {room : Nat} {entity : EntityType} {selection : List Field} {options : Options}
  {cardinality : Cardinality} {level : Level}

variable [PropertyTable]

/-- A level that is planned for the fields of a group, with the given number of levels below it. -/
structure LevelFor (planner : Planner) (room : Nat) (group : FieldGroup) (target : EntityType) (level : Level) :
    Prop where
  leads : planner.schema.entity group.relationship.target = .ok target
  planned : ∃ options, planner.relationshipOptions group.relationship target group.field group.others = .ok options ∧
    planner.level room target (Field.nodeSelection group.fields group.relationship.cardinality) options
      group.relationship.cardinality = .ok level

/-- Every sub-query of a level is planned for a group of its fields. -/
theorem branch_of_level (h : planner.level room entity selection options cardinality = .ok level) :
    ∃ groups, planner.groups entity selection = .ok groups ∧ ∀ branch ∈ level.branches, ∃ group ∈ groups,
      group.resultKey = branch.resultKey ∧ branch.sub.relationship = group.relationship ∧
      branch.sub.onlyOnTypes = group.onlyOnTypes ∧
      ∃ less target, room = less + 1 ∧ planner.LevelFor less group target branch.sub.query := by
  cases room with
  | zero =>
    obtain ⟨_, _, groups, hgroups, hsubs⟩ := subs_of_levelOver h
    refine ⟨groups, hgroups, fun branch hbranch => ?_⟩
    obtain ⟨_, _, _, hnested, _⟩ := hsubs branch hbranch
    cases hnested
  | succ less =>
    obtain ⟨_, _, groups, hgroups, hsubs⟩ := subs_of_levelOver h
    refine ⟨groups, hgroups, fun branch hbranch => ?_⟩
    obtain ⟨group, hgroup, hkey, hnested, hrelationship, htypes⟩ := hsubs branch hbranch
    obtain ⟨target, htarget, hnested⟩ := Result.bind_eq_ok.mp hnested
    obtain ⟨options', hoptions, hnested⟩ := Result.bind_eq_ok.mp hnested
    exact ⟨group, hgroup, hkey, hrelationship, htypes, less, target, rfl, htarget, options', hoptions, hnested⟩

omit [PropertyTable] in
/-- A result key of a part stays one when more sub-queries are added. -/
theorem isSome_lookup_foldlM {nested : FieldGroup → Result Level} {resultKey : String} : ∀ {groups : List FieldGroup}
    {parts parts' : List (String × List (SubQuery Level))},
      groups.foldlM (fun parts group => do
        return addToPart parts group.resultKey ⟨group.relationship, ← nested group, group.onlyOnTypes⟩) parts = .ok parts' →
      ((List.lookup resultKey parts).isSome = true ∨ ∃ group ∈ groups, group.resultKey = resultKey) →
        (List.lookup resultKey parts').isSome = true
  | [], parts, _, h, hkey => by
    cases h
    simpa using hkey
  | first :: rest, parts, parts', h, hkey => by
    rw [List.foldlM_cons] at h
    obtain ⟨middle, hmiddle, h⟩ := Result.bind_eq_ok.mp h
    obtain ⟨query, _, hmiddle⟩ := Result.bind_eq_ok.mp hmiddle
    cases hmiddle
    refine isSome_lookup_foldlM h ?_
    rw [addToPart, Table.lookup_insert]
    by_cases hfirst : resultKey = first.resultKey
    · exact .inl (by rw [if_pos hfirst]; rfl)
    · rw [if_neg hfirst]
      refine hkey.imp_right ?_
      rintro ⟨group, hgroup, hsame⟩
      rcases List.mem_cons.mp hgroup with rfl | hgroup
      · exact absurd hsame.symm hfirst
      · exact ⟨group, hgroup, hsame⟩

/-- A level has a part for every field that asks for a relationship. -/
theorem part?_of_asks (h : planner.level room entity selection options cardinality = .ok level) {field : Field}
    (hfield : field ∈ selection) {group : FieldGroup} (hasks : planner.groupOf? entity field = some group) :
    ∃ subs, level.part? field.resultKey = some subs := by
  obtain ⟨nested, hover⟩ := levelOver_of_level h
  obtain ⟨_, groups, parts, _, _, hgroups, hparts, rfl⟩ := levelOver_eq_ok.mp hover
  refine Option.isSome_iff_exists.mp (isSome_lookup_foldlM hparts (.inr ?_))
  -- some group has the result key, since the field asks for one of it
  have hkey : group.resultKey = field.resultKey := by
    obtain ⟨_, _, _, _, rfl⟩ := groupOf?_eq_some.mp hasks
    rfl
  have hjoined : ∀ a b : FieldGroup, a.joins b = true →
      decide (a.resultKey = field.resultKey) = decide (b.resultKey = field.resultKey) := by
    intro a b hjoins
    rw [FieldGroup.joins, decide_eq_true_eq] at hjoins
    rw [hjoins.1]
  have hfind : ((selection.filterMap (planner.groupOf? entity)).foldl FieldGroup.add []).find? _ = _ :=
    FieldGroup.find?_foldl_add hjoined rfl
  rw [← (groups_eq_ok hgroups).1] at hfind
  cases hnews : (selection.filterMap (planner.groupOf? entity)).find?
      fun other => decide (other.resultKey = field.resultKey) with
  | none =>
    have hnot := List.find?_eq_none.mp hnews group (List.mem_filterMap.mpr ⟨field, hfield, hasks⟩)
    exact absurd (decide_eq_true hkey) hnot
  | some first =>
    rw [hnews, Option.map_some] at hfind
    have hfound := List.find?_some hfind
    exact ⟨_, List.mem_of_find?_eq_some hfind, of_decide_eq_true hfound⟩

end Levels

end Planner

end GraphQuery
