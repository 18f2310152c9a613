import GraphQuery.Proofs.Plan.Fragments

/-!
# Groups of selections that differ little

Two selections with the same heads in the same order have the same groups, with fields that correspond
(`Planner.alike_groups`). A field that repeats an earlier one may be joined with it: no field of another result key
stands in the way (`FieldGroup.add_add_comm`), and one field with both selections takes the place of the two
(`Planner.alike_groups_joined`).
-/

namespace GraphQuery

/-! ## Heads -/

namespace Field

/-- Two fields that ask for one relationship of the same nodes under the same result key. -/
structure SameHead (field other : Field) : Prop where
  name : field.name = other.name
  aliasName : field.aliasName = other.aliasName
  typeCondition : field.typeCondition = other.typeCondition

/-- Two fields with the same head and the same arguments. -/
structure Repeats (field other : Field) : Prop extends SameHead field other where
  arguments : other.sameArguments field = true

/-- A field with another selection below it. -/
def withSelection (field : Field) (selection : List Field) : Field := { field with selection }

/-- One field that asks for what two fields ask for. -/
def joined (field other : Field) : Field := field.withSelection (field.selection ++ other.selection)

theorem SameHead.refl (field : Field) : field.SameHead field := ⟨rfl, rfl, rfl⟩

theorem sameHead_withSelection (field : Field) (selection : List Field) :
    field.SameHead (field.withSelection selection) := ⟨rfl, rfl, rfl⟩

theorem SameHead.resultKey {field other : Field} (h : field.SameHead other) : field.resultKey = other.resultKey := by
  rw [Field.resultKey, Field.resultKey, h.aliasName, h.name]

end Field

/-! ## What a field asks for -/

namespace Planner

variable {planner : Planner} {entity : EntityType}

/-- The group that a field of a level asks for, if the type it is declared on has to do with the type of the level. -/
def asked (planner : Planner) (entity : EntityType) (field : Field) : Result (Option FieldGroup) := do
  let scope ← planner.scopeOf entity field
  if !scope.isSubtypeOf entity.name && !entity.isSubtypeOf scope.name then
    throw (.planCompilation (.conditionDoesNotApply scope.name entity.name))
  return (scope.relationship? field.name).map fun relationship =>
    ⟨field.resultKey, relationship, planner.typesOf entity scope, field, []⟩

/-- A field adds the group that it asks for. -/
theorem addField_eq (groups : List FieldGroup) (field : Field) : planner.addField entity groups field =
    (fun new : Option FieldGroup => new.elim groups (FieldGroup.add groups)) <$> planner.asked entity field := by
  unfold addField asked
  cases planner.scopeOf entity field with
  | error e => rfl
  | ok scope =>
    rw [Result.ok_bind, Result.ok_bind]
    cases scope.relationship? field.name <;> cases scope.isSubtypeOf entity.name <;>
      cases entity.isSubtypeOf scope.name <;> rfl

/-- Fields with the same head ask for the same group, each with itself in it. -/
theorem asked_of_sameHead {field other : Field} (h : field.SameHead other) : planner.asked entity other =
    Option.map (fun group : FieldGroup => { group with field := other }) <$> planner.asked entity field := by
  have hscope : planner.scopeOf entity other = planner.scopeOf entity field := by
    rw [scopeOf, scopeOf, h.typeCondition]
  unfold asked
  rw [hscope, ← h.name, ← h.resultKey]
  cases planner.scopeOf entity field with
  | error e => rfl
  | ok scope =>
    rw [Result.ok_bind, Result.ok_bind]
    cases scope.relationship? field.name <;> cases scope.isSubtypeOf entity.name <;>
      cases entity.isSubtypeOf scope.name <;> rfl

/-- A field asks for a group of its own. -/
theorem group_of_asked {field : Field} {group : FieldGroup} (h : planner.asked entity field = .ok (some group)) :
    group.resultKey = field.resultKey ∧ group.field = field ∧ group.others = [] := by
  obtain ⟨scope, _, h⟩ := Result.bind_eq_ok.mp h
  split at h
  · cases h
  · obtain ⟨relationship, _, rfl⟩ := Option.map_eq_some_iff.mp (Except.ok.inj h)
    exact ⟨rfl, rfl, rfl⟩

end Planner

/-! ## Groups that correspond -/

namespace FieldGroup

/-- Two groups of one relationship for the same types under the same result key, with related fields. -/
structure Matches (R : List Field → List Field → Prop) (group other : FieldGroup) : Prop where
  resultKey : group.resultKey = other.resultKey
  relationship : group.relationship = other.relationship
  onlyOnTypes : group.onlyOnTypes = other.onlyOnTypes
  fields : R group.fields other.fields

variable {R : List Field → List Field → Prop} {groups others : List FieldGroup} {new next : FieldGroup}

/-- A group that is added to corresponding groups joins corresponding ones. -/
theorem matches_add (hnew : Matches R new next)
    (hsnoc : ∀ fields fields', R fields fields' → R (fields ++ [new.field]) (fields' ++ [next.field]))
    (hgroups : List.Forall₂ (Matches R) groups others) :
    List.Forall₂ (Matches R) (FieldGroup.add groups new) (FieldGroup.add others next) := by
  induction hgroups with
  | nil => exact .cons hnew .nil
  | cons hfirst hrest ih =>
    rw [FieldGroup.add, FieldGroup.add, ← hfirst.resultKey, ← hfirst.onlyOnTypes, ← hnew.resultKey, ← hnew.onlyOnTypes]
    split
    · exact .cons ⟨rfl, hfirst.relationship, rfl, hsnoc _ _ hfirst.fields⟩ hrest
    · exact .cons hfirst ih

theorem matches_refl (hR : ∀ fields, R fields fields) : ∀ groups : List FieldGroup,
    List.Forall₂ (Matches R) groups groups
  | [] => .nil
  | group :: rest => .cons ⟨rfl, rfl, rfl, hR group.fields⟩ (matches_refl hR rest)

/-- When the group that a new one joins is there, a group of another result key may be added before or after it. -/
theorem add_add_comm (hne : new.resultKey ≠ next.resultKey) : ∀ {groups : List FieldGroup},
    (∃ group ∈ groups, group.joins next = true) →
      FieldGroup.add (FieldGroup.add groups new) next = FieldGroup.add (FieldGroup.add groups next) new
  | [], h => by
    obtain ⟨_, hmem, _⟩ := h
    cases hmem
  | first :: rest, h => by
    rw [FieldGroup.add, FieldGroup.add]
    by_cases hnew : first.resultKey = new.resultKey ∧ first.onlyOnTypes = new.onlyOnTypes
    · have hnext : ¬ (first.resultKey = next.resultKey ∧ first.onlyOnTypes = next.onlyOnTypes) :=
        fun hnext => hne (hnew.1.symm.trans hnext.1)
      rw [if_pos hnew, if_neg hnext, FieldGroup.add, FieldGroup.add, if_pos hnew, if_neg hnext]
    · by_cases hnext : first.resultKey = next.resultKey ∧ first.onlyOnTypes = next.onlyOnTypes
      · rw [if_neg hnew, if_pos hnext, FieldGroup.add, FieldGroup.add, if_neg hnew, if_pos hnext]
      · rw [if_neg hnew, if_neg hnext, FieldGroup.add, FieldGroup.add, if_neg hnew, if_neg hnext]
        obtain ⟨group, hgroup, hjoins⟩ := h
        rcases List.mem_cons.mp hgroup with rfl | hgroup
        · exact absurd (joins_iff.mp hjoins) hnext
        · rw [add_add_comm hne ⟨group, hgroup, hjoins⟩]

/-- Where a group joins another one or is added to, some group of the result key and types is there. -/
theorem exists_joins_add : ∀ {groups : List FieldGroup},
    (new.joins next = true ∨ ∃ group ∈ groups, group.joins next = true) →
      ∃ group ∈ FieldGroup.add groups new, group.joins next = true
  | [], h => ⟨new, List.mem_singleton_self new, h.resolve_right (by simp)⟩
  | first :: rest, h => by
    rw [FieldGroup.add]
    split
    · rename_i hfirst
      rcases h with hnew | ⟨group, hgroup, hjoins⟩
      · rw [joins_iff] at hnew
        exact ⟨_, List.mem_cons_self, joins_iff.mpr ⟨hfirst.1.trans hnew.1, hfirst.2.trans hnew.2⟩⟩
      · rcases List.mem_cons.mp hgroup with rfl | hgroup
        · exact ⟨_, List.mem_cons_self, hjoins⟩
        · exact ⟨group, List.mem_cons_of_mem _ hgroup, hjoins⟩
    · by_cases hjoins : first.joins next = true
      · exact ⟨first, List.mem_cons_self, hjoins⟩
      · have hrest : new.joins next = true ∨ ∃ group ∈ rest, group.joins next = true := by
          refine h.imp_right ?_
          rintro ⟨group, hgroup, hgroupJoins⟩
          rcases List.mem_cons.mp hgroup with rfl | hgroup
          · exact absurd hgroupJoins hjoins
          · exact ⟨group, hgroup, hgroupJoins⟩
        obtain ⟨group, hgroup, hgroupJoins⟩ := exists_joins_add hrest
        exact ⟨group, List.mem_cons_of_mem _ hgroup, hgroupJoins⟩

end FieldGroup

/-- Two fields next to each other, and one field with both selections in their place. -/
inductive Field.Joins (field repeated : Field) : List Field → List Field → Prop
  | same (fields : List Field) : Joins field repeated fields fields
  | joined (before after : List Field) :
    Joins field repeated (before ++ field :: repeated :: after) (before ++ field.joined repeated :: after)

/-- One group for a field with both selections is added where two groups would be, one after the other. -/
theorem FieldGroup.matches_add_add {field repeated : Field} {new : FieldGroup} (hfield : new.field = field)
    (hothers : new.others = []) : ∀ groups : List FieldGroup,
      List.Forall₂ (Matches (Field.Joins field repeated))
        (FieldGroup.add (FieldGroup.add groups new) { new with field := repeated })
        (FieldGroup.add groups { new with field := field.joined repeated })
  | [] => by
    rw [FieldGroup.add, FieldGroup.add, FieldGroup.add, if_pos ⟨rfl, rfl⟩]
    refine .cons ⟨rfl, rfl, rfl, ?_⟩ .nil
    rw [FieldGroup.fields, FieldGroup.fields, hfield, hothers]
    exact .joined [] []
  | group :: rest => by
    rw [FieldGroup.add, FieldGroup.add]
    split
    · rename_i hjoins
      rw [FieldGroup.add, if_pos hjoins]
      refine .cons ⟨rfl, rfl, rfl, ?_⟩ (matches_refl .same rest)
      rw [FieldGroup.fields, FieldGroup.fields, hfield, List.append_assoc]
      exact .joined (group.field :: group.others) []
    · rename_i hjoins
      rw [FieldGroup.add, if_neg hjoins]
      exact .cons ⟨rfl, rfl, rfl, .same group.fields⟩ (matches_add_add hfield hothers rest)

namespace Planner

variable {planner : Planner} {entity : EntityType} {groups others : List FieldGroup}

section Alike

variable {H : Field → Field → Prop} {R : List Field → List Field → Prop} (hhead : ∀ x y, H x y → x.SameHead y)
  (hone : ∀ x y, H x y → R [x] [y])
  (hsnoc : ∀ x y fields fields', H x y → R fields fields' → R (fields ++ [x]) (fields' ++ [y]))

include hhead hone hsnoc

theorem alike_addField {x y : Field} (hxy : H x y)
    (hgroups : List.Forall₂ (FieldGroup.Matches R) groups others) :
    Result.Alike (List.Forall₂ (FieldGroup.Matches R)) (planner.addField entity groups x)
      (planner.addField entity others y) := by
  rw [addField_eq, addField_eq, asked_of_sameHead (hhead x y hxy)]
  cases hasked : planner.asked entity x with
  | error e => exact .error e
  | ok new =>
    cases new with
    | none => exact .ok hgroups
    | some new =>
      obtain ⟨_, hfield, hothers⟩ := group_of_asked hasked
      have hnew : FieldGroup.Matches R new { new with field := y } := by
        refine ⟨rfl, rfl, rfl, ?_⟩
        rw [FieldGroup.fields, FieldGroup.fields, hfield, hothers]
        exact hone x y hxy
      refine .ok (FieldGroup.matches_add hnew (fun fields fields' hfields => ?_) hgroups)
      rw [hfield]
      exact hsnoc x y fields fields' hxy hfields

/-- Selections with the same heads have corresponding groups, or none for the same reason. -/
theorem alike_foldlM : ∀ {selection selection' : List Field} {groups others : List FieldGroup},
    List.Forall₂ H selection selection' → List.Forall₂ (FieldGroup.Matches R) groups others →
      Result.Alike (List.Forall₂ (FieldGroup.Matches R)) (selection.foldlM (planner.addField entity) groups)
        (selection'.foldlM (planner.addField entity) others)
  | [], [], _, _, .nil, hgroups => .ok hgroups
  | x :: rest, y :: rest', _, _, .cons hxy hrest, hgroups => by
    rw [List.foldlM_cons, List.foldlM_cons]
    exact (alike_addField hhead hone hsnoc hxy hgroups).bind fun _ _ h => alike_foldlM hrest h

end Alike

/-- Selections whose fields correspond one by one have groups whose fields do, or none for the same reason. -/
theorem alike_groups {H : Field → Field → Prop} (hhead : ∀ x y, H x y → x.SameHead y)
    {selection selection' : List Field} (h : List.Forall₂ H selection selection') :
    Result.Alike (List.Forall₂ (FieldGroup.Matches (List.Forall₂ H))) (planner.groups entity selection)
      (planner.groups entity selection') := by
  refine alike_foldlM hhead (fun _ _ hxy => .cons hxy .nil) (fun _ _ _ _ hxy hfields => ?_) h .nil
  exact List.rel_append hfields (.cons hxy .nil)

/-- Fields of other result keys are added before or after a group that joins an earlier one. -/
theorem foldlM_add_comm {next : FieldGroup} : ∀ {fields : List Field} {groups : List FieldGroup},
    (∀ field ∈ fields, field.resultKey ≠ next.resultKey) → (∃ group ∈ groups, group.joins next = true) →
      (fields.foldlM (planner.addField entity) groups >>= fun groups => .ok (FieldGroup.add groups next)) =
        fields.foldlM (planner.addField entity) (FieldGroup.add groups next)
  | [], groups, _, _ => rfl
  | field :: rest, groups, hkeys, hthere => by
    obtain ⟨hkey, hrest⟩ := List.forall_mem_cons.mp hkeys
    rw [List.foldlM_cons, List.foldlM_cons, addField_eq, addField_eq]
    cases hasked : planner.asked entity field with
    | error e => rfl
    | ok new =>
      cases new with
      | none => exact foldlM_add_comm hrest hthere
      | some new =>
        obtain ⟨hnew, _, _⟩ := group_of_asked hasked
        have hne : new.resultKey ≠ next.resultKey := hnew ▸ hkey
        rw [Result.map_ok, Result.map_ok, Result.ok_bind, Result.ok_bind, Option.elim_some, Option.elim_some,
          ← FieldGroup.add_add_comm hne hthere]
        exact foldlM_add_comm hrest (FieldGroup.exists_joins_add (.inr hthere))

/-- Groups stay corresponding while the same fields are added to them. -/
theorem alike_foldlM_joins {field repeated : Field} (hgroups :
    List.Forall₂ (FieldGroup.Matches (Field.Joins field repeated)) groups others) (fields : List Field) :
    Result.Alike (List.Forall₂ (FieldGroup.Matches (Field.Joins field repeated)))
      (fields.foldlM (planner.addField entity) groups) (fields.foldlM (planner.addField entity) others) := by
  refine alike_foldlM (H := Eq) (fun x y hxy => hxy ▸ .refl x) (fun x y hxy => hxy ▸ .same [x]) ?_
    (List.forall₂_eq_eq_eq ▸ rfl) hgroups
  rintro x _ fields fields' rfl hfields
  cases hfields with
  | same => exact .same _
  | joined before after =>
    rw [List.append_assoc, List.append_assoc]
    exact .joined before (after ++ [x])

theorem foldlM_repeated_property {repeated : Field} (hasked : planner.asked entity repeated = .ok none)
    (between after : List Field) (groups : List FieldGroup) :
    (between ++ repeated :: after).foldlM (planner.addField entity) groups =
      (between ++ after).foldlM (planner.addField entity) groups := by
  rw [List.foldlM_append, List.foldlM_append]
  refine congrArg (_ >>= ·) (funext fun groups => ?_)
  rw [List.foldlM_cons, addField_eq, hasked]
  rfl

/-- A field that joins an earlier group may be added before the fields of other result keys. -/
theorem foldlM_repeated {repeated : Field} {next : FieldGroup}
    (hasked : planner.asked entity repeated = .ok (some next)) {between : List Field}
    (hbetween : ∀ field ∈ between, field.resultKey ≠ next.resultKey) (after : List Field)
    (hthere : ∃ group ∈ groups, group.joins next = true) :
    (between ++ repeated :: after).foldlM (planner.addField entity) groups =
      (between ++ after).foldlM (planner.addField entity) (FieldGroup.add groups next) := by
  rw [List.foldlM_append, List.foldlM_append, ← foldlM_add_comm hbetween hthere, bind_assoc]
  refine congrArg (_ >>= ·) (funext fun groups => ?_)
  rw [List.foldlM_cons, addField_eq, hasked]
  rfl

/-- What is added by a field, fields of other result keys, one that repeats the field, and more fields is added by the
field with both selections and the other fields. -/
theorem alike_foldlM_joined {field repeated : Field} (h : field.SameHead repeated) {between : List Field}
    (hbetween : ∀ other ∈ between, other.resultKey ≠ field.resultKey) (after : List Field) (groups : List FieldGroup) :
    Result.Alike (List.Forall₂ (FieldGroup.Matches (Field.Joins field repeated)))
      ((field :: between ++ repeated :: after).foldlM (planner.addField entity) groups)
      ((field.joined repeated :: between ++ after).foldlM (planner.addField entity) groups) := by
  have hjoined : planner.asked entity (field.joined repeated) = _ :=
    asked_of_sameHead (Field.sameHead_withSelection field (field.selection ++ repeated.selection))
  have hrepeated : planner.asked entity repeated = _ := asked_of_sameHead h
  rw [List.cons_append, List.cons_append, List.foldlM_cons, List.foldlM_cons, addField_eq, addField_eq, hjoined]
  cases hasked : planner.asked entity field with
  | error e => exact .error e
  | ok new =>
    rw [hasked] at hrepeated
    cases new with
    | none =>
      show Result.Alike _ ((between ++ repeated :: after).foldlM _ groups) ((between ++ after).foldlM _ groups)
      rw [foldlM_repeated_property hrepeated]
      exact alike_foldlM_joins (FieldGroup.matches_refl .same groups) (between ++ after)
    | some new =>
      obtain ⟨hkey, hfield, hothers⟩ := group_of_asked hasked
      have hthere : ∃ group ∈ FieldGroup.add groups new, group.joins { new with field := repeated } = true :=
        FieldGroup.exists_joins_add (.inl (FieldGroup.joins_iff.mpr ⟨rfl, rfl⟩))
      show Result.Alike _ ((between ++ repeated :: after).foldlM _ (FieldGroup.add groups new))
        ((between ++ after).foldlM _ (FieldGroup.add groups { new with field := field.joined repeated }))
      rw [foldlM_repeated hrepeated (fun other hother => hkey ▸ hbetween other hother) after hthere]
      exact alike_foldlM_joins (FieldGroup.matches_add_add hfield hothers groups) (between ++ after)

/-- A field that repeats an earlier one, with no field of its result key between them, may be joined with it. -/
theorem alike_groups_joined {field repeated : Field} (h : field.SameHead repeated) {between : List Field}
    (hbetween : ∀ other ∈ between, other.resultKey ≠ field.resultKey) (before after : List Field) :
    Result.Alike (List.Forall₂ (FieldGroup.Matches (Field.Joins field repeated)))
      (planner.groups entity (before ++ field :: between ++ repeated :: after))
      (planner.groups entity (before ++ field.joined repeated :: between ++ after)) := by
  unfold groups
  rw [List.append_assoc, List.append_assoc, List.foldlM_append, List.foldlM_append]
  cases before.foldlM (planner.addField entity) [] with
  | error e => exact .error e
  | ok groups => exact alike_foldlM_joined h hbetween after groups

end Planner

end GraphQuery
