import GraphQuery.Pattern.KnownProperty
import GraphQuery.Proofs.Plan.Fragments

/-!
# Fields under one result key

The part of a level under a result key has one sub-query for every group of its fields, in the order of the groups
(`Planner.headings_of_level`). A group takes its relationship from its first field, and a field joins it by result key
and types alone, so all relationship fields of one key and the same types are answered by one sub-query, over the
relationship that the first of them names (`Planner.Draws.answered_by_first`). A later field is answered with its own
relationship just when that is also the one of the first.
-/

namespace GraphQuery

/-! ## The sub-queries of a part -/

/-- The relationship of a group and the types it is for. -/
def FieldGroup.heading (group : FieldGroup) : RelationshipDef × Option (List String) :=
  (group.relationship, group.onlyOnTypes)

namespace Planner

variable {planner : Planner} {plan : Plan} {entity : EntityType} {selection : List Field} {level : Level}

/-- The relationships and types of the sub-queries under a result key. -/
def headingsUnder (parts : List (String × List (SubQuery Level))) (resultKey : String) :
    List (RelationshipDef × Option (List String)) :=
  ((List.lookup resultKey parts).getD []).map fun sub => (sub.relationship, sub.onlyOnTypes)

theorem headingsUnder_addToPart (parts : List (String × List (SubQuery Level))) (key resultKey : String)
    (sub : SubQuery Level) : headingsUnder (addToPart parts key sub) resultKey =
      headingsUnder parts resultKey ++ if key = resultKey then [(sub.relationship, sub.onlyOnTypes)] else [] := by
  unfold headingsUnder addToPart
  rw [Table.lookup_insert]
  by_cases hkey : resultKey = key
  · subst hkey
    simp
  · simp [hkey, Ne.symm hkey]

theorem headingsUnder_foldlM {nested : FieldGroup → Result Level} (resultKey : String) :
    ∀ {groups : List FieldGroup} {parts parts' : List (String × List (SubQuery Level))},
      groups.foldlM (fun parts group => do
        return addToPart parts group.resultKey ⟨group.relationship, ← nested group, group.onlyOnTypes⟩) parts =
          .ok parts' →
      headingsUnder parts' resultKey =
        headingsUnder parts resultKey ++ (groups.filter (·.resultKey = resultKey)).map (·.heading)
  | [], parts, parts', h => by
    cases h
    simp
  | group :: rest, parts, parts', h => by
    rw [List.foldlM_cons] at h
    obtain ⟨middle, hmiddle, h⟩ := Result.bind_eq_ok.mp h
    obtain ⟨query, _, hmiddle⟩ := Result.bind_eq_ok.mp hmiddle
    cases hmiddle
    rw [headingsUnder_foldlM resultKey h, headingsUnder_addToPart, List.append_assoc, List.filter_cons]
    by_cases hkey : group.resultKey = resultKey <;> simp [hkey, FieldGroup.heading]

/-- The part under a result key has one sub-query for every group of the key, in their order. -/
theorem headings_of_level [PropertyTable] {room : Nat} {options : Options} {cardinality : Cardinality}
    (h : planner.level room entity selection options cardinality = .ok level) :
    ∃ groups, planner.groups entity selection = .ok groups ∧ ∀ resultKey,
      headingsUnder level.parts resultKey = (groups.filter (·.resultKey = resultKey)).map (·.heading) := by
  obtain ⟨nested, hover⟩ := levelOver_of_level h
  obtain ⟨_, groups, parts, _, _, hgroups, hparts, rfl⟩ := levelOver_eq_ok.mp hover
  exact ⟨groups, hgroups, fun resultKey => headingsUnder_foldlM resultKey hparts⟩

/-! ## The first field -/

/-- A field names a relationship for the nodes of some types, under a result key. -/
structure Names (planner : Planner) (entity : EntityType) (resultKey : String) (types : Option (List String))
    (field : Field) (relationship : RelationshipDef) : Prop where
  key : field.resultKey = resultKey
  declared : ∃ scope, planner.scopeOf entity field = .ok scope ∧ scope.relationship? field.name = some relationship ∧
    planner.typesOf entity scope = types

variable {resultKey : String} {types : Option (List String)} {field : Field} {relationship : RelationshipDef}

/-- A field names a relationship when it asks for a group of it. -/
theorem names_iff : planner.Names entity resultKey types field relationship ↔
    planner.groupOf? entity field = some ⟨resultKey, relationship, types, field, []⟩ := by
  rw [groupOf?_eq_some]
  constructor
  · rintro ⟨rfl, scope, hscope, hrelationship, rfl⟩
    exact ⟨scope, relationship, hscope, hrelationship, rfl⟩
  · rintro ⟨scope, _, hscope, hrelationship, h⟩
    cases h
    exact ⟨rfl, scope, hscope, hrelationship, rfl⟩

/-- The first group that is asked for under a result key for some types is that of the first field that names a
relationship for them. -/
theorem names_of_find? {asked first : FieldGroup}
    (h : (selection.filterMap (planner.groupOf? entity)).find? (·.joins asked) = some first) :
    ∃ before after, selection = before ++ first.field :: after ∧
      planner.Names entity asked.resultKey asked.onlyOnTypes first.field first.relationship ∧
      ∀ other ∈ before, ∀ relationship,
        ¬ planner.Names entity asked.resultKey asked.onlyOnTypes other relationship := by
  rw [List.find?_filterMap] at h
  obtain ⟨field, hfield, hgroup⟩ := Option.bind_eq_some_iff.mp h
  obtain ⟨hjoins, before, after, rfl, hbefore⟩ := List.find?_eq_some_iff_append.mp hfield
  rw [hgroup, Option.any_some, FieldGroup.joins_iff] at hjoins
  obtain ⟨scope, relationship, hscope, hrelationship, rfl⟩ := groupOf?_eq_some.mp hgroup
  refine ⟨before, after, rfl, ⟨hjoins.1, scope, hscope, hrelationship, hjoins.2⟩, fun other hother found hnames => ?_⟩
  have hnot := hbefore other hother
  rw [names_iff.mp hnames, Option.any_some] at hnot
  simp [FieldGroup.joins] at hnot

/-- Of the groups of a level there is one that a field has joined, and its relationship is the one of the first field
under the result key for the same types. -/
theorem group_of_field {groups : List FieldGroup} (hgroups : planner.groups entity selection = .ok groups)
    (hfield : field ∈ selection) (hnames : planner.Names entity resultKey types field relationship) :
    ∃ before first after firstRelationship, selection = before ++ first :: after ∧
      planner.Names entity resultKey types first firstRelationship ∧
      (∀ other ∈ before, ∀ relationship, ¬ planner.Names entity resultKey types other relationship) ∧
      ∃ group ∈ groups, group.resultKey = resultKey ∧ group.heading = (firstRelationship, types) := by
  obtain ⟨asked, hasked⟩ : ∃ asked : FieldGroup, asked = ⟨resultKey, relationship, types, field, []⟩ := ⟨_, rfl⟩
  have hmem : asked ∈ selection.filterMap (planner.groupOf? entity) :=
    List.mem_filterMap.mpr ⟨field, hfield, hasked ▸ names_iff.mp hnames⟩
  have hjoined : ∀ a b : FieldGroup, a.joins b = true → a.joins asked = b.joins asked := by
    intro a b hab
    rw [FieldGroup.joins_iff] at hab
    rw [FieldGroup.joins, FieldGroup.joins, hab.1, hab.2]
  have hfind : ((selection.filterMap (planner.groupOf? entity)).foldl FieldGroup.add []).find? _ = _ :=
    FieldGroup.find?_foldl_add hjoined rfl
  rw [← (groups_eq_ok hgroups).1] at hfind
  cases hfirst : (selection.filterMap (planner.groupOf? entity)).find? (·.joins asked) with
  | none => exact absurd (FieldGroup.joins_iff.mpr ⟨rfl, rfl⟩) (List.find?_eq_none.mp hfirst asked hmem)
  | some first =>
    rw [hfirst, Option.map_some] at hfind
    have hfound := List.find?_some hfind
    have hjoins := FieldGroup.joins_iff.mp hfound
    obtain ⟨before, after, hselection, hnames', hbefore⟩ := names_of_find? hfirst
    rw [hasked] at hnames' hbefore hjoins
    exact ⟨before, first.field, after, first.relationship, hselection, hnames', hbefore, _,
      List.mem_of_find?_eq_some hfind, hjoins.1, Prod.ext rfl hjoins.2⟩

/-! ## One sub-query for all of them -/

/-- No other group under the result key of a group is for the same types, so the relationship for these types is that
of the group. -/
theorem mem_headings_iff {groups : List FieldGroup} {group : FieldGroup}
    (hgroups : planner.groups entity selection = .ok groups) (hgroup : group ∈ groups) :
    (relationship, group.onlyOnTypes) ∈ (groups.filter (·.resultKey = group.resultKey)).map (·.heading) ↔
      relationship = group.relationship := by
  rw [List.mem_map]
  constructor
  · rintro ⟨other, hother, hheading⟩
    obtain ⟨hother, hkey⟩ := List.mem_filter.mp hother
    obtain ⟨rfl, htypes⟩ := Prod.mk.inj hheading
    have hjoins : other.joins group = true := FieldGroup.joins_iff.mpr ⟨of_decide_eq_true hkey, htypes⟩
    rw [(apart_of_groups hgroups).eq_of_joins hother hgroup hjoins]
  · rintro rfl
    exact ⟨group, List.mem_filter.mpr ⟨hgroup, decide_eq_true rfl⟩, rfl⟩

/-- A relationship field is answered under its result key by one sub-query for the types of its scope. It leads over
the relationship that the first field of the level names under this key for these types, and so over that of the field
just when the two are one. -/
theorem Draws.answered_by_first [PropertyTable] {scope : EntityType} (h : planner.Draws plan entity selection level)
    (hfield : field ∈ selection) (hscope : planner.scopeOf entity field = .ok scope)
    (hrelationship : scope.relationship? field.name = some relationship) :
    ∃ before first after firstRelationship subs, selection = before ++ first :: after ∧
      planner.Names entity field.resultKey (planner.typesOf entity scope) first firstRelationship ∧
      (∀ other ∈ before, ∀ relationship,
        ¬ planner.Names entity field.resultKey (planner.typesOf entity scope) other relationship) ∧
      level.part? field.resultKey = some subs ∧
      (∀ sub ∈ subs, sub.onlyOnTypes = planner.typesOf entity scope → sub.relationship = firstRelationship) ∧
      (∃ sub ∈ subs, sub.onlyOnTypes = planner.typesOf entity scope ∧ sub.relationship = firstRelationship) ∧
      ((∃ sub ∈ subs, sub.onlyOnTypes = planner.typesOf entity scope ∧ sub.relationship = relationship) ↔
        relationship = firstRelationship) := by
  have hnames : planner.Names entity field.resultKey (planner.typesOf entity scope) field relationship :=
    ⟨rfl, scope, hscope, hrelationship, rfl⟩
  obtain ⟨room, options, cardinality, hplanned⟩ := h.planned
  obtain ⟨groups, hgroups, hheadings⟩ := headings_of_level hplanned
  obtain ⟨before, first, after, firstRelationship, hselection, hfirst, hbefore, group, hgroup, hkey, hheading⟩ :=
    group_of_field hgroups hfield hnames
  obtain ⟨subs, hsubs⟩ := part?_of_asks hplanned hfield (names_iff.mp hnames)
  have hunder : subs.map (fun sub => (sub.relationship, sub.onlyOnTypes)) =
      (groups.filter (·.resultKey = group.resultKey)).map (·.heading) := by
    rw [hkey, ← hheadings, headingsUnder, ← Level.part?, hsubs, Option.getD_some]
  obtain ⟨rfl, htypes⟩ := Prod.mk.inj hheading
  have hanswers : ∀ other, (∃ sub ∈ subs, sub.onlyOnTypes = planner.typesOf entity scope ∧ sub.relationship = other) ↔
      other = group.relationship := by
    intro other
    rw [← mem_headings_iff hgroups hgroup, ← hunder, List.mem_map, htypes]
    simp only [Prod.mk.injEq, and_comm]
  refine ⟨before, first, after, group.relationship, subs, hselection, hfirst, hbefore, hsubs, ?_, ?_, hanswers _⟩
  · intro sub hsub hsame
    exact (hanswers sub.relationship).mp ⟨sub, hsub, hsame, rfl⟩
  · exact (hanswers group.relationship).mpr rfl

/-! ## Owner or editor -/

/-- The owner, called who. -/
def whoOwns : Field := ⟨"owner", some "who", [], none, []⟩

/-- The editor, called who. -/
def whoEdits : Field := ⟨"editor", some "who", [], none, []⟩

/-- Who edits a document is answered with its owner when who owns it is asked before. -/
theorem Draws.answered_by_first_who : ∃ plan subs,
    archive.query "Doc" [whoOwns, whoEdits] .default = .ok plan ∧
    archive.Draws plan Archive.doc [whoOwns, whoEdits] plan.root ∧ plan.root.part? "who" = some subs ∧
    (∃ sub ∈ subs, sub.onlyOnTypes = none ∧ sub.relationship = Archive.owner) ∧
    ¬ ∃ sub ∈ subs, sub.onlyOnTypes = none ∧ sub.relationship = Archive.editor := by
  obtain ⟨plan, hplan⟩ : ∃ plan, archive.query "Doc" [whoOwns, whoEdits] .default = .ok plan := ⟨_, rfl⟩
  have hdraws : archive.Draws plan Archive.doc [whoOwns, whoEdits] plan.root := .query hplan rfl
  obtain ⟨before, first, after, firstRelationship, subs, hselection, hnames, hbefore, hsubs, _, hfirst, heditor⟩ :=
    Draws.answered_by_first hdraws (List.mem_cons_of_mem whoOwns (List.mem_cons_self (a := whoEdits))) rfl rfl
  have howner : archive.Names Archive.doc "who" none whoOwns Archive.owner := ⟨rfl, Archive.doc, rfl, rfl, rfl⟩
  -- no field stands before the one that asks who owns a document
  have hempty : before = [] := by
    cases before with
    | nil => rfl
    | cons other rest =>
      obtain ⟨rfl, _⟩ := List.cons.inj hselection
      exact absurd howner (hbefore _ List.mem_cons_self Archive.owner)
  subst hempty
  obtain ⟨rfl, _⟩ := List.cons.inj hselection
  have hrelationship : firstRelationship = Archive.owner := by
    have hgroup := (names_iff.mp hnames).symm.trans (names_iff.mp howner)
    cases hgroup
    rfl
  subst hrelationship
  exact ⟨plan, subs, hplan, hdraws, hsubs, hfirst, fun h => absurd (heditor.mp h) (by decide)⟩

end Planner

end GraphQuery
