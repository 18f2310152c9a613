import GraphQuery.Proofs.Schema.Precedence

/-!
# When the names of members are unique

A declaration repeats no name. Flattening keeps the names of the properties of a type different, and those of its
relationships, but does not look from one kind to the other: a type has a property and a relationship of one name just
if one type at or above it declares the property and another one the relationship (`Schema.Ambiguous`).
-/

namespace GraphQuery

/-- The names of the properties and relationships of a type, own and inherited. -/
def EntityType.memberNames (entity : EntityType) : List String :=
  entity.properties.map (·.name) ++ entity.relationships.map (·.name)

namespace Schema

variable {decls : List EntityDecl} {name key : String}

/-- Whether one type at or above a type declares a property under a name and another one a relationship. -/
def Ambiguous (decls : List EntityDecl) (name key : String) : Prop :=
  ∃ upper other, upper ≠ other ∧
    (Relation.ReflTransGen (Extends decls) name upper ∧ Declarer decls (·.name) (·.properties) key upper) ∧
    (Relation.ReflTransGen (Extends decls) name other ∧ Declarer decls (·.name) (·.relationships) key other)

/-! ## Members of one kind -/

section Members

variable {α : Type} {nameOf : α → String}

/-- Added members do not repeat a name. -/
theorem nodup_addMembers : ∀ {inherited members : List α}, (members.map nameOf).Nodup →
    ((addMembers nameOf members inherited).map nameOf).Nodup
  | [], _, h => h
  | first :: rest, members, h => by
    rw [addMembers, List.foldl_cons, ← addMembers]
    refine nodup_addMembers ?_
    split
    · exact h
    · rename_i hnew
      have hfresh : nameOf first ∉ members.map nameOf := fun htaken => by
        obtain ⟨m, hm, hname⟩ := List.mem_map.mp htaken
        exact hnew (List.any_eq_true.mpr ⟨m, hm, decide_eq_true hname⟩)
      rw [List.map_append, List.map_singleton]
      exact List.nodup_append.mpr ⟨h, List.pairwise_singleton _ _, fun name hname other hother heq =>
        hfresh (List.mem_singleton.mp hother ▸ heq ▸ hname)⟩

theorem nodup_foldl_addMembers {β : Type} {membersOf : β → List α} : ∀ {parents : List β} {members : List α},
    (members.map nameOf).Nodup →
      ((parents.foldl (fun ms parent => addMembers nameOf ms (membersOf parent)) members).map nameOf).Nodup
  | [], _, h => h
  | parent :: rest, members, h => by
    rw [List.foldl_cons]
    exact nodup_foldl_addMembers (nodup_addMembers h)

end Members

/-! ## Members of both kinds -/

/-- No type declares a property and a relationship of one name. -/
theorem not_declarer_both {table : Table EntityDecl} (htable : gather decls = .ok table)
    (hproperty : Declarer decls (·.name) (·.properties) key name) :
    ¬ Declarer decls (·.name) (·.relationships) key name := by
  obtain ⟨p, decl, hdecl, rfl, hp, hpname⟩ := hproperty
  rintro ⟨r, other, hother, hname, hr, hrname⟩
  cases eq_of_gather htable other hother decl hdecl hname
  have hnodup : (memberNames decl).Nodup := (lookup_gather htable).2 decl hdecl
  exact (List.nodup_append.mp hnodup).2.2 p.name (List.mem_map_of_mem hp) r.name (List.mem_map_of_mem hr)
    (hpname.trans hrname.symm)

/-- Where neither kind repeats a name, all names are different just if none is of both kinds. -/
theorem nodup_memberNames {entity : EntityType} (hproperties : (entity.properties.map (·.name)).Nodup)
    (hrelationships : (entity.relationships.map (·.name)).Nodup) : entity.memberNames.Nodup ↔
      ¬ ∃ key p r, entity.property? key = some p ∧ entity.relationship? key = some r := by
  rw [EntityType.memberNames, List.nodup_append]
  constructor
  · rintro ⟨_, _, hdisjoint⟩ ⟨key, p, r, hp, hr⟩
    have hpkey : p.name = key := by simpa using List.find?_some hp
    have hrkey : r.name = key := by simpa using List.find?_some hr
    exact hdisjoint p.name (List.mem_map_of_mem (List.mem_of_find?_eq_some hp)) r.name
      (List.mem_map_of_mem (List.mem_of_find?_eq_some hr)) (hpkey.trans hrkey.symm)
  · intro hnone
    refine ⟨hproperties, hrelationships, fun key hkey other hother heq => hnone ?_⟩
    subst heq
    obtain ⟨p, hp, rfl⟩ := List.mem_map.mp hkey
    obtain ⟨r, hr, hname⟩ := List.mem_map.mp hother
    refine ⟨p.name, p, r, find?_of_nodup hproperties hp, ?_⟩
    rw [← hname]
    exact find?_of_nodup hrelationships hr

/-- A type has a name of both kinds just if the name is ambiguous. -/
theorem WellFormed.both_iff_ambiguous {table : Table EntityDecl} {schema : Schema} (h : WellFormed decls schema)
    (htable : gather decls = .ok table) {entity : EntityType} (hentity : schema.entity? name = some entity) :
    (∃ p r, entity.property? key = some p ∧ entity.relationship? key = some r) ↔ Ambiguous decls name key := by
  have hproperty : (∃ p, entity.property? key = some p) ↔ ∃ upper,
      Relation.ReflTransGen (Extends decls) name upper ∧ Declarer decls (·.name) (·.properties) key upper :=
    (h.properties name entity hentity).exists_iff
  have hrelationship : (∃ r, entity.relationship? key = some r) ↔ ∃ upper,
      Relation.ReflTransGen (Extends decls) name upper ∧ Declarer decls (·.name) (·.relationships) key upper :=
    (h.relationships name entity hentity).exists_iff
  constructor
  · rintro ⟨p, r, hp, hr⟩
    obtain ⟨upper, hupper⟩ := hproperty.mp ⟨p, hp⟩
    obtain ⟨other, hother⟩ := hrelationship.mp ⟨r, hr⟩
    refine ⟨upper, other, ?_, hupper, hother⟩
    rintro rfl
    exact not_declarer_both htable hupper.2 hother.2
  · rintro ⟨upper, other, _, hupper, hother⟩
    obtain ⟨p, hp⟩ := hproperty.mpr ⟨upper, hupper⟩
    obtain ⟨r, hr⟩ := hrelationship.mpr ⟨other, hother⟩
    exact ⟨p, r, hp, hr⟩

/-- In a built schema the properties of a type have different names, and its relationships do. A name of both kinds is
one that a type at or above it declares as a property and another one as a relationship, so the names of all members
are different just if there is none. -/
theorem nodup_memberNames_iff {schema : Schema} (h : build decls = .ok schema) {entity : EntityType}
    (hentity : schema.entity? name = some entity) :
    (entity.properties.map (·.name)).Nodup ∧ (entity.relationships.map (·.name)).Nodup ∧
      (∀ key, (∃ p r, entity.property? key = some p ∧ entity.relationship? key = some r) ↔ Ambiguous decls name key) ∧
      (entity.memberNames.Nodup ↔ ¬ ∃ key, Ambiguous decls name key) := by
  obtain ⟨table, htable, hflattens⟩ := gather_of_build h
  obtain ⟨decl, above, hdecl, _, hflatten⟩ := hflattens.flat name entity hentity
  obtain ⟨hmem, rfl⟩ := ((lookup_gather htable).1 name decl).mp hdecl
  obtain ⟨hproperties, hrelationships⟩ := members_of_flatten hflatten
  have hown : (memberNames decl).Nodup := (lookup_gather htable).2 decl hmem
  have hp : (entity.properties.map (·.name)).Nodup := by
    rw [hproperties]
    exact nodup_foldl_addMembers (List.nodup_append.mp hown).1
  have hr : (entity.relationships.map (·.name)).Nodup := by
    rw [hrelationships]
    exact nodup_foldl_addMembers (List.nodup_append.mp hown).2.1
  have hboth : ∀ key, (∃ p r, entity.property? key = some p ∧ entity.relationship? key = some r) ↔
      Ambiguous decls decl.name key :=
    fun key => (hflattens.wellFormed htable).both_iff_ambiguous htable hentity
  refine ⟨hp, hr, hboth, ?_⟩
  simp only [nodup_memberNames hp hr, hboth]

/-- An item says who owns it, and a tool leads there. -/
def toolbox : List EntityDecl :=
  [.declare "Person" false [] [] [] [], .declare "Item" true [⟨"owner", .string, true⟩] [] [] [],
    .declare "Tool" false [] [⟨"owner", "", "Person", "OWNS", .incoming, .one, none⟩] ["Item"] []]

/-- A tool has a property and a relationship of one name. -/
theorem nodup_memberNames_iff_toolbox : ∃ schema tool, build toolbox = .ok schema ∧
    schema.entity? "Tool" = some tool ∧ Ambiguous toolbox "Tool" "owner" ∧ ¬ tool.memberNames.Nodup := by
  obtain ⟨schema, tool, hschema, htool, hp, hr⟩ : ∃ schema tool, build toolbox = .ok schema ∧
      schema.entity? "Tool" = some tool ∧ (tool.property? "owner").isSome = true ∧
        (tool.relationship? "owner").isSome = true := ⟨_, _, rfl, rfl, rfl, rfl⟩
  obtain ⟨_, _, hboth, hnodup⟩ := nodup_memberNames_iff hschema htool
  obtain ⟨p, hp⟩ := Option.isSome_iff_exists.mp hp
  obtain ⟨r, hr⟩ := Option.isSome_iff_exists.mp hr
  have hambiguous : Ambiguous toolbox "Tool" "owner" := (hboth "owner").mp ⟨p, r, hp, hr⟩
  exact ⟨schema, tool, hschema, htool, hambiguous, fun hunique => hnodup.mp hunique ⟨_, hambiguous⟩⟩

end Schema
end GraphQuery
