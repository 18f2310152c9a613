import GraphQuery.Proofs.Schema.Named
import Mathlib.Logic.Relation

/-!
# The lineage of a type

The lineage of a type has exactly the types that the declared supertypes lead to (`Schema.mem_ascend`). So in a schema
that was built the types above a type are closed under going up (`Schema.Flattens.isSubtypeOf_iff`), and a type has a
relationship under every name under which a type above it has one (`Schema.Flattens.inherits`). Relationships end at
types of the schema (`Schema.Flattens.target`).
-/

namespace GraphQuery
namespace Schema

/-! ## Going up -/

/-- Whether the second type is among the supertypes that the first is declared with. -/
def DeclaredBelow (decls : Table EntityDecl) (name supertype : String) : Prop :=
  ∃ decl, List.lookup name decls = some decl ∧ supertype ∈ decl.supertypes

section Ascending

variable {decls : Table EntityDecl}

/-- Whatever lies above several types is found by extending a lineage with each of them in turn. -/
theorem mem_foldlM_ascend (decls : Table EntityDecl) {step : List String → String → Result (List String)}
    (hstep : ∀ supertype found result, step found supertype = .ok result →
      (∀ x, Relation.ReflTransGen (DeclaredBelow decls) supertype x → (List.lookup x decls).isSome = true) ∧
        ∀ x, x ∈ result ↔ x ∈ found ∨ Relation.ReflTransGen (DeclaredBelow decls) supertype x) :
    ∀ {supertypes found result : List String}, supertypes.foldlM step found = .ok result →
      (∀ supertype ∈ supertypes, ∀ x, Relation.ReflTransGen (DeclaredBelow decls) supertype x →
        (List.lookup x decls).isSome = true) ∧
      ∀ x, x ∈ result ↔
        x ∈ found ∨ ∃ supertype ∈ supertypes, Relation.ReflTransGen (DeclaredBelow decls) supertype x
  | [], found, result, h => by
    cases h
    simp
  | supertype :: rest, found, result, h => by
    rw [List.foldlM_cons] at h
    obtain ⟨middle, hmiddle, h⟩ := Result.bind_eq_ok.mp h
    obtain ⟨hdeclared, hmem⟩ := hstep supertype found middle hmiddle
    obtain ⟨hdeclaredRest, hmemRest⟩ := mem_foldlM_ascend decls hstep h
    refine ⟨List.forall_mem_cons.mpr ⟨hdeclared, hdeclaredRest⟩, fun x => ?_⟩
    rw [hmemRest, hmem, or_assoc, List.exists_mem_cons_iff]

/-- A lineage is extended by exactly what the declared supertypes of a type lead to, and all of it is declared. -/
theorem mem_ascend : ∀ {fuel : Nat} {name : String} {path found result : List String},
    ascend decls fuel name path found = .ok result →
      (∀ x, Relation.ReflTransGen (DeclaredBelow decls) name x → (List.lookup x decls).isSome = true) ∧
        ∀ x, x ∈ result ↔ x ∈ found ∨ Relation.TransGen (DeclaredBelow decls) name x
  | 0, _, _, _, _, h => by cases h
  | fuel + 1, name, path, found, result, h => by
    rw [ascend] at h
    cases hdecl : List.lookup name decls with
    | none =>
      rw [hdecl] at h
      cases h
    | some decl =>
      simp only [hdecl] at h
      have hbelow : ∀ supertype, DeclaredBelow decls name supertype ↔ supertype ∈ decl.supertypes := by
        intro supertype
        simp [DeclaredBelow, hdecl]
      obtain ⟨hdeclared, hmem⟩ := mem_foldlM_ascend decls (fun supertype found result hstep => by
        split at hstep
        · cases hstep
        · obtain ⟨hdeclared, hmem⟩ := mem_ascend hstep
          refine ⟨hdeclared, fun x => ?_⟩
          rw [hmem, Relation.reflTransGen_iff_eq_or_transGen]
          split
          · rename_i hfound
            constructor
            · exact fun hx => hx.imp_right .inr
            · rintro (hx | rfl | hx)
              · exact .inl hx
              · exact .inl hfound
              · exact .inr hx
          · rw [List.mem_append, List.mem_singleton, or_assoc]) h
      constructor
      · intro x hx
        rcases Relation.ReflTransGen.cases_head hx with rfl | ⟨supertype, hsupertype, hx⟩
        · rw [hdecl]
          rfl
        · exact hdeclared supertype ((hbelow supertype).mp hsupertype) x hx
      · intro x
        simp only [hmem, Relation.TransGen.head'_iff, hbelow]

end Ascending

/-! ## Members -/

section Members

variable {decls : Table EntityDecl} {name : String}

/-- Adding inherited members adds their names. -/
theorem exists_addMembers {α : Type} {nameOf : α → String} : ∀ {inherited members : List α},
    (∃ m ∈ addMembers nameOf members inherited, nameOf m = name) ↔
      (∃ m ∈ members, nameOf m = name) ∨ ∃ m ∈ inherited, nameOf m = name
  | [], members => by simp [addMembers]
  | first :: rest, members => by
    have ih : ∀ members, (∃ m ∈ addMembers nameOf members rest, nameOf m = name) ↔
        (∃ m ∈ members, nameOf m = name) ∨ ∃ m ∈ rest, nameOf m = name := fun _ => exists_addMembers
    rw [addMembers, List.foldl_cons, ← addMembers, ih, List.exists_mem_cons_iff]
    split
    · rename_i htaken
      obtain ⟨m, hm, hname⟩ := List.any_eq_true.mp htaken
      have hsame : nameOf m = nameOf first := of_decide_eq_true hname
      constructor
      · exact fun h => h.imp_right .inr
      · rintro (h | heq | h)
        · exact .inl h
        · exact .inl ⟨m, hm, hsame.trans heq⟩
        · exact .inr h
    · simp only [List.mem_append, List.mem_singleton, or_and_right, exists_or, exists_eq_left, or_assoc]

theorem exists_foldl_addMembers {α β : Type} {nameOf : α → String} {membersOf : β → List α} :
    ∀ {parents : List β} {members : List α},
      (∃ m ∈ parents.foldl (fun ms parent => addMembers nameOf ms (membersOf parent)) members, nameOf m = name) ↔
        (∃ m ∈ members, nameOf m = name) ∨ ∃ parent ∈ parents, ∃ m ∈ membersOf parent, nameOf m = name
  | [], members => by simp
  | parent :: rest, members => by
    rw [List.foldl_cons, exists_foldl_addMembers, exists_addMembers, List.exists_mem_cons_iff, or_assoc]

theorem relationship_isSome {entity : EntityType} :
    (entity.relationship? name).isSome = true ↔ ∃ r ∈ entity.relationships, r.name = name := by
  simp [EntityType.relationship?, List.find?_isSome]

/-- What flattening makes of a declaration. -/
theorem flatten_eq_ok {decl : EntityDecl} {above : List String} {entity : EntityType}
    (h : flatten decls decl above = .ok entity) :
    entity.name = decl.name ∧ entity.ancestors = sortNames above ∧
      (∀ name, (entity.relationship? name).isSome = true ↔ (∃ r ∈ decl.relationships, r.name = name) ∨
        ∃ x ∈ above, ∃ parent, List.lookup x decls = some parent ∧ ∃ r ∈ parent.relationships, r.name = name) ∧
      ∀ r ∈ entity.relationships, (List.lookup r.target decls).isSome = true := by
  unfold flatten at h
  simp only at h
  split at h
  · cases h
  · rename_i htargets
    obtain ⟨_, _, h⟩ := Result.bind_eq_ok.mp h
    cases h
    refine ⟨rfl, rfl, fun name => ?_, fun r hr => ?_⟩
    · rw [relationship_isSome, exists_foldl_addMembers]
      simp only [List.mem_filterMap]
      refine or_congr Iff.rfl ⟨?_, ?_⟩
      · rintro ⟨parent, ⟨x, hx, hparent⟩, hr⟩
        exact ⟨x, hx, parent, hparent, hr⟩
      · rintro ⟨x, hx, parent, hparent, hr⟩
        exact ⟨parent, ⟨x, hx, hparent⟩, hr⟩
    · have hnone := List.find?_eq_none.mp htargets r hr
      rwa [Bool.not_eq_true, Option.isNone_eq_false_iff] at hnone

end Members

/-! ## Built schemas -/

theorem names_mapEntriesM {α β : Type} {f : α → Result β} : ∀ {table : Table α} {mapped : Table β},
    mapEntriesM f table = .ok mapped → mapped.map (·.1) = table.map (·.1)
  | [], mapped, h => by
    cases h
    rfl
  | (name, x) :: rest, mapped, h => by
    rw [mapEntriesM, List.mapM_cons] at h
    obtain ⟨first, hfirst, h⟩ := Result.bind_eq_ok.mp h
    obtain ⟨others, hothers, h⟩ := Result.bind_eq_ok.mp h
    obtain ⟨y, _, hfirst⟩ := Result.bind_eq_ok.mp hfirst
    cases hfirst
    cases h
    rw [List.map_cons, List.map_cons, names_mapEntriesM hothers]

theorem sorted_iff_names {α : Type} {table : Table α} : Table.Sorted table ↔ (table.map (·.1)).Pairwise (· < ·) :=
  List.pairwise_map.symm

theorem sorted_of_gather {decls : List EntityDecl} {table : Table EntityDecl} (h : gather decls = .ok table) :
    Table.Sorted table := by
  refine Result.foldlM_induct (P := Table.Sorted) h .nil fun table decl table' _ htable hstep => ?_
  split at hstep
  · cases hstep
  · split at hstep
    · cases hstep
    · cases hstep
      exact Table.sorted_insert htable _ _

/-- A schema with the flattened types of a table of declarations. -/
structure Flattens (decls : Table EntityDecl) (schema : Schema) : Prop where
  named : schema.Named
  sorted : Table.Sorted schema.entities
  /-- Every type is a declaration flattened over its lineage. -/
  flat : ∀ name entity, schema.entity? name = some entity → ∃ decl above, List.lookup name decls = some decl ∧
    lineage decls name = .ok above ∧ flatten decls decl above = .ok entity
  /-- Every declaration is flattened. -/
  declared : ∀ name, (List.lookup name decls).isSome = true → ∃ entity, schema.entity? name = some entity

/-- What flattening makes of the declarations that were gathered. -/
theorem flattens_of_mapEntriesM {decls : List EntityDecl} {table : Table EntityDecl}
    {lineages : Table (EntityDecl × List String)} {entities : Table EntityType} (htable : gather decls = .ok table)
    (hlineages : mapEntriesM (fun decl => do return (decl, ← lineage table decl.name)) table = .ok lineages)
    (hentities : mapEntriesM (fun (decl, above) => flatten table decl above) lineages = .ok entities) :
    Flattens table ⟨entities⟩ := by
  have hsorted := sorted_of_gather htable
  have hnames : entities.map (·.1) = table.map (·.1) :=
    (names_mapEntriesM hentities).trans (names_mapEntriesM hlineages)
  have hsortedEntities : Table.Sorted entities := by
    rw [sorted_iff_names, hnames]
    exact sorted_iff_names.mp hsorted
  have hflat : ∀ name entity, List.lookup name entities = some entity → ∃ decl above,
      List.lookup name table = some decl ∧ lineage table name = .ok above ∧
        flatten table decl above = .ok entity ∧ decl.name = name := by
    intro name entity hentity
    obtain ⟨⟨decl, above⟩, hmem, hflatten⟩ := mem_of_mapEntriesM hentities _ (Table.mem_of_lookup hentity)
    obtain ⟨other, hother, hlineage⟩ := mem_of_mapEntriesM hlineages _ hmem
    obtain ⟨_, hlineage, heq⟩ := Result.bind_eq_ok.mp hlineage
    cases heq
    have hdecl : decl.name = name := name_of_gather htable _ hother
    exact ⟨decl, above, (Table.lookup_eq_some_iff hsorted).mpr hother, hdecl ▸ hlineage, hflatten, hdecl⟩
  refine ⟨fun name entity hentity => ?_, hsortedEntities, fun name entity hentity => ?_, fun name hname => ?_⟩
  · obtain ⟨decl, above, _, _, hflatten, hdecl⟩ := hflat name entity hentity
    exact (name_of_flatten hflatten).trans hdecl
  · obtain ⟨decl, above, hdecl, hlineage, hflatten, _⟩ := hflat name entity hentity
    exact ⟨decl, above, hdecl, hlineage, hflatten⟩
  · obtain ⟨decl, hdecl⟩ := Option.isSome_iff_exists.mp hname
    have hmem : name ∈ entities.map (·.1) := by
      rw [hnames]
      exact List.mem_map.mpr ⟨_, Table.mem_of_lookup hdecl, rfl⟩
    obtain ⟨⟨_, entity⟩, hentity, rfl⟩ := List.mem_map.mp hmem
    exact ⟨entity, (Table.lookup_eq_some_iff hsortedEntities).mpr hentity⟩

/-- A schema that was built has the flattened types of the declarations that were gathered. -/
theorem gather_of_build {decls : List EntityDecl} {schema : Schema} (h : build decls = .ok schema) :
    ∃ table, gather decls = .ok table ∧ Flattens table schema := by
  obtain ⟨table, htable, h⟩ := Result.bind_eq_ok.mp h
  obtain ⟨lineages, hlineages, h⟩ := Result.bind_eq_ok.mp h
  obtain ⟨entities, hentities, h⟩ := Result.bind_eq_ok.mp h
  obtain ⟨_, _, h⟩ := Result.bind_eq_ok.mp h
  cases h
  exact ⟨table, htable, flattens_of_mapEntriesM htable hlineages hentities⟩

theorem flattens_of_build {decls : List EntityDecl} {schema : Schema} (h : build decls = .ok schema) :
    ∃ table, Flattens table schema := by
  obtain ⟨table, _, hflattens⟩ := gather_of_build h
  exact ⟨table, hflattens⟩

namespace Flattens

variable {decls : Table EntityDecl} {schema : Schema} (h : Flattens decls schema)
  {name : String} {entity middle above : EntityType}

include h

/-- A type lies below exactly those types that its declared supertypes lead to. -/
theorem isSubtypeOf_iff (hentity : schema.entity? name = some entity) (other : String) :
    entity.isSubtypeOf other = true ↔ Relation.ReflTransGen (DeclaredBelow decls) name other := by
  obtain ⟨decl, above, hdecl, hlineage, hflatten⟩ := h.flat name entity hentity
  obtain ⟨_, hancestors, _, _⟩ := flatten_eq_ok hflatten
  rw [EntityType.isSubtypeOf, h.named name entity hentity, hancestors, Relation.reflTransGen_iff_eq_or_transGen,
    Bool.or_eq_true, decide_eq_true_eq, List.contains_iff_mem, mem_sortNames, (mem_ascend hlineage).2]
  simp [eq_comm]

/-- Lying below is transitive. -/
theorem isSubtypeOf_trans {between : String} (hentity : schema.entity? name = some entity)
    (hmiddle : schema.entity? between = some middle) (hbelow : entity.isSubtypeOf between = true) {other : String}
    (hother : middle.isSubtypeOf other = true) : entity.isSubtypeOf other = true :=
  (h.isSubtypeOf_iff hentity other).mpr
    (((h.isSubtypeOf_iff hentity between).mp hbelow).trans ((h.isSubtypeOf_iff hmiddle other).mp hother))

/-- A type has relationships under the names under which it or a type above it declares them. -/
theorem relationship_isSome_iff (hentity : schema.entity? name = some entity) (key : String) :
    (entity.relationship? key).isSome = true ↔ ∃ x, Relation.ReflTransGen (DeclaredBelow decls) name x ∧
      ∃ decl, List.lookup x decls = some decl ∧ ∃ r ∈ decl.relationships, r.name = key := by
  obtain ⟨decl, above, hdecl, hlineage, hflatten⟩ := h.flat name entity hentity
  obtain ⟨_, _, hrelationships, _⟩ := flatten_eq_ok hflatten
  have hmem : ∀ x, x ∈ above ↔ Relation.TransGen (DeclaredBelow decls) name x := fun x => by
    simp [(mem_ascend hlineage).2]
  rw [hrelationships]
  simp only [hmem, Relation.reflTransGen_iff_eq_or_transGen, or_and_right, exists_or, exists_eq_left, hdecl,
    Option.some.injEq, exists_eq_left']

/-- A type has a relationship under every name under which a type above it has one. -/
theorem inherits {upper key : String} (hentity : schema.entity? name = some entity)
    (habove : schema.entity? upper = some above) (hbelow : entity.isSubtypeOf upper = true) {r : RelationshipDef}
    (hr : above.relationship? key = some r) : ∃ r', entity.relationship? key = some r' := by
  have hsome : (above.relationship? key).isSome = true := by
    rw [hr]
    rfl
  obtain ⟨x, hx, hdeclares⟩ := (h.relationship_isSome_iff habove key).mp hsome
  have hup : Relation.ReflTransGen (DeclaredBelow decls) name x :=
    ((h.isSubtypeOf_iff hentity upper).mp hbelow).trans hx
  exact Option.isSome_iff_exists.mp ((h.relationship_isSome_iff hentity key).mpr ⟨x, hup, hdeclares⟩)

/-- Relationships end at types of the schema. -/
theorem target {key : String} (hentity : schema.entity? name = some entity) {r : RelationshipDef}
    (hr : entity.relationship? key = some r) : ∃ target, schema.entity r.target = .ok target := by
  obtain ⟨_, _, _, _, hflatten⟩ := h.flat name entity hentity
  obtain ⟨_, _, _, htargets⟩ := flatten_eq_ok hflatten
  obtain ⟨target, htarget⟩ := h.declared r.target (htargets r (List.mem_of_find?_eq_some hr))
  exact ⟨target, entity_eq_ok.mpr htarget⟩

/-- The concrete types at or below a type. -/
theorem mem_concreteSubtypes {other : String} : name ∈ schema.concreteSubtypes other ↔
    ∃ entity, schema.entity? name = some entity ∧ entity.isAbstract = false ∧ entity.isSubtypeOf other = true := by
  have hlookup : ∀ entity, schema.entity? name = some entity ↔ (name, entity) ∈ schema.entities :=
    fun _ => Table.lookup_eq_some_iff h.sorted
  simp [concreteSubtypes, hlookup]

end Flattens

end Schema

/-! ## An archive -/

namespace Archive

/-- Who wrote a document. -/
def author : RelationshipDef := ⟨"author", "Doc", "Person", "WRITTEN_BY", .outgoing, .one, none⟩

/-- Who edits a document. -/
def editor : RelationshipDef := ⟨"editor", "Doc", "Person", "EDITED_BY", .outgoing, .one, none⟩

/-- Who owns a document. -/
def owner : RelationshipDef := ⟨"owner", "Doc", "Person", "OWNED_BY", .outgoing, .one, none⟩

/-- Who may read a document. -/
def readers : RelationshipDef := ⟨"readers", "Doc", "Person", "READ_BY", .outgoing, .many, none⟩

/-- The agent of a person. -/
def agent : RelationshipDef := ⟨"agent", "Person", "Person", "REPRESENTED_BY", .outgoing, .one, none⟩

/-- The friends of a person. -/
def friends : RelationshipDef := ⟨"friends", "Person", "Person", "KNOWS", .outgoing, .many, none⟩

/-- The rival of a writer. -/
def rival : RelationshipDef := ⟨"rival", "Writer", "Person", "RIVAL_OF", .outgoing, .one, none⟩

/-- The documents of a shelf. -/
def docs : RelationshipDef := ⟨"docs", "Shelf", "Doc", "HOLDS", .outgoing, .many, none⟩

/-- Documents have a title, and some a score. -/
def doc : EntityType :=
  ⟨"Doc", false, [⟨"id", .id, false⟩, ⟨"score", .int, true⟩, ⟨"title", .string, false⟩],
    [author, editor, owner, readers], [], []⟩

/-- Some persons have a name. -/
def person : EntityType :=
  ⟨"Person", false, [⟨"id", .id, false⟩, ⟨"name", .string, true⟩], [agent, friends], [], []⟩

/-- Writers are persons with a rival. -/
def writer : EntityType :=
  ⟨"Writer", false, [⟨"id", .id, false⟩, ⟨"name", .string, true⟩], [rival, agent, friends], ["Person"], []⟩

def shelf : EntityType := ⟨"Shelf", false, [⟨"id", .id, false⟩], [docs], [], []⟩

/-- Documents on shelves, and the persons around them. -/
def schema : Schema := ⟨[("Doc", doc), ("Person", person), ("Shelf", shelf), ("Writer", writer)]⟩

def decls : List EntityDecl :=
  [.declare "Person" false [⟨"name", .string, true⟩] [agent, friends] [] [],
    .declare "Writer" false [] [rival] ["Person"] [],
    .declare "Doc" false [⟨"score", .int, true⟩, ⟨"title", .string, false⟩] [author, editor, owner, readers] [] [],
    .declare "Shelf" false [] [docs] [] []]

theorem build_decls : Schema.build decls = .ok schema := rfl

end Archive
end GraphQuery
