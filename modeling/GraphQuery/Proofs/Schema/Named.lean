import GraphQuery.Proofs.Result
import GraphQuery.Proofs.Table
import GraphQuery.Schema.Build

/-!
# Names in a schema

Every type of a schema that was built stands under its own name (`Schema.named_of_build`). So do the members of a type
(`EntityType.property?_name`, `EntityType.relationship?_name`).
-/

namespace GraphQuery

namespace EntityType

variable {entity : EntityType} {name : String}

theorem property?_name {property : PropertyDef} (h : entity.property? name = some property) : property.name = name := by
  simpa using List.find?_some h

theorem relationship?_name {relationship : RelationshipDef} (h : entity.relationship? name = some relationship) :
    relationship.name = name := by
  simpa using List.find?_some h

end EntityType

namespace Schema

/-- Every type of a schema stands under its own name. -/
def Named (schema : Schema) : Prop := ∀ name entity, schema.entity? name = some entity → entity.name = name

theorem entity_eq_ok {schema : Schema} {name : String} {entity : EntityType} :
    schema.entity name = .ok entity ↔ schema.entity? name = some entity := by
  unfold Schema.entity
  cases schema.entity? name <;> simp

theorem Named.entity {schema : Schema} (h : schema.Named) {name : String} {entity : EntityType}
    (he : schema.entity name = .ok entity) : entity.name = name :=
  h name entity (entity_eq_ok.mp he)

/-- A type that is found stands in the schema under its own name. -/
theorem Named.stands {schema : Schema} (h : schema.Named) {name : String} {entity : EntityType}
    (he : schema.entity name = .ok entity) : schema.entity? entity.name = some entity := by
  rw [h.entity he]
  exact entity_eq_ok.mp he

theorem mem_of_mapEntriesM {α β : Type} {f : α → Result β} : ∀ {table : Table α} {mapped : Table β},
    mapEntriesM f table = .ok mapped → ∀ entry ∈ mapped, ∃ x, (entry.1, x) ∈ table ∧ f x = .ok entry.2
  | [], mapped, h, entry, hentry => by
    cases h
    cases hentry
  | (name, x) :: rest, mapped, h, entry, hentry => by
    rw [mapEntriesM, List.mapM_cons] at h
    obtain ⟨first, hfirst, h⟩ := Result.bind_eq_ok.mp h
    obtain ⟨others, hothers, h⟩ := Result.bind_eq_ok.mp h
    cases h
    obtain ⟨y, hy, hfirst⟩ := Result.bind_eq_ok.mp hfirst
    cases hfirst
    rcases List.mem_cons.mp hentry with rfl | hentry
    · exact ⟨x, List.mem_cons_self, hy⟩
    · obtain ⟨z, hz, hf⟩ := mem_of_mapEntriesM hothers entry hentry
      exact ⟨z, List.mem_cons_of_mem _ hz, hf⟩

/-- Declarations are gathered under their own names. -/
theorem name_of_gather {decls : List EntityDecl} {table : Table EntityDecl} (h : gather decls = .ok table) :
    ∀ entry ∈ table, entry.2.name = entry.1 := by
  refine Result.foldlM_induct (P := fun table : Table EntityDecl => ∀ entry ∈ table, entry.2.name = entry.1) h nofun
    fun table decl table' _ htable hstep => ?_
  split at hstep
  · cases hstep
  · split at hstep
    · cases hstep
    · cases hstep
      intro entry hentry
      rcases Table.mem_insert hentry with rfl | hentry
      · rfl
      · exact htable entry hentry

theorem name_of_flatten {decls : Table EntityDecl} {decl : EntityDecl} {above : List String} {entity : EntityType}
    (h : flatten decls decl above = .ok entity) : entity.name = decl.name := by
  unfold flatten at h
  simp only at h
  split at h
  · cases h
  · obtain ⟨_, _, h⟩ := Result.bind_eq_ok.mp h
    cases h
    rfl

/-- Every type of a schema that was built stands under its own name. -/
theorem named_of_build {decls : List EntityDecl} {schema : Schema} (h : build decls = .ok schema) : schema.Named := by
  obtain ⟨table, htable, h⟩ := Result.bind_eq_ok.mp h
  obtain ⟨lineages, hlineages, h⟩ := Result.bind_eq_ok.mp h
  obtain ⟨entities, hentities, h⟩ := Result.bind_eq_ok.mp h
  obtain ⟨_, _, h⟩ := Result.bind_eq_ok.mp h
  cases h
  intro name entity hentity
  obtain ⟨⟨decl, above⟩, hmem, hflatten⟩ := mem_of_mapEntriesM hentities _ (Table.mem_of_lookup hentity)
  obtain ⟨other, hother, hlineage⟩ := mem_of_mapEntriesM hlineages _ hmem
  obtain ⟨_, _, hlineage⟩ := Result.bind_eq_ok.mp hlineage
  cases hlineage
  rw [name_of_flatten hflatten]
  exact name_of_gather htable _ hother

end Schema
end GraphQuery
