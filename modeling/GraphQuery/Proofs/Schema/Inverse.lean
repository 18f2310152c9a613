import GraphQuery.Proofs.Schema.WellFormed

/-!
# Inverse relationships

A schema is built only when every relationship that names an inverse, be it declared or inherited, leads to one that
leads back (`Schema.LeadsBack`): `Schema.checkInverse` accepts exactly these (`Schema.checkInverse_eq_ok`). So in a built
schema the inverse is found, and the inverse of the inverse is the relationship again as far as edges go
(`Schema.inverse_leadsBack`).
-/

namespace GraphQuery

namespace Schema

variable {schema : Schema} {r inverse : RelationshipDef}

/-- What the inverse of a relationship has to be: it follows the same edges backwards, ends at the type the relationship
comes from or at one related to it, and names no other relationship as its own inverse. -/
structure LeadsBack (schema : Schema) (r inverse : RelationshipDef) : Prop where
  label : inverse.label = r.label
  direction : inverse.direction = r.direction.reverse
  related : ∃ owner back, schema.entity r.owner = .ok owner ∧ schema.entity inverse.target = .ok back ∧
    (owner.isSubtypeOf back.name = true ∨ back.isSubtypeOf owner.name = true)
  back : ∀ name, inverse.inverse = some name → name = r.name

/-- The inverse of a relationship is the relationship of its target under the name that it names. -/
theorem inverse?_eq_some {name : String} (hname : r.inverse = some name) : schema.inverse? r = some inverse ↔
    ∃ target, schema.entity r.target = .ok target ∧ target.relationship? name = some inverse := by
  simp only [inverse?, hname, entity_eq_ok, Option.bind_eq_bind, Option.bind_some, Option.bind_eq_some_iff]

/-- A relationship passes when it names no inverse, or the one that it names is found and leads back. -/
theorem checkInverse_eq_ok : schema.checkInverse r = .ok () ↔ ∀ name, r.inverse = some name →
    ∃ inverse, schema.inverse? r = some inverse ∧ schema.LeadsBack r inverse := by
  unfold checkInverse
  cases hname : r.inverse with
  | none => simp
  | some name =>
    simp only [Option.some.injEq, forall_eq', Result.bind_eq_ok, inverse?_eq_some hname]
    constructor
    · rintro ⟨target, htarget, h⟩
      cases hinverse : target.relationship? name with
      | none =>
        rw [hinverse] at h
        cases h
      | some inverse =>
        simp only [hinverse, Result.guard_eq_ok, Result.bind_eq_ok, not_or, not_not] at h
        obtain ⟨⟨hlabel, hdirection⟩, owner, howner, back, hback, hrelated, hnames⟩ := h
        refine ⟨inverse, ⟨target, htarget, hinverse⟩, hlabel, hdirection, ⟨owner, back, howner, hback, ?_⟩, ?_⟩
        · simpa [Classical.or_iff_not_imp_left] using hrelated
        · intro other hother
          by_contra hne
          rw [hother] at hnames
          dsimp only at hnames
          rw [if_pos hne] at hnames
          cases hnames
    · rintro ⟨inverse, ⟨target, htarget, hinverse⟩, hleads⟩
      obtain ⟨owner, back, howner, hback, hrelated⟩ := hleads.related
      refine ⟨target, htarget, ?_⟩
      simp only [hinverse, Result.guard_eq_ok, Result.bind_eq_ok, not_or, not_not]
      refine ⟨⟨hleads.label, hleads.direction⟩, owner, howner, back, hback, ?_, ?_⟩
      · simpa [Classical.or_iff_not_imp_left] using hrelated
      · cases hnames : inverse.inverse with
        | none => rfl
        | some other => exact if_neg (not_not.mpr (hleads.back other hnames))

/-- Every relationship of a built schema has passed, whether a type declares it or inherits it. -/
theorem checkInverse_of_build {decls : List EntityDecl} (h : build decls = .ok schema) {name : String}
    {entity : EntityType} (hentity : schema.entity? name = some entity) :
    ∀ r ∈ entity.relationships, schema.checkInverse r = .ok () := by
  obtain ⟨table, _, h⟩ := Result.bind_eq_ok.mp h
  obtain ⟨lineages, _, h⟩ := Result.bind_eq_ok.mp h
  obtain ⟨entities, _, h⟩ := Result.bind_eq_ok.mp h
  obtain ⟨_, hchecked, h⟩ := Result.bind_eq_ok.mp h
  cases h
  exact Result.forM_eq_ok.mp (Result.forM_eq_ok.mp hchecked _ (Table.mem_of_lookup hentity))

/-- In a built schema the inverse that a relationship names is found, and follows the same edges the other way. If it
names an inverse in turn, that one is found as well, and has the name and the edges of the relationship. -/
theorem inverse_leadsBack {decls : List EntityDecl} (h : build decls = .ok schema) {name : String}
    {entity : EntityType} (hentity : schema.entity? name = some entity) (hr : r ∈ entity.relationships) {key : String}
    (hkey : r.inverse = some key) : ∃ inverse, schema.inverse? r = some inverse ∧ inverse.label = r.label ∧
      inverse.direction = r.direction.reverse ∧ ∀ back, inverse.inverse = some back → ∃ again,
        schema.inverse? inverse = some again ∧ again.name = r.name ∧ again.label = r.label ∧
          again.direction = r.direction := by
  obtain ⟨inverse, hinverse, hleads⟩ := checkInverse_eq_ok.mp (checkInverse_of_build h hentity r hr) key hkey
  refine ⟨inverse, hinverse, hleads.label, hleads.direction, fun back hback => ?_⟩
  -- the inverse is a relationship of the target, so it was checked, too
  obtain ⟨target, htarget, hmem⟩ := (inverse?_eq_some hkey).mp hinverse
  have hchecked := checkInverse_of_build h (entity_eq_ok.mp htarget) inverse (List.mem_of_find?_eq_some hmem)
  obtain ⟨again, hagain, hreturns⟩ := checkInverse_eq_ok.mp hchecked back hback
  obtain ⟨_, _, hnamed⟩ := (inverse?_eq_some hback).mp hagain
  have hname : again.name = r.name := (EntityType.relationship?_name hnamed).trans (hleads.back back hback)
  have hlabel : again.label = r.label := hreturns.label.trans hleads.label
  have hdirection : again.direction = r.direction := by
    rw [hreturns.direction, hleads.direction, Direction.reverse_reverse]
  exact ⟨again, hagain, hname, hlabel, hdirection⟩

/-- The relationship of cats to their owners is that of pets. Its inverse leads from persons to pets and back. -/
theorem inverse_leadsBack_owner : ∃ schema cat owner, build diamond = .ok schema ∧ schema.entity? "Cat" = some cat ∧
    owner ∈ cat.relationships ∧ owner.owner = "Pet" ∧ owner.inverse = some "pets" ∧
    ∃ pets again, schema.inverse? owner = some pets ∧ pets.inverse = some "owner" ∧
      pets.direction = owner.direction.reverse ∧ schema.inverse? pets = some again ∧ again.name = owner.name := by
  obtain ⟨schema, cat, owner, hschema, hcat, howner, hdeclared, hnamed, hback⟩ : ∃ schema cat owner,
      build diamond = .ok schema ∧ schema.entity? "Cat" = some cat ∧ cat.relationships = [owner] ∧
        owner.owner = "Pet" ∧ owner.inverse = some "pets" ∧
        ∀ pets, schema.inverse? owner = some pets → pets.inverse = some "owner" := by
    refine ⟨_, _, _, rfl, rfl, rfl, rfl, rfl, ?_⟩
    intro pets hpets
    cases hpets
    rfl
  have hmem : owner ∈ cat.relationships := by
    rw [howner]
    exact List.mem_cons_self
  obtain ⟨pets, hpets, _, hdirection, hagain⟩ := inverse_leadsBack hschema hcat hmem hnamed
  obtain ⟨again, hagain, hname, _⟩ := hagain "owner" (hback pets hpets)
  exact ⟨schema, cat, owner, hschema, hcat, hmem, hdeclared, hnamed, pets, again, hpets, hback pets hpets, hdirection,
    hagain, hname⟩

end Schema
end GraphQuery
