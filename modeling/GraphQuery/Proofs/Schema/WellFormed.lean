import GraphQuery.Proofs.Schema.Ascent

/-!
# Built schemas are well formed

`Schema.build` ends with a schema or with a fault of the declarations, whatever `EntityDecl.declare` made of them. A
schema that it ends with is well formed (`Schema.WellFormed`): the ancestors of a type are what its declared supertypes
lead to, never the type itself, lying below is a partial order, members are found by name with the own declaration
first, and relationships end at types. It ends with a fault wherever a declared supertype is unknown or a type is above
itself (`Schema.build_wellFormed`).
-/

namespace GraphQuery

/-- A declaration made by `EntityDecl.declare`. -/
def EntityDecl.Made (decl : EntityDecl) : Prop :=
  ∃ name isAbstract properties relationships supertypes authorizations,
    decl = .declare name isAbstract properties relationships supertypes authorizations

theorem EntityDecl.Made.owner {decl : EntityDecl} (h : decl.Made) {r : RelationshipDef} (hr : r ∈ decl.relationships) :
    r.owner = decl.name := by
  obtain ⟨_, _, _, _, _, _, rfl⟩ := h
  obtain ⟨_, _, rfl⟩ := List.mem_map.mp hr
  rfl

namespace Schema

/-- Whether a type of the first name is declared with a supertype of the second. -/
def Extends (decls : List EntityDecl) (name supertype : String) : Prop :=
  ∃ decl ∈ decls, decl.name = name ∧ supertype ∈ decl.supertypes

/-! ## Gathering -/

section Gathering

variable {decls : List EntityDecl} {table : Table EntityDecl}

theorem firstRepeated?_eq_none : ∀ {names seen : List String}, firstRepeated? seen names = none →
    names.Nodup ∧ ∀ name ∈ names, name ∉ seen
  | [], _, _ => ⟨.nil, nofun⟩
  | name :: rest, seen, h => by
    rw [firstRepeated?] at h
    split at h
    · cases h
    · rename_i hnew
      obtain ⟨hrest, hseen⟩ := firstRepeated?_eq_none h
      refine ⟨List.nodup_cons.mpr ⟨fun hmem => hseen name hmem List.mem_cons_self, hrest⟩, ?_⟩
      intro other hother
      rcases List.mem_cons.mp hother with rfl | hother
      · exact hnew
      · exact fun hmem => hseen other hother (List.mem_cons_of_mem name hmem)

/-- Gathering is a run of insertions of declarations that repeat neither a member nor a type. -/
theorem gather_cons {table' : Table EntityDecl} {decl : EntityDecl} :
    (match firstRepeated? [] (memberNames decl) with
      | some name => .error (.invalidSchema (.duplicateMember name decl.name))
      | none =>
        if (List.lookup decl.name table).isSome then .error (.invalidSchema (.duplicateEntity decl.name))
        else .ok (Table.insert table decl.name decl) : Result (Table EntityDecl)) = .ok table' ↔
      firstRepeated? [] (memberNames decl) = none ∧ List.lookup decl.name table = none ∧
        Table.insert table decl.name decl = table' := by
  cases firstRepeated? [] (memberNames decl) with
  | some name => simp
  | none => cases List.lookup decl.name table <;> simp

/-- The gathered declarations are the given ones, each under its name, and their members do not repeat. -/
theorem lookup_gather (h : gather decls = .ok table) :
    (∀ name decl, List.lookup name table = some decl ↔ decl ∈ decls ∧ decl.name = name) ∧
      ∀ decl ∈ decls, (memberNames decl).Nodup := by
  suffices hrun : ∀ (decls : List EntityDecl) (earlier : Table EntityDecl), decls.foldlM (fun table decl =>
      match firstRepeated? [] (memberNames decl) with
      | some name => .error (.invalidSchema (.duplicateMember name decl.name))
      | none =>
        if (List.lookup decl.name table).isSome then .error (.invalidSchema (.duplicateEntity decl.name))
        else .ok (Table.insert table decl.name decl)) earlier = (.ok table : Result (Table EntityDecl)) →
      (∀ name decl, List.lookup name table = some decl ↔
        List.lookup name earlier = some decl ∨ decl ∈ decls ∧ decl.name = name) ∧
      ∀ decl ∈ decls, (memberNames decl).Nodup by
    obtain ⟨hlookup, hnodup⟩ := hrun decls [] h
    exact ⟨fun name decl => by simp [hlookup], hnodup⟩
  intro decls
  induction decls with
  | nil =>
    intro earlier h
    cases h
    simp
  | cons first rest ih =>
    intro earlier h
    rw [List.foldlM_cons] at h
    obtain ⟨middle, hmiddle, h⟩ := Result.bind_eq_ok.mp h
    obtain ⟨hmembers, hnew, rfl⟩ := gather_cons.mp hmiddle
    obtain ⟨hlookup, hnodup⟩ := ih _ h
    refine ⟨fun name decl => ?_, List.forall_mem_cons.mpr ⟨(firstRepeated?_eq_none hmembers).1, hnodup⟩⟩
    rw [hlookup, Table.lookup_insert]
    by_cases hname : name = first.name
    · subst hname
      rw [if_pos rfl, hnew]
      constructor
      · rintro (heq | ⟨hmem, hdecl⟩)
        · cases heq
          exact .inr ⟨List.mem_cons_self, rfl⟩
        · exact .inr ⟨List.mem_cons_of_mem _ hmem, hdecl⟩
      · rintro (hnone | ⟨hmem, hdecl⟩)
        · cases hnone
        · rcases List.mem_cons.mp hmem with rfl | hmem
          · exact .inl rfl
          · exact .inr ⟨hmem, hdecl⟩
    · rw [if_neg hname, List.mem_cons, or_and_right]
      have hother : ¬ (decl = first ∧ decl.name = name) := by
        rintro ⟨rfl, heq⟩
        exact hname heq.symm
      exact or_congr_right (or_iff_right hother).symm

theorem declaredBelow_of_gather (h : gather decls = .ok table) : DeclaredBelow table = Extends decls := by
  funext name supertype
  simp only [DeclaredBelow, Extends, (lookup_gather h).1, and_assoc]

end Gathering

/-! ## Members -/

section Members

variable {α : Type} {nameOf : α → String} {key : String} {m : α}

/-- What is added is inherited. -/
theorem mem_of_addMembers : ∀ {inherited members : List α}, m ∈ addMembers nameOf members inherited →
    m ∈ members ∨ m ∈ inherited
  | [], _, h => .inl h
  | first :: rest, members, h => by
    rw [addMembers, List.foldl_cons, ← addMembers] at h
    rcases mem_of_addMembers h with h | h
    · split at h
      · exact .inl h
      · rcases List.mem_append.mp h with h | h
        · exact .inl h
        · exact .inr (List.mem_singleton.mp h ▸ List.mem_cons_self)
    · exact .inr (List.mem_cons_of_mem _ h)

/-- By its name a member is found among the first ones, and else among the added ones. -/
theorem find?_name_addMembers : ∀ {inherited members : List α},
    (addMembers nameOf members inherited).find? (fun k => nameOf k = key) =
      (members.find? fun k => nameOf k = key).or (inherited.find? fun k => nameOf k = key)
  | [], _ => Option.or_none.symm
  | first :: rest, members => by
    rw [addMembers, List.foldl_cons, ← addMembers, find?_name_addMembers]
    by_cases hkey : nameOf first = key
    · rw [List.find?_cons_of_pos (by simpa using hkey)]
      split
      · rename_i htaken
        have hsome : (members.find? fun k => nameOf k = key).isSome = true := by
          rw [List.find?_isSome, ← hkey]
          exact List.any_eq_true.mp htaken
        rw [Option.or_of_isSome hsome, Option.or_of_isSome hsome]
      · rw [List.find?_append, Option.or_assoc, List.find?_cons_of_pos (by simpa using hkey), Option.some_or]
    · rw [List.find?_cons_of_neg (by simpa using hkey)]
      split
      · rfl
      · rw [List.find?_append, List.find?_cons_of_neg (by simpa using hkey), List.find?_nil, Option.or_none]

variable {β : Type} {membersOf : β → List α}

theorem mem_of_foldl_addMembers : ∀ {parents : List β} {members : List α},
    m ∈ parents.foldl (fun ms parent => addMembers nameOf ms (membersOf parent)) members →
      m ∈ members ∨ ∃ parent ∈ parents, m ∈ membersOf parent
  | [], _, h => .inl h
  | parent :: rest, members, h => by
    rw [List.foldl_cons] at h
    rcases mem_of_foldl_addMembers h with h | ⟨other, hother, h⟩
    · exact (mem_of_addMembers h).imp_right fun h => ⟨parent, List.mem_cons_self, h⟩
    · exact .inr ⟨other, List.mem_cons_of_mem _ hother, h⟩

theorem find?_name_foldl_addMembers : ∀ {parents : List β} {members : List α},
    (parents.foldl (fun ms parent => addMembers nameOf ms (membersOf parent)) members).find? (fun k => nameOf k = key) =
      (members.find? fun k => nameOf k = key).or
        (parents.findSome? fun parent => (membersOf parent).find? fun k => nameOf k = key)
  | [], _ => Option.or_none.symm
  | parent :: rest, members => by
    rw [List.foldl_cons, find?_name_foldl_addMembers, find?_name_addMembers, Option.or_assoc, List.findSome?_cons]
    cases (membersOf parent).find? fun k => nameOf k = key <;> rfl

/-- Among members with different names each is found by its name. -/
theorem find?_of_nodup : ∀ {members : List α}, (members.map nameOf).Nodup → m ∈ members →
    members.find? (fun k => nameOf k = nameOf m) = some m
  | first :: rest, hnodup, hm => by
    obtain ⟨hnotin, hrest⟩ := List.nodup_cons.mp hnodup
    rcases List.mem_cons.mp hm with rfl | hm
    · exact List.find?_cons_of_pos (decide_eq_true rfl)
    · have hne : nameOf first ≠ nameOf m := fun heq => hnotin (List.mem_map.mpr ⟨m, hm, heq.symm⟩)
      rw [List.find?_cons_of_neg (by simpa using hne)]
      exact find?_of_nodup hrest hm

/-- How the members of a type are found: those that it or a type above it declares, by their names, and its own ones
before inherited ones. -/
structure Resolves (decls : List EntityDecl) (name : String) (nameOf : α → String) (declares : EntityDecl → List α)
    (member? : String → Option α) : Prop where
  found : ∀ decl ∈ decls, Relation.ReflTransGen (Extends decls) name decl.name → ∀ m ∈ declares decl,
    ∃ found, member? (nameOf m) = some found
  own : ∀ decl ∈ decls, decl.name = name → ∀ m ∈ declares decl, member? (nameOf m) = some m
  source : ∀ key m, member? key = some m → nameOf m = key ∧
    ∃ decl ∈ decls, Relation.ReflTransGen (Extends decls) name decl.name ∧ m ∈ declares decl

variable {decls : List EntityDecl} {table : Table EntityDecl} {declares : EntityDecl → List α} {name : String}
  {decl : EntityDecl} {above : List String}

/-- The members of a declaration with those of its lineage added. -/
def inherited (table : Table EntityDecl) (nameOf : α → String) (declares : EntityDecl → List α) (decl : EntityDecl)
    (above : List String) : List α :=
  (above.filterMap fun x => List.lookup x table).foldl (fun ms parent => addMembers nameOf ms (declares parent))
    (declares decl)

theorem mem_of_inherited (htable : gather decls = .ok table) (hdecl : List.lookup name table = some decl)
    (hlineage : lineage table name = .ok above) (hm : m ∈ inherited table nameOf declares decl above) :
    ∃ decl ∈ decls, Relation.ReflTransGen (Extends decls) name decl.name ∧ m ∈ declares decl := by
  obtain ⟨hlookup, _⟩ := lookup_gather htable
  rcases mem_of_foldl_addMembers hm with hm | ⟨parent, hparent, hm⟩
  · obtain ⟨hmem, rfl⟩ := (hlookup name decl).mp hdecl
    exact ⟨decl, hmem, .refl, hm⟩
  · obtain ⟨x, hx, hparent⟩ := List.mem_filterMap.mp hparent
    obtain ⟨hmem, rfl⟩ := (hlookup x parent).mp hparent
    have habove : Relation.TransGen (DeclaredBelow table) name parent.name :=
      (((mem_ascend hlineage).2 _).mp hx).resolve_left List.not_mem_nil
    rw [declaredBelow_of_gather htable] at habove
    exact ⟨parent, hmem, habove.to_reflTransGen, hm⟩

theorem resolves_inherited (nameOf : α → String) (declares : EntityDecl → List α) (htable : gather decls = .ok table)
    (hdecl : List.lookup name table = some decl)
    (hlineage : lineage table name = .ok above) (hnodup : ∀ decl ∈ decls, ((declares decl).map nameOf).Nodup) :
    Resolves decls name nameOf declares fun key =>
      (inherited table nameOf declares decl above).find? fun m => nameOf m = key := by
  obtain ⟨hlookup, _⟩ := lookup_gather htable
  have hown : ∀ own ∈ decls, own.name = name → own = decl := by
    intro own hown hname
    have hsome := (hlookup name own).mpr ⟨hown, hname⟩
    exact Option.some.inj (hsome.symm.trans hdecl)
  refine ⟨fun upper hupper hbelow m hm => ?_, fun own hmem hname m hm => ?_, fun key m hm => ?_⟩
  · have hsome : ∃ found ∈ inherited table nameOf declares decl above, nameOf found = nameOf m := by
      refine exists_foldl_addMembers.mpr ?_
      rcases Relation.reflTransGen_iff_eq_or_transGen.mp hbelow with heq | habove
      · exact .inl ⟨m, hown upper hupper heq ▸ hm, rfl⟩
      · rw [← declaredBelow_of_gather htable] at habove
        have hmem := ((mem_ascend hlineage).2 _).mpr (.inr habove)
        exact .inr ⟨upper, List.mem_filterMap.mpr ⟨_, hmem, (hlookup _ _).mpr ⟨hupper, rfl⟩⟩, m, hm, rfl⟩
    simpa [← Option.isSome_iff_exists, List.find?_isSome] using hsome
  · cases hown own hmem hname
    rw [inherited, find?_name_foldl_addMembers, find?_of_nodup (hnodup _ hmem) hm, Option.some_or]
  · exact ⟨by simpa using List.find?_some hm,
      mem_of_inherited htable hdecl hlineage (List.mem_of_find?_eq_some hm)⟩

theorem members_of_flatten {entity : EntityType} (h : flatten table decl above = .ok entity) :
    entity.properties = inherited table (·.name) (·.properties) decl above ∧
      entity.relationships = inherited table (·.name) (·.relationships) decl above := by
  unfold flatten at h
  simp only at h
  split at h
  · cases h
  · obtain ⟨_, _, h⟩ := Result.bind_eq_ok.mp h
    cases h
    exact ⟨rfl, rfl⟩

end Members

/-! ## Well-formed schemas -/

/-- What the types of a schema have to do with the declarations it was built from. -/
structure WellFormed (decls : List EntityDecl) (schema : Schema) : Prop where
  /-- The types are the declared ones, each under its name. -/
  types : ∀ name, (∃ entity, schema.entity? name = some entity) ↔ ∃ decl ∈ decls, decl.name = name
  named : schema.Named
  ancestors : ∀ name entity, schema.entity? name = some entity →
    ∀ x, x ∈ entity.ancestors ↔ Relation.TransGen (Extends decls) name x
  above : ∀ name entity, schema.entity? name = some entity → ∀ x ∈ entity.ancestors,
    x ≠ name ∧ ∃ upper, schema.entity? x = some upper
  subtype_refl : ∀ name entity, schema.entity? name = some entity → entity.isSubtypeOf name = true
  subtype_trans : ∀ a b lower middle, schema.entity? a = some lower → schema.entity? b = some middle →
    lower.isSubtypeOf b = true → ∀ c, middle.isSubtypeOf c = true → lower.isSubtypeOf c = true
  subtype_antisymm : ∀ a b first second, schema.entity? a = some first → schema.entity? b = some second →
    first.isSubtypeOf b = true → second.isSubtypeOf a = true → a = b
  properties : ∀ name entity, schema.entity? name = some entity →
    Resolves decls name (·.name) (·.properties) entity.property?
  relationships : ∀ name entity, schema.entity? name = some entity →
    Resolves decls name (·.name) (·.relationships) entity.relationship?
  targets : ∀ name entity, schema.entity? name = some entity → ∀ r ∈ entity.relationships,
    ∃ target, schema.entity? r.target = some target

namespace Flattens

variable {decls : List EntityDecl} {table : Table EntityDecl} {schema : Schema}

theorem ancestors_iff (h : Flattens table schema) {name : String} {entity : EntityType}
    (hentity : schema.entity? name = some entity) (x : String) :
    x ∈ entity.ancestors ↔ Relation.TransGen (DeclaredBelow table) name x := by
  obtain ⟨decl, above, _, hlineage, hflatten⟩ := h.flat name entity hentity
  obtain ⟨_, hancestors, _⟩ := flatten_eq_ok hflatten
  rw [hancestors, mem_sortNames, (mem_ascend hlineage).2]
  simp

/-- No type is above itself. -/
theorem not_below_self (h : Flattens table schema) {name : String} {entity : EntityType}
    (hentity : schema.entity? name = some entity) : ¬ Relation.TransGen (DeclaredBelow table) name name := by
  obtain ⟨decl, above, hdecl, hlineage, _⟩ := h.flat name entity hentity
  exact not_below_of_lineage hdecl hlineage

theorem wellFormed (h : Flattens table schema) (htable : gather decls = .ok table) : WellFormed decls schema := by
  obtain ⟨hlookup, hmembers⟩ := lookup_gather htable
  have hdeclared : ∀ name, (∃ entity, schema.entity? name = some entity) ↔
      ∃ decl, List.lookup name table = some decl := by
    intro name
    constructor
    · rintro ⟨entity, hentity⟩
      obtain ⟨decl, _, hdecl, _⟩ := h.flat name entity hentity
      exact ⟨decl, hdecl⟩
    · exact fun hdecl => h.declared name (Option.isSome_iff_exists.mpr hdecl)
  constructor
  case types =>
    intro name
    rw [hdeclared]
    simp only [hlookup]
  case named => exact h.named
  case ancestors =>
    intro name entity hentity x
    rw [h.ancestors_iff hentity, declaredBelow_of_gather htable]
  case above =>
    intro name entity hentity x hx
    have habove := (h.ancestors_iff hentity x).mp hx
    constructor
    · rintro rfl
      exact h.not_below_self hentity habove
    · obtain ⟨_, _, _, hlineage, _⟩ := h.flat name entity hentity
      exact h.declared x ((mem_ascend hlineage).1 x habove.to_reflTransGen)
  case subtype_refl => exact fun name entity hentity => (h.isSubtypeOf_iff hentity name).mpr .refl
  case subtype_trans =>
    exact fun a b lower middle hlower hmiddle hbelow c habove =>
      h.isSubtypeOf_trans hlower hmiddle hbelow habove
  case subtype_antisymm =>
    intro a b first second hfirst hsecond hup hdown
    have hup := (h.isSubtypeOf_iff hfirst b).mp hup
    have hdown := (h.isSubtypeOf_iff hsecond a).mp hdown
    rcases Relation.reflTransGen_iff_eq_or_transGen.mp hup with heq | hup
    · exact heq.symm
    · exact absurd (hup.trans_left hdown) (h.not_below_self hfirst)
  case properties =>
    intro name entity hentity
    obtain ⟨decl, above, hdecl, hlineage, hflatten⟩ := h.flat name entity hentity
    have hresolves := resolves_inherited (fun p : PropertyDef => p.name) (·.properties) htable hdecl hlineage
      fun decl hmem => (List.nodup_append.mp (hmembers decl hmem)).1
    rwa [← (members_of_flatten hflatten).1] at hresolves
  case relationships =>
    intro name entity hentity
    obtain ⟨decl, above, hdecl, hlineage, hflatten⟩ := h.flat name entity hentity
    have hresolves := resolves_inherited (fun r : RelationshipDef => r.name) (·.relationships) htable hdecl hlineage
      fun decl hmem => (List.nodup_append.mp (hmembers decl hmem)).2.1
    rwa [← (members_of_flatten hflatten).2] at hresolves
  case targets =>
    intro name entity hentity r hr
    obtain ⟨_, _, _, _, hflatten⟩ := h.flat name entity hentity
    obtain ⟨_, _, _, htargets⟩ := flatten_eq_ok hflatten
    exact h.declared r.target (htargets r hr)

/-- Relationships belong to types of the schema. -/
theorem owners (h : Flattens table schema) (htable : gather decls = .ok table) (hmade : ∀ decl ∈ decls, decl.Made)
    {name : String} {entity : EntityType} (hentity : schema.entity? name = some entity) {r : RelationshipDef}
    (hr : r ∈ entity.relationships) : ∃ owner, schema.entity? r.owner = some owner := by
  obtain ⟨decl, above, hdecl, hlineage, hflatten⟩ := h.flat name entity hentity
  rw [(members_of_flatten hflatten).2] at hr
  obtain ⟨source, hsource, _, hr⟩ := mem_of_inherited htable hdecl hlineage hr
  rw [(hmade source hsource).owner hr]
  exact ((h.wellFormed htable).types source.name).mpr ⟨source, hsource, rfl⟩

end Flattens

/-! ## The outcome of building -/

/-- Results that are refused, if at all, for a fault of the schema. -/
inductive Judged {α : Type} : Result α → Prop
  | ok (a : α) : Judged (.ok a)
  | refused (fault : SchemaFault) : Judged (.error (.invalidSchema fault))

namespace Judged

variable {α β : Type}

theorem bind {x : Result α} {f : α → Result β} (h : Judged x) (hf : ∀ a, x = .ok a → Judged (f a)) :
    Judged (x >>= f) := by
  cases h with
  | ok a => exact hf a rfl
  | refused fault => exact .refused fault

theorem foldlM {f : β → α → Result β} : ∀ {xs : List α} {b : β}, (∀ b, ∀ a ∈ xs, Judged (f b a)) →
    Judged (xs.foldlM f b)
  | [], b, _ => .ok b
  | x :: xs, b, h => by
    rw [List.foldlM_cons]
    exact (h b x List.mem_cons_self).bind fun c _ => foldlM fun b a ha => h b a (List.mem_cons_of_mem x ha)

theorem mapM {f : α → Result β} : ∀ {xs : List α}, (∀ a ∈ xs, Judged (f a)) → Judged (xs.mapM f)
  | [], _ => .ok []
  | x :: xs, h => by
    rw [List.mapM_cons]
    refine (h x List.mem_cons_self).bind fun y _ => ?_
    exact (mapM fun a ha => h a (List.mem_cons_of_mem x ha)).bind fun ys _ => .ok (y :: ys)

theorem forM {f : α → Result PUnit} : ∀ {xs : List α}, (∀ a ∈ xs, Judged (f a)) → Judged (xs.forM f)
  | [], _ => .ok ()
  | x :: _, h => (h x List.mem_cons_self).bind fun _ _ => forM fun a ha => h a (List.mem_cons_of_mem x ha)

theorem outcome {x : Result α} (h : Judged x) : (∃ a, x = .ok a) ∨ ∃ fault, x = .error (.invalidSchema fault) := by
  cases h with
  | ok a => exact .inl ⟨a, rfl⟩
  | refused fault => exact .inr ⟨fault, rfl⟩

end Judged

section Building

variable {decls : List EntityDecl} {table : Table EntityDecl} {schema : Schema}

theorem judged_gather (decls : List EntityDecl) : Judged (gather decls) := by
  refine Judged.foldlM fun table decl _ => ?_
  split
  · exact .refused _
  · split
    · exact .refused _
    · exact .ok _

theorem Climbs.judged {supertypes path found : List String} {result : Result (List String)}
    (h : Climbs table supertypes path found result) : Judged result := by
  induction h with
  | done => exact .ok _
  | cycle => exact .refused _
  | unknown => exact .refused _
  | failed _ _ _ ih => cases ih; exact .refused _
  | next _ _ _ _ _ ih => exact ih

theorem judged_unite (entity : String) (relationships : List RelationshipDef) (decls : List AuthorizationDecl) :
    Judged (Authorization.unite entity relationships decls) := by
  refine Judged.foldlM fun table decl _ => Judged.bind (Judged.bind ?_ fun _ _ => .ok _) fun _ _ => .ok _
  refine Judged.foldlM fun known name _ => ?_
  split
  · exact .refused _
  · exact .ok _

theorem judged_flatten (table : Table EntityDecl) (decl : EntityDecl) (above : List String) :
    Judged (flatten table decl above) := by
  unfold flatten
  simp only
  split
  · exact .refused _
  · exact (judged_unite _ _ _).bind fun _ _ => .ok _

/-- All types that the check of an inverse asks for are there, so it finds the schema at fault, or nothing. -/
theorem Flattens.judged_checkInverse (h : Flattens table schema) (htable : gather decls = .ok table)
    (hmade : ∀ decl ∈ decls, decl.Made) {name : String} {entity : EntityType}
    (hentity : schema.entity? name = some entity) {r : RelationshipDef} (hr : r ∈ entity.relationships) :
    Judged (schema.checkInverse r) := by
  have hwell := h.wellFormed htable
  unfold checkInverse
  split
  · exact .ok ()
  · rename_i inverseName _
    obtain ⟨target, htarget⟩ := hwell.targets name entity hentity r hr
    obtain ⟨owner, howner⟩ := h.owners htable hmade hentity hr
    rw [entity_eq_ok.mpr htarget, Result.ok_bind]
    split
    · exact .refused _
    · rename_i inverse hinverse
      obtain ⟨back, hback⟩ := hwell.targets r.target target htarget inverse (List.mem_of_find?_eq_some hinverse)
      simp only [entity_eq_ok.mpr howner, entity_eq_ok.mpr hback, Result.ok_bind, Result.throw_eq_error,
        Result.error_bind]
      split
      · exact .refused _
      · split
        · exact .refused _
        · split
          · exact .ok ()
          · split
            · exact .refused _
            · exact .ok ()

/-- Building ends with a schema or with a fault of the declarations. -/
theorem judged_build (hmade : ∀ decl ∈ decls, decl.Made) : Judged (build decls) := by
  refine (judged_gather decls).bind fun table htable => ?_
  refine Judged.bind ?_ fun lineages hlineages => Judged.bind ?_ fun entities hentities => ?_
  · refine Judged.mapM fun ⟨name, decl⟩ hmem => Judged.bind (Judged.bind ?_ fun _ _ => .ok _) fun _ _ => .ok _
    have hname : decl.name = name := name_of_gather htable _ hmem
    have hdecl := (Table.lookup_eq_some_iff (sorted_of_gather htable)).mpr hmem
    rw [hname]
    exact ((climbs_lineage hdecl).mpr rfl).judged
  · exact Judged.mapM fun ⟨_, decl, above⟩ _ => (judged_flatten table decl above).bind fun _ _ => .ok _
  · have hflattens := flattens_of_mapEntriesM htable hlineages hentities
    refine Judged.bind ?_ fun _ _ => .ok _
    refine Judged.forM fun ⟨name, entity⟩ hmem => Judged.forM fun r hr => ?_
    exact hflattens.judged_checkInverse htable hmade ((Table.lookup_eq_some_iff hflattens.sorted).mpr hmem) hr

/-- Nothing that the declared supertypes of a schema lead to is unknown or above itself. -/
theorem WellFormed.sound (h : WellFormed decls schema) {decl : EntityDecl} (hdecl : decl ∈ decls) {x : String}
    (hx : Relation.ReflTransGen (Extends decls) decl.name x) :
    (∃ upper ∈ decls, upper.name = x) ∧ ¬ Relation.TransGen (Extends decls) x x := by
  obtain ⟨entity, hentity⟩ := (h.types decl.name).mpr ⟨decl, hdecl, rfl⟩
  have hupper : ∃ upper, schema.entity? x = some upper := by
    rcases Relation.reflTransGen_iff_eq_or_transGen.mp hx with rfl | hx
    · exact ⟨entity, hentity⟩
    · exact (h.above _ entity hentity x ((h.ancestors _ entity hentity x).mpr hx)).2
  refine ⟨(h.types x).mp hupper, fun hcycle => ?_⟩
  obtain ⟨upper, hupper⟩ := hupper
  exact (h.above x upper hupper x ((h.ancestors x upper hupper x).mpr hcycle)).1 rfl

/-- Building ends, with a schema or with a fault of the declarations, and the walk that collects a lineage ends without
the help of a bound. A schema it ends with is well formed, and it ends with a fault where the supertypes of a declared
type lead to an unknown one or to one that is above itself. -/
theorem build_wellFormed (decls : List EntityDecl) (hmade : ∀ decl ∈ decls, decl.Made) :
    ((∃ schema, build decls = .ok schema) ∨ ∃ fault, build decls = .error (.invalidSchema fault)) ∧
    (∀ table, gather decls = .ok table → ∀ name decl, List.lookup name table = some decl →
      ∀ result, Climbs table decl.supertypes [name] [] result ↔ result = lineage table name) ∧
    (∀ schema, build decls = .ok schema → WellFormed decls schema) ∧
    ∀ decl ∈ decls, ∀ x, Relation.ReflTransGen (Extends decls) decl.name x →
      (¬ ∃ upper ∈ decls, upper.name = x) ∨ Relation.TransGen (Extends decls) x x →
        ∃ fault, build decls = .error (.invalidSchema fault) := by
  have hwell : ∀ schema, build decls = .ok schema → WellFormed decls schema := by
    intro schema hschema
    obtain ⟨table, htable, hflattens⟩ := gather_of_build hschema
    exact hflattens.wellFormed htable
  refine ⟨(judged_build hmade).outcome, fun table _ name decl hdecl result => climbs_lineage hdecl, hwell, ?_⟩
  intro decl hdecl x hx hfault
  rcases (judged_build hmade).outcome with ⟨schema, hschema⟩ | hrefused
  · obtain ⟨hknown, hacyclic⟩ := (hwell schema hschema).sound hdecl hx
    rcases hfault with hunknown | hcycle
    · exact absurd hknown hunknown
    · exact absurd hcycle hacyclic
  · exact hrefused

/-- Cats are pets and felines, and both are animals. -/
def diamond : List EntityDecl :=
  [.declare "Person" false [] [⟨"pets", "", "Pet", "OWNS", .outgoing, .many, some "owner"⟩] [] [],
    .declare "Animal" true [⟨"name", .string, false⟩] [] [] [],
    .declare "Pet" true [] [⟨"owner", "", "Person", "OWNS", .incoming, .one, some "pets"⟩] ["Animal"] [],
    .declare "Feline" true [⟨"lives", .int, true⟩] [] ["Animal"] [],
    .declare "Cat" false [⟨"name", .string, true⟩] [] ["Pet", "Feline"] []]

/-- The supertypes of the last type lead to a cycle that it is not on. -/
def tangle : List EntityDecl :=
  [.declare "A" false [] [] ["B"] [], .declare "B" false [] [] ["A"] [], .declare "C" false [] [] ["A"] []]

theorem build_wellFormed_diamond : (∃ schema, build diamond = .ok schema ∧ WellFormed diamond schema) ∧
    ∃ fault, build tangle = .error (.invalidSchema fault) := by
  have hdiamond : ∀ decl ∈ diamond, decl.Made := by
    simp only [diamond, List.forall_mem_cons]
    exact ⟨⟨_, _, _, _, _, _, rfl⟩, ⟨_, _, _, _, _, _, rfl⟩, ⟨_, _, _, _, _, _, rfl⟩, ⟨_, _, _, _, _, _, rfl⟩,
      ⟨_, _, _, _, _, _, rfl⟩, nofun⟩
  have htangle : ∀ decl ∈ tangle, decl.Made := by
    simp only [tangle, List.forall_mem_cons]
    exact ⟨⟨_, _, _, _, _, _, rfl⟩, ⟨_, _, _, _, _, _, rfl⟩, ⟨_, _, _, _, _, _, rfl⟩, nofun⟩
  constructor
  · have hsome : ∃ schema, build diamond = .ok schema := ⟨_, rfl⟩
    obtain ⟨schema, hschema⟩ := hsome
    exact ⟨schema, hschema, (build_wellFormed diamond hdiamond).2.2.1 schema hschema⟩
  · have hup : Extends tangle "A" "B" := ⟨_, List.mem_cons_self, rfl, List.mem_cons_self⟩
    have hback : Extends tangle "B" "A" := ⟨_, List.mem_cons_of_mem _ List.mem_cons_self, rfl, List.mem_cons_self⟩
    have hcycle : Relation.TransGen (Extends tangle) "A" "A" := .tail (.single hup) hback
    exact (build_wellFormed tangle htangle).2.2.2 _ List.mem_cons_self "A" .refl (.inr hcycle)

end Building

end Schema
end GraphQuery
