import GraphQuery.Proofs.Schema.WellFormed
import Mathlib.Data.List.Nodup

/-!
# United authorizations

The authorization of a type unites what the type and the types above it declare (`Authorization.Unites`): rules and
relationships are listed once, and each is one that some declaration lists. Absorbing one more declaration adds what it
lists and nothing else (`Authorization.Unites.absorb`), so the table of a type has exactly the permissions that are
declared at it or above it (`Authorization.tabulates_of_unite`). In a schema that was built nothing that a declaration
forbids is lost on the way down (`Schema.unites_of_build`).
-/

namespace GraphQuery

namespace Authorization

/-! ## Adding without repetition -/

section Adding

theorem addRules_cons (known : List RuleRef) (rule : RuleRef) (rules : List RuleRef) :
    addRules known (rule :: rules) = addRules (if rule ∈ known then known else known ++ [rule]) rules := rfl

theorem mem_addRules {rule : RuleRef} : ∀ {rules known : List RuleRef},
    rule ∈ addRules known rules ↔ rule ∈ known ∨ rule ∈ rules
  | [], known => by simp [addRules]
  | first :: rest, known => by
    rw [addRules_cons, mem_addRules, List.mem_cons]
    split
    · rename_i hknown
      constructor
      · exact fun h => h.imp_right .inr
      · rintro (h | rfl | h)
        · exact .inl h
        · exact .inl hknown
        · exact .inr h
    · rw [List.mem_append, List.mem_singleton, or_assoc]

theorem nodup_addRules : ∀ {rules known : List RuleRef}, known.Nodup → (addRules known rules).Nodup
  | [], _, h => h
  | first :: rest, known, h => by
    rw [addRules_cons]
    refine nodup_addRules ?_
    split
    · exact h
    · rename_i hnew
      rw [← List.concat_eq_append]
      exact List.Nodup.concat hnew h

/-- Relationships of a type, each once. -/
structure Chosen (relationships chosen : List RelationshipDef) : Prop where
  distinct : (chosen.map (·.name)).Nodup
  found : ∀ r ∈ chosen, relationships.find? (fun k => k.name = r.name) = some r

variable {relationships known result : List RelationshipDef} {entity permission : String}

/-- The one relationship of a name is added if it is not there yet. -/
theorem Chosen.add (h : Chosen relationships known) {name : String} {r : RelationshipDef}
    (hr : relationships.find? (fun k => k.name = name) = some r) :
    Chosen relationships (if known.any fun k => k.name = r.name then known else known ++ [r]) ∧
      ∀ x, x ∈ (if known.any fun k => k.name = r.name then known else known ++ [r]) ↔ x ∈ known ∨ x = r := by
  have hname : r.name = name := by simpa using List.find?_some hr
  split
  · rename_i htaken
    obtain ⟨k, hk, hsame⟩ := List.any_eq_true.mp htaken
    -- a relationship of the same name that is there already is this one
    have hfound := h.found k hk
    rw [of_decide_eq_true hsame, hname, hr] at hfound
    cases hfound
    refine ⟨h, fun x => (or_iff_left_of_imp ?_).symm⟩
    rintro rfl
    exact hk
  · rename_i hnew
    have hfresh : r.name ∉ known.map (·.name) := by
      intro hmem
      obtain ⟨k, hk, hsame⟩ := List.mem_map.mp hmem
      exact hnew (List.any_eq_true.mpr ⟨k, hk, decide_eq_true hsame⟩)
    refine ⟨⟨?_, fun x hx => ?_⟩, fun x => by rw [List.mem_append, List.mem_singleton]⟩
    · rw [List.map_append, List.map_singleton, ← List.concat_eq_append]
      exact List.Nodup.concat hfresh h.distinct
    · rcases List.mem_append.mp hx with hx | hx
      · exact h.found x hx
      · rw [List.mem_singleton.mp hx, hname]
        exact hr

/-- Adding named relationships succeeds for names of relationships only, and adds these relationships. -/
theorem addRelated_eq_ok : ∀ {names : List String} {known : List RelationshipDef}, Chosen relationships known →
    addRelated entity relationships permission known names = .ok result →
      Chosen relationships result ∧
      (∀ r, r ∈ result ↔ r ∈ known ∨ ∃ name ∈ names, relationships.find? (fun k => k.name = name) = some r) ∧
      ∀ name ∈ names, ∃ r, relationships.find? (fun k => k.name = name) = some r
  | [], known, hknown, h => by
    cases h
    exact ⟨hknown, by simp, by simp⟩
  | name :: rest, known, hknown, h => by
    rw [addRelated, List.foldlM_cons] at h
    obtain ⟨middle, hmiddle, h⟩ := Result.bind_eq_ok.mp h
    split at hmiddle
    · cases hmiddle
    · rename_i first hfirst
      cases hmiddle
      obtain ⟨hchosen, hmem⟩ := hknown.add hfirst
      obtain ⟨hresult, hrest, hnamed⟩ := addRelated_eq_ok hchosen h
      refine ⟨hresult, fun r => ?_, List.forall_mem_cons.mpr ⟨⟨first, hfirst⟩, hnamed⟩⟩
      rw [hrest, hmem, or_assoc, List.exists_mem_cons_iff, hfirst, Option.some.injEq, eq_comm (a := r)]

end Adding

/-! ## Uniting declarations -/

/-- What an authorization has to do with the declarations that it unites, for a type with the given relationships. -/
structure Unites (declares : AuthorizationDecl → Prop) (relationship? : String → Option RelationshipDef)
    (united : Authorization) : Prop where
  allow_nodup : united.allow.Nodup
  allow : ∀ rule, rule ∈ united.allow ↔ ∃ decl, declares decl ∧ rule ∈ decl.allow
  disallow_nodup : united.disallow.Nodup
  disallow : ∀ rule, rule ∈ united.disallow ↔ ∃ decl, declares decl ∧ rule ∈ decl.disallow
  allowAll : united.allowAll = true ↔ ∃ decl, declares decl ∧ decl.allowAll = true
  related_distinct : (united.allowFromRelated.map (·.name)).Nodup
  related : ∀ r, r ∈ united.allowFromRelated ↔
    ∃ decl, declares decl ∧ ∃ name ∈ decl.allowFromRelated, relationship? name = some r
  /-- The declarations name relationships of the type only. -/
  named : ∀ decl, declares decl → ∀ name ∈ decl.allowFromRelated, ∃ r, relationship? name = some r

section Uniting

variable {declares : AuthorizationDecl → Prop} {relationships : List RelationshipDef} {united merged : Authorization}
  {decl : AuthorizationDecl} {entity : String}

theorem Unites.congr {declares' : AuthorizationDecl → Prop} {relationship? : String → Option RelationshipDef}
    (h : Unites declares relationship? united) (hsame : ∀ decl, declares decl ↔ declares' decl) :
    Unites declares' relationship? united := by
  have heq : declares = declares' := funext fun decl => propext (hsame decl)
  rwa [← heq]

theorem unites_empty (hnone : ∀ decl, ¬ declares decl) (relationship? : String → Option RelationshipDef) :
    Unites declares relationship? empty := by
  constructor <;> simp [empty, hnone]

theorem Unites.chosen (h : Unites declares (fun name => relationships.find? fun r => r.name = name) united) :
    Chosen relationships united.allowFromRelated := by
  refine ⟨h.related_distinct, fun r hr => ?_⟩
  obtain ⟨_, _, name, _, hfound⟩ := (h.related r).mp hr
  have hname : r.name = name := by simpa using List.find?_some hfound
  rwa [hname]

/-- Absorbing a declaration unites it with the earlier ones. -/
theorem Unites.absorb (h : Unites declares (fun name => relationships.find? fun r => r.name = name) united)
    (hmerged : absorb entity relationships united decl = .ok merged) :
    Unites (fun d => declares d ∨ d = decl) (fun name => relationships.find? fun r => r.name = name) merged := by
  obtain ⟨related, hrelated, hmerged⟩ := Result.bind_eq_ok.mp hmerged
  cases hmerged
  obtain ⟨hchosen, hmem, hnamed⟩ := addRelated_eq_ok h.chosen hrelated
  constructor
  case allow_nodup => exact nodup_addRules h.allow_nodup
  case allow => simp [mem_addRules, h.allow, or_and_right, exists_or]
  case disallow_nodup => exact nodup_addRules h.disallow_nodup
  case disallow => simp [mem_addRules, h.disallow, or_and_right, exists_or]
  case allowAll => simp [h.allowAll, or_and_right, exists_or]
  case related_distinct => exact hchosen.distinct
  case related =>
    intro r
    rw [hmem, h.related]
    simp [or_and_right, exists_or]
  case named =>
    rintro other (hother | rfl)
    · exact h.named other hother
    · exact hnamed

/-- What a table of authorizations has to do with the declarations that it unites, permission by permission. -/
structure Tabulates (declares : AuthorizationDecl → Prop) (relationship? : String → Option RelationshipDef)
    (table : Table Authorization) : Prop where
  declared : ∀ permission, (∃ united, List.lookup permission table = some united) ↔
    ∃ decl, declares decl ∧ decl.name = permission
  unites : ∀ permission united, List.lookup permission table = some united →
    Unites (fun decl => declares decl ∧ decl.name = permission) relationship? united

/-- What is absorbed next unites the declarations for its permission so far. -/
theorem Tabulates.unites_getD {relationship? : String → Option RelationshipDef} {table : Table Authorization}
    (h : Tabulates declares relationship? table) (permission : String) :
    Unites (fun decl => declares decl ∧ decl.name = permission) relationship?
      ((List.lookup permission table).getD empty) := by
  cases hlookup : List.lookup permission table with
  | none =>
    refine unites_empty (fun decl hdecl => ?_) relationship?
    obtain ⟨united, hunited⟩ := (h.declared permission).mpr ⟨decl, hdecl⟩
    rw [hlookup] at hunited
    cases hunited
  | some united => exact h.unites permission united hlookup

variable {table table' : Table Authorization}

theorem Tabulates.insert (h : Tabulates declares (fun name => relationships.find? fun r => r.name = name) table)
    (hmerged : Authorization.absorb entity relationships ((List.lookup decl.name table).getD empty) decl = .ok merged) :
    Tabulates (fun d => declares d ∨ d = decl) (fun name => relationships.find? fun r => r.name = name)
      (Table.insert table decl.name merged) := by
  constructor
  case declared =>
    intro permission
    rw [Table.lookup_insert]
    split
    · rename_i hsame
      exact ⟨fun _ => ⟨decl, .inr rfl, hsame.symm⟩, fun _ => ⟨merged, rfl⟩⟩
    · rename_i hother
      rw [h.declared]
      refine exists_congr fun d => and_congr_left fun hname => (or_iff_left ?_).symm
      rintro rfl
      exact hother hname.symm
  case unites =>
    intro permission united hunited
    rw [Table.lookup_insert] at hunited
    split at hunited
    · rename_i hsame
      cases hunited
      refine ((h.unites_getD decl.name).absorb hmerged).congr fun d => ?_
      rw [hsame, or_and_right]
      exact or_congr_right ⟨fun heq => ⟨heq, heq ▸ rfl⟩, And.left⟩
    · rename_i hother
      refine (h.unites permission united hunited).congr fun d => and_congr_left fun hname => (or_iff_left ?_).symm
      rintro rfl
      exact hother hname.symm

theorem Tabulates.foldlM : ∀ {decls : List AuthorizationDecl} {declares : AuthorizationDecl → Prop}
    {table : Table Authorization},
    Tabulates declares (fun name => relationships.find? fun r => r.name = name) table →
    decls.foldlM (fun table decl => do
      let merged ← Authorization.absorb entity relationships ((List.lookup decl.name table).getD empty) decl
      return Table.insert table decl.name merged) table = (.ok table' : Result (Table Authorization)) →
    Tabulates (fun d => declares d ∨ d ∈ decls) (fun name => relationships.find? fun r => r.name = name) table'
  | [], declares, table, htable, h => by
    cases h
    simpa using htable
  | decl :: rest, declares, table, htable, h => by
    rw [List.foldlM_cons] at h
    obtain ⟨middle, hmiddle, h⟩ := Result.bind_eq_ok.mp h
    obtain ⟨merged, hmerged, hmiddle⟩ := Result.bind_eq_ok.mp hmiddle
    cases hmiddle
    simpa [or_assoc] using Tabulates.foldlM (htable.insert hmerged) h

/-- The table of united declarations. -/
theorem tabulates_of_unite {decls : List AuthorizationDecl} (h : unite entity relationships decls = .ok table) :
    Tabulates (· ∈ decls) (fun name => relationships.find? fun r => r.name = name) table := by
  have hnone : Tabulates (fun _ => False) (fun name => relationships.find? fun r => r.name = name) [] :=
    ⟨by simp, by simp⟩
  simpa using Tabulates.foldlM hnone h

end Uniting

end Authorization

namespace Schema

/-! ## Built schemas -/

/-- Whether a type or one that its declared supertypes lead to makes a declaration. -/
def Authorizes (decls : List EntityDecl) (name : String) (authorization : AuthorizationDecl) : Prop :=
  ∃ decl ∈ decls, Relation.ReflTransGen (Extends decls) name decl.name ∧ authorization ∈ decl.authorizations

theorem authorizations_of_flatten {table : Table EntityDecl} {decl : EntityDecl} {above : List String}
    {entity : EntityType} (h : flatten table decl above = .ok entity) :
    Authorization.unite decl.name entity.relationships (decl.authorizations ++
      (above.filterMap fun x => List.lookup x table).flatMap (·.authorizations)) = .ok entity.authorizations := by
  unfold flatten at h
  simp only at h
  split at h
  · cases h
  · obtain ⟨_, hunite, h⟩ := Result.bind_eq_ok.mp h
    cases h
    exact hunite

namespace Flattens

variable {decls : List EntityDecl} {table : Table EntityDecl} {schema : Schema} {name : String} {entity : EntityType}

/-- The authorization of a type unites what it and the types above it declare, over the relationships that it has. -/
theorem tabulates (h : Flattens table schema) (htable : gather decls = .ok table)
    (hentity : schema.entity? name = some entity) :
    Authorization.Tabulates (Authorizes decls name) entity.relationship? entity.authorizations := by
  obtain ⟨hlookup, _⟩ := lookup_gather htable
  obtain ⟨decl, above, hdecl, hlineage, hflatten⟩ := h.flat name entity hentity
  have habove : ∀ x, x ∈ above ↔ Relation.TransGen (Extends decls) name x := fun x => by
    rw [(mem_ascend hlineage).2, declaredBelow_of_gather htable]
    simp
  have hdeclares : ∀ a, Authorizes decls name a ↔ a ∈ decl.authorizations ++
      (above.filterMap fun x => List.lookup x table).flatMap (·.authorizations) := by
    intro a
    rw [List.mem_append, List.mem_flatMap]
    constructor
    · rintro ⟨upper, hupper, hbelow, ha⟩
      have hfound := (hlookup upper.name upper).mpr ⟨hupper, rfl⟩
      rcases Relation.reflTransGen_iff_eq_or_transGen.mp hbelow with heq | hup
      · rw [heq, hdecl] at hfound
        cases hfound
        exact .inl ha
      · exact .inr ⟨upper, List.mem_filterMap.mpr ⟨_, (habove _).mpr hup, hfound⟩, ha⟩
    · rintro (ha | ⟨parent, hparent, ha⟩)
      · obtain ⟨hmem, rfl⟩ := (hlookup name decl).mp hdecl
        exact ⟨decl, hmem, .refl, ha⟩
      · obtain ⟨x, hx, hparent⟩ := List.mem_filterMap.mp hparent
        obtain ⟨hmem, rfl⟩ := (hlookup x parent).mp hparent
        exact ⟨parent, hmem, ((habove _).mp hx).to_reflTransGen, ha⟩
  have htabulates := Authorization.tabulates_of_unite (authorizations_of_flatten hflatten)
  rwa [← funext fun a => propext (hdeclares a)] at htabulates

end Flattens

/-- What a type above declares is declared for the types below it, too. -/
theorem Authorizes.below {decls : List EntityDecl} {name upper : String} {a : AuthorizationDecl}
    (h : Authorizes decls upper a) (hbelow : Relation.ReflTransGen (Extends decls) name upper) :
    Authorizes decls name a := by
  obtain ⟨decl, hdecl, hup, ha⟩ := h
  exact ⟨decl, hdecl, hbelow.trans hup, ha⟩

/-- In a schema that was built, a type has an authorization for exactly the permissions that it or a type above it
declares something for. It unites these declarations: rules and relationships are listed once each, and are those that
some declaration lists, the relationships as the type has them. So a type forbids whatever a type above it forbids. -/
theorem unites_of_build {decls : List EntityDecl} {schema : Schema} (h : build decls = .ok schema) {name : String}
    {entity : EntityType} (hentity : schema.entity? name = some entity) (permission : String) :
    ((∃ united, entity.authorization? permission = some united) ↔
      ∃ decl, Authorizes decls name decl ∧ decl.name = permission) ∧
    (∀ united, entity.authorization? permission = some united →
      united.Unites (fun decl => Authorizes decls name decl ∧ decl.name = permission) entity.relationship?) ∧
    ∀ upper ∈ entity.ancestors, ∀ above forbidding, schema.entity? upper = some above →
      above.authorization? permission = some forbidding →
        ∃ united, entity.authorization? permission = some united ∧
          ∀ rule ∈ forbidding.disallow, rule ∈ united.disallow := by
  obtain ⟨table, htable, hflattens⟩ := gather_of_build h
  have hown := hflattens.tabulates htable hentity
  refine ⟨hown.declared permission, hown.unites permission, ?_⟩
  intro upper hupper above forbidding habove hforbidding
  have hbelow := (((hflattens.wellFormed htable).ancestors name entity hentity upper).mp hupper).to_reflTransGen
  have hover := hflattens.tabulates htable habove
  obtain ⟨decl, hdecl, hname⟩ := (hover.declared permission).mp ⟨forbidding, hforbidding⟩
  obtain ⟨united, hunited⟩ := (hown.declared permission).mpr ⟨decl, hdecl.below hbelow, hname⟩
  refine ⟨united, hunited, fun rule hrule => ?_⟩
  obtain ⟨source, ⟨hsource, hfor⟩, hlisted⟩ := ((hover.unites permission forbidding hforbidding).disallow rule).mp hrule
  exact ((hown.unites permission united hunited).disallow rule).mpr ⟨source, ⟨hsource.below hbelow, hfor⟩, hlisted⟩

/-- Reports are drafts and records, and both are assets; what an asset forbids is declared again at drafts. -/
def assets : List EntityDecl :=
  [.declare "Folder" false [] [] [] [⟨"view", [], [], [], true⟩],
    .declare "Asset" true [] [⟨"folder", "", "Folder", "IN", .outgoing, .one, none⟩] []
      [⟨"view", [⟨"staff", []⟩], ["folder"], [⟨"locked", []⟩], false⟩],
    .declare "Draft" true [] [] ["Asset"]
      [⟨"view", [⟨"author", []⟩, ⟨"staff", []⟩], [], [], false⟩, ⟨"view", [], ["folder"], [⟨"locked", []⟩], false⟩],
    .declare "Record" true [] [] ["Asset"] [⟨"view", [], [], [⟨"sealed", []⟩], false⟩],
    .declare "Report" false [] [] ["Draft", "Record"] []]

theorem unites_of_build_assets : ∃ schema report united, build assets = .ok schema ∧
    schema.entity? "Report" = some report ∧ report.authorization? "view" = some united ∧
    united.allow = [⟨"author", []⟩, ⟨"staff", []⟩] ∧ united.disallow = [⟨"locked", []⟩, ⟨"sealed", []⟩] ∧
    united.allowFromRelated.map (·.name) = ["folder"] ∧
    united.Unites (fun decl => Authorizes assets "Report" decl ∧ decl.name = "view") report.relationship? := by
  have hbuilt : ∃ schema report united, build assets = .ok schema ∧ schema.entity? "Report" = some report ∧
      report.authorization? "view" = some united ∧ united.allow = [⟨"author", []⟩, ⟨"staff", []⟩] ∧
      united.disallow = [⟨"locked", []⟩, ⟨"sealed", []⟩] ∧ united.allowFromRelated.map (·.name) = ["folder"] :=
    ⟨_, _, _, rfl, rfl, rfl, rfl, rfl, rfl⟩
  obtain ⟨schema, report, united, hschema, hreport, hunited, hallow, hdisallow, hrelated⟩ := hbuilt
  exact ⟨schema, report, united, hschema, hreport, hunited, hallow, hdisallow, hrelated,
    (unites_of_build hschema hreport "view").2.1 united hunited⟩

end Schema

end GraphQuery
