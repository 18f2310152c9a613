import GraphQuery.Proofs.Authorization.Grants
import GraphQuery.Proofs.Schema.United

/-!
# How far a permission looks

The filter of a permission follows the relationships through which access is passed on from type to type, in circles if
the schema has them. `Access.Builds` describes the recursion with the hops counted upwards and without a bound on the
calls, and every type has one result there (`Access.builds_iff`). `Access.Hops` counts the hops that lead from a type to
another one. The recursion fails where more hops lead on than are allowed (`Access.exists_error_of_hops`); whatever else
makes it fail is a rule that it consults (`Access.exists_of_error`).
-/

namespace GraphQuery
namespace Access

variable {access : Access} {schema : Schema} {permission : Permission} {entity target : EntityType} {hops visits : Nat}

/-! ## Hops -/

/-- Whether access to the nodes of a type is inherited from those of another one: the type declares the permission, it
does not allow access to all of its nodes, and a relationship that passes access on ends at the other type. -/
def PassesFrom (schema : Schema) (permission : String) (entity target : EntityType) : Prop :=
  ∃ authorization, entity.authorization? permission = some authorization ∧ authorization.allowAll = false ∧
    ∃ r ∈ authorization.allowFromRelated, schema.entity r.target = .ok target

/-- Whether a chain of so many hops leads from a type to another one. -/
inductive Hops (schema : Schema) (permission : String) : Nat → EntityType → EntityType → Prop
  | here (entity : EntityType) : Hops schema permission 0 entity entity
  | hop {hops : Nat} {entity next target : EntityType} (hpasses : PassesFrom schema permission entity next)
      (hrest : Hops schema permission hops next target) : Hops schema permission (hops + 1) entity target

/-- The rules that the filter of an authorization is made of. -/
def consulted (authorization : Authorization) : List RuleRef :=
  (if authorization.allowAll then [] else authorization.allow) ++ authorization.disallow

/-- Whether a rule of a type is consulted for the filter of another one, from which an allowed number of hops leads to
it. -/
def Consults (access : Access) (schema : Schema) (permission : Permission) (entity type : EntityType) (rule : RuleRef) :
    Prop :=
  ∃ hops ≤ access.maxHops, Hops schema permission.name hops entity type ∧
    ∃ authorization, type.authorization? permission.name = some authorization ∧ rule ∈ consulted authorization

/-! ## The filter of one type -/

section FilterOf

variable {rules : RuleRegistry} {authorization : Authorization} {inherited inherited' : RelationshipDef → Result Filter}
  {e : Error}

/-- The filter depends on what is inherited only where something is. -/
theorem filterOf_congr (h : authorization.allowAll = false → ∀ r ∈ authorization.allowFromRelated,
    inherited r = inherited' r) :
    filterOf rules entity permission authorization inherited =
      filterOf rules entity permission authorization inherited' := by
  rw [filterOf_eq, filterOf_eq]
  unfold allowing
  split
  · rfl
  · rename_i hall
    have hrelated : (authorization.allowFromRelated.mapM fun r => return Filter.related r .any (← inherited r)) =
        authorization.allowFromRelated.mapM fun r => return Filter.related r .any (← inherited' r) :=
      Result.mapM_congr fun r hr => by rw [h (Bool.eq_false_iff.mpr hall) r hr]
    rw [hrelated]

/-- What makes the filter of a type fail is a rule or what is inherited. -/
theorem exists_of_filterOf (h : filterOf rules entity permission authorization inherited = .error e) :
    (∃ rule ∈ consulted authorization, rules.generate entity permission rule = .error e) ∨
      authorization.allowAll = false ∧ ∃ r ∈ authorization.allowFromRelated, inherited r = .error e := by
  rw [filterOf_eq] at h
  rcases Result.bind_eq_error.mp h with hallow | ⟨allow, _, hforbid⟩
  · unfold allowing at hallow
    split at hallow
    · cases hallow
    · rename_i hall
      rcases Result.bind_eq_error.mp hallow with hdirect | ⟨direct, _, hallow⟩
      · obtain ⟨rule, hrule, hfails⟩ := Result.mapM_eq_error hdirect
        exact .inl ⟨rule, List.mem_append_left _ (by rwa [if_neg hall]), hfails⟩
      · rcases Result.bind_eq_error.mp hallow with hrelated | ⟨_, _, hallow⟩
        · obtain ⟨r, hr, hstep⟩ := Result.mapM_eq_error hrelated
          rcases Result.bind_eq_error.mp hstep with hfails | ⟨_, _, hstep⟩
          · exact .inr ⟨Bool.eq_false_iff.mpr hall, r, hr, hfails⟩
          · cases hstep
        · cases hallow
  · unfold forbidding at hforbid
    split at hforbid
    · cases hforbid
    · rcases Result.bind_eq_error.mp hforbid with hdisallow | ⟨_, _, hforbid⟩
      · obtain ⟨rule, hrule, hfails⟩ := Result.mapM_eq_error hdisallow
        exact .inl ⟨rule, List.mem_append_right _ hrule, hfails⟩
      · cases hforbid

/-- The filter of a type fails with what it inherits. -/
theorem filterOf_fails (hall : authorization.allowAll = false) {r : RelationshipDef}
    (hr : r ∈ authorization.allowFromRelated) (hfails : inherited r = .error e) :
    ∃ e, filterOf rules entity permission authorization inherited = .error e := by
  cases hfilter : filterOf rules entity permission authorization inherited with
  | error e => exact ⟨e, rfl⟩
  | ok filter =>
    rw [filterOf_eq, allowing, if_neg (Bool.eq_false_iff.mp hall)] at hfilter
    obtain ⟨_, hallow, _⟩ := Result.bind_eq_ok.mp hfilter
    obtain ⟨_, _, hallow⟩ := Result.bind_eq_ok.mp hallow
    obtain ⟨_, hrelated, _⟩ := Result.bind_eq_ok.mp hallow
    obtain ⟨_, _, hstep⟩ := Result.answer_of_mem_mapM hrelated r hr
    obtain ⟨_, hpassed, _⟩ := Result.bind_eq_ok.mp hstep
    rw [hfails] at hpassed
    cases hpassed

end FilterOf

/-! ## The recursion over the types -/

/-- The results of the recursion that collects the filter of a permission, after so many hops: it stops where there are
more than allowed and where nothing is declared, and else makes the filter of a type of those of the types that access
is passed on from. -/
inductive Builds (access : Access) (schema : Schema) (permission : Permission) : Nat → EntityType → Result Filter → Prop
  | exceeded {hops : Nat} {entity : EntityType} (hmore : access.maxHops < hops) :
    Builds access schema permission hops entity
      (.error (.authorizationDepthExceeded permission.name entity.name access.maxHops))
  | undeclared {hops : Nat} {entity : EntityType} (hle : hops ≤ access.maxHops)
    (hdeclared : entity.authorization? permission.name = none) :
    Builds access schema permission hops entity (.ok .nothing)
  | declared {hops : Nat} {entity : EntityType} {authorization : Authorization}
    {inherited : RelationshipDef → Result Filter} (hle : hops ≤ access.maxHops)
    (hdeclared : entity.authorization? permission.name = some authorization)
    (hmissing : authorization.allowAll = false → ∀ r ∈ authorization.allowFromRelated, ∀ e,
      schema.entity r.target = .error e → inherited r = .error e)
    (hpasses : authorization.allowAll = false → ∀ r ∈ authorization.allowFromRelated, ∀ target,
      schema.entity r.target = .ok target → Builds access schema permission (hops + 1) target (inherited r)) :
    Builds access schema permission hops entity (filterOf access.rules entity permission authorization inherited)

theorem filterWithin_zero : access.filterWithin schema permission 0 entity =
    .error (.authorizationDepthExceeded permission.name entity.name access.maxHops) := by
  rw [filterWithin]

theorem filterWithin_undeclared (h : entity.authorization? permission.name = none) :
    access.filterWithin schema permission (visits + 1) entity = .ok .nothing := by
  rw [filterWithin, h]

theorem filterWithin_declared {authorization : Authorization}
    (h : entity.authorization? permission.name = some authorization) :
    access.filterWithin schema permission (visits + 1) entity =
      filterOf access.rules entity permission authorization fun r =>
        schema.entity r.target >>= access.filterWithin schema permission visits := by
  rw [filterWithin, h]

/-- The recursion has the filter within the visits that are left as a result. -/
theorem builds_filterWithin : ∀ {visits hops : Nat} {entity : EntityType}, hops + visits = access.maxHops + 1 →
    Builds access schema permission hops entity (access.filterWithin schema permission visits entity)
  | 0, hops, entity, hvisits => by
    rw [filterWithin_zero]
    exact .exceeded (by omega)
  | visits + 1, hops, entity, hvisits => by
    cases hdeclared : entity.authorization? permission.name with
    | none =>
      rw [filterWithin_undeclared hdeclared]
      exact .undeclared (by omega) hdeclared
    | some authorization =>
      rw [filterWithin_declared hdeclared]
      refine .declared (by omega) hdeclared (fun _ r _ e herror => ?_) fun _ r _ target htarget => ?_
      · rw [herror, Result.error_bind]
      · rw [htarget, Result.ok_bind]
        exact builds_filterWithin (by omega)

/-- It has no other result. -/
theorem Builds.eq_filterWithin {result : Result Filter} (h : Builds access schema permission hops entity result) :
    ∀ {visits : Nat}, hops + visits = access.maxHops + 1 →
      result = access.filterWithin schema permission visits entity := by
  induction h with
  | exceeded hmore =>
    intro visits hvisits
    obtain rfl : visits = 0 := by omega
    exact filterWithin_zero.symm
  | undeclared hle hdeclared =>
    intro visits hvisits
    obtain ⟨visits, rfl⟩ : ∃ left, visits = left + 1 := ⟨visits - 1, by omega⟩
    exact (filterWithin_undeclared hdeclared).symm
  | declared hle hdeclared hmissing _ ih =>
    intro visits hvisits
    obtain ⟨visits, rfl⟩ : ∃ left, visits = left + 1 := ⟨visits - 1, by omega⟩
    rw [filterWithin_declared hdeclared]
    refine filterOf_congr fun hall r hr => ?_
    cases htarget : schema.entity r.target with
    | error e => exact hmissing hall r hr e htarget
    | ok target => exact ih hall r hr target htarget (by omega)

/-! ## What makes it fail -/

/-- Where a chain of hops uses up all visits, there is no filter. -/
theorem exists_error_of_hops (h : Hops schema permission.name visits entity target) :
    ∃ e, access.filterWithin schema permission visits entity = .error e := by
  induction h with
  | here entity => exact ⟨_, filterWithin_zero⟩
  | hop hpasses _ ih =>
    obtain ⟨authorization, hdeclared, hall, r, hr, hnext⟩ := hpasses
    obtain ⟨e, he⟩ := ih
    rw [filterWithin_declared hdeclared]
    exact filterOf_fails hall hr (e := e) (by rw [hnext, Result.ok_bind, he])

/-- Whether access is passed on along relationships that end at types of the schema only. -/
def Closed (schema : Schema) (permission : String) : Prop :=
  ∀ name entity authorization, schema.entity? name = some entity →
    entity.authorization? permission = some authorization → ∀ r ∈ authorization.allowFromRelated,
      ∃ target, schema.entity? r.target = some target

/-- Where there is no filter, a chain of hops uses up all visits or a rule fails that is consulted on the way. -/
theorem exists_of_error (hclosed : Closed schema permission.name) :
    ∀ {visits : Nat} {name : String} {entity : EntityType} {e : Error}, schema.entity? name = some entity →
      access.filterWithin schema permission visits entity = .error e →
      (∃ target, Hops schema permission.name visits entity target ∧
        e = .authorizationDepthExceeded permission.name target.name access.maxHops) ∨
      ∃ hops < visits, ∃ type, Hops schema permission.name hops entity type ∧
        ∃ authorization, type.authorization? permission.name = some authorization ∧
          ∃ rule ∈ consulted authorization, access.rules.generate type permission rule = .error e
  | 0, _, entity, e, _, h => by
    rw [filterWithin_zero] at h
    cases h
    exact .inl ⟨entity, .here entity, rfl⟩
  | visits + 1, name, entity, e, hentity, h => by
    cases hdeclared : entity.authorization? permission.name with
    | none =>
      rw [filterWithin_undeclared hdeclared] at h
      cases h
    | some authorization =>
      rw [filterWithin_declared hdeclared] at h
      rcases exists_of_filterOf h with ⟨rule, hrule, hfails⟩ | ⟨hall, r, hr, hfails⟩
      · exact .inr ⟨0, by omega, entity, .here entity, authorization, hdeclared, rule, hrule, hfails⟩
      · obtain ⟨next, hnext⟩ := hclosed name entity authorization hentity hdeclared r hr
        have hpasses : PassesFrom schema permission.name entity next :=
          ⟨authorization, hdeclared, hall, r, hr, Schema.entity_eq_ok.mpr hnext⟩
        rw [Schema.entity_eq_ok.mpr hnext, Result.ok_bind] at hfails
        rcases exists_of_error hclosed hnext hfails with ⟨target, hhops, he⟩ | ⟨hops, hlt, type, hhops, hfails⟩
        · exact .inl ⟨target, .hop hpasses hhops, he⟩
        · exact .inr ⟨hops + 1, by omega, type, .hop hpasses hhops, hfails⟩

/-- In a schema that was built access is passed on along relationships of its types. -/
theorem closed_of_build {decls : List EntityDecl} (h : Schema.build decls = .ok schema) (permission : String) :
    Closed schema permission := by
  intro name entity authorization hentity hdeclared r hr
  obtain ⟨table, htable, hflattens⟩ := Schema.gather_of_build h
  have hunites := (hflattens.tabulates htable hentity).unites permission authorization hdeclared
  obtain ⟨_, _, _, _, hfound⟩ := (hunites.related r).mp hr
  exact (hflattens.wellFormed htable).targets name entity hentity r (List.mem_of_find?_eq_some hfound)

/-- For a type of a schema that was built, circles included, the recursion over the types has one result, the filter of
the permission. It fails where one hop more than allowed leads on from the type, through types that declare the
permission without allowing access to all nodes. Where no such chain of hops does, there is a filter if all consulted
rules give one: nothing but a chain and a rule makes it fail. -/
theorem filter_of_hops {decls : List EntityDecl} (h : Schema.build decls = .ok schema) {name : String}
    (hentity : schema.entity? name = some entity) (access : Access) (permission : Permission) :
    (∀ result, Builds access schema permission 0 entity result ↔ result = access.filter schema entity permission) ∧
    ((∃ target, Hops schema permission.name (access.maxHops + 1) entity target) →
      ∃ e, access.filter schema entity permission = .error e) ∧
    ((¬ ∃ target, Hops schema permission.name (access.maxHops + 1) entity target) →
      (∀ type rule, Consults access schema permission entity type rule →
        ∃ filter, access.rules.generate type permission rule = .ok filter) →
      ∃ filter, access.filter schema entity permission = .ok filter) ∧
    ∀ e, access.filter schema entity permission = .error e →
      (∃ target, Hops schema permission.name (access.maxHops + 1) entity target ∧
        e = .authorizationDepthExceeded permission.name target.name access.maxHops) ∨
      ∃ type rule, Consults access schema permission entity type rule ∧
        access.rules.generate type permission rule = .error e := by
  have hvisits : 0 + (access.maxHops + 1) = access.maxHops + 1 := Nat.zero_add _
  have horigin : ∀ e, access.filter schema entity permission = .error e →
      (∃ target, Hops schema permission.name (access.maxHops + 1) entity target ∧
        e = .authorizationDepthExceeded permission.name target.name access.maxHops) ∨
      ∃ type rule, Consults access schema permission entity type rule ∧
        access.rules.generate type permission rule = .error e := by
    intro e he
    refine (exists_of_error (closed_of_build h permission.name) hentity he).imp_right ?_
    rintro ⟨hops, hlt, type, hhops, authorization, hdeclared, rule, hrule, hfails⟩
    exact ⟨type, rule, ⟨hops, by omega, hhops, authorization, hdeclared, hrule⟩, hfails⟩
  refine ⟨fun result => ⟨fun hbuilds => hbuilds.eq_filterWithin hvisits, ?_⟩, ?_, fun hnone hrules => ?_, horigin⟩
  · rintro rfl
    exact builds_filterWithin hvisits
  · rintro ⟨target, hhops⟩
    exact exists_error_of_hops hhops
  · cases hfilter : access.filter schema entity permission with
    | ok filter => exact ⟨filter, rfl⟩
    | error e =>
      rcases horigin e hfilter with ⟨target, hhops, _⟩ | ⟨type, rule, hconsults, hfails⟩
      · exact absurd ⟨target, hhops⟩ hnone
      · obtain ⟨filter, hfilter⟩ := hrules type rule hconsults
        cases hfails.symm.trans hfilter

/-- A relationship to a single node. -/
def link (name owner target : String) : RelationshipDef := ⟨name, owner, target, "LINK", .outgoing, .one, none⟩

/-- Access goes around in a circle of two types; notes inherit it from drawers, all of which are open. -/
def circle : List EntityDecl :=
  [.declare "A" false [] [link "b" "A" "B"] [] [⟨"read", [], ["b"], [], false⟩],
    .declare "B" false [] [link "a" "B" "A"] [] [⟨"read", [], ["a"], [], false⟩],
    .declare "Drawer" false [] [link "a" "Drawer" "A"] [] [⟨"read", [], ["a"], [], true⟩],
    .declare "Note" false [] [link "drawer" "Note" "Drawer"] [] [⟨"read", [], ["drawer"], [], false⟩]]

/-- Three hops are allowed and no rule is known. -/
def threeHops : Access := ⟨.empty, 3⟩

theorem filter_of_hops_circle : ∃ schema a note, Schema.build circle = .ok schema ∧
    schema.entity? "A" = some a ∧ schema.entity? "Note" = some note ∧
    (∃ e, threeHops.filter schema a ⟨"read", []⟩ = .error e) ∧
    ∃ filter, threeHops.filter schema note ⟨"read", []⟩ = .ok filter := by
  obtain ⟨schema, a, b, drawer, note, hschema, ha, hb, hdrawer, hnote, hdeclaresA, hdeclaresB, hdeclaresDrawer,
    hdeclaresNote⟩ :
      ∃ schema a b drawer note, Schema.build circle = .ok schema ∧
        schema.entity? "A" = some a ∧ schema.entity? "B" = some b ∧ schema.entity? "Drawer" = some drawer ∧
        schema.entity? "Note" = some note ∧
        a.authorization? "read" = some ⟨[], [link "b" "A" "B"], [], false⟩ ∧
        b.authorization? "read" = some ⟨[], [link "a" "B" "A"], [], false⟩ ∧
        drawer.authorization? "read" = some ⟨[], [link "a" "Drawer" "A"], [], true⟩ ∧
        note.authorization? "read" = some ⟨[], [link "drawer" "Note" "Drawer"], [], false⟩ :=
    ⟨_, _, _, _, _, rfl, rfl, rfl, rfl, rfl, rfl, rfl, rfl, rfl⟩
  have hab : PassesFrom schema "read" a b :=
    ⟨_, hdeclaresA, rfl, _, List.mem_singleton_self _, Schema.entity_eq_ok.mpr hb⟩
  have hba : PassesFrom schema "read" b a :=
    ⟨_, hdeclaresB, rfl, _, List.mem_singleton_self _, Schema.entity_eq_ok.mpr ha⟩
  have hnext : ∀ target, PassesFrom schema "read" note target → target = drawer := by
    rintro target ⟨authorization, hdeclared, _, r, hr, htarget⟩
    cases hdeclaresNote.symm.trans hdeclared
    rw [List.mem_singleton.mp hr] at htarget
    exact Except.ok.inj (htarget.symm.trans (Schema.entity_eq_ok.mpr hdrawer))
  have hlast : ∀ target, ¬ PassesFrom schema "read" drawer target := by
    rintro target ⟨authorization, hdeclared, hall, _⟩
    cases hdeclaresDrawer.symm.trans hdeclared
    cases hall
  refine ⟨schema, a, note, hschema, ha, hnote, ?_, ?_⟩
  · exact (filter_of_hops hschema ha threeHops ⟨"read", []⟩).2.1
      ⟨a, .hop hab (.hop hba (.hop hab (.hop hba (.here a))))⟩
  · refine (filter_of_hops hschema hnote threeHops ⟨"read", []⟩).2.2.1 ?_ ?_
    · rintro ⟨target, hhops⟩
      cases hhops with
      | hop hfirst hrest =>
        cases hnext _ hfirst
        cases hrest with
        | hop hsecond _ => exact hlast _ hsecond
    · rintro type rule ⟨hops, _, hhops, authorization, hdeclared, hrule⟩
      have hnone : consulted authorization = [] := by
        cases hhops with
        | here =>
          cases hdeclaresNote.symm.trans hdeclared
          rfl
        | hop hfirst hrest =>
          cases hnext _ hfirst
          cases hrest with
          | here =>
            cases hdeclaresDrawer.symm.trans hdeclared
            rfl
          | hop hsecond _ => exact absurd hsecond (hlast _)
      rw [hnone] at hrule
      cases hrule

end Access
end GraphQuery
