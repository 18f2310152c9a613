import GraphQuery.Proofs.Schema.WellFormed

/-!
# Which declaration a type inherits

The lineage of a type lists what a depth-first search meets: a supertype, all that lies above it, and only then the next
supertype. So of a name that several types above declare, a type has the declaration of the one that the search meets
first (`Schema.Foremost`, `Schema.Climbs.foremost`). This need not be a nearest one (`Schema.Nearest`): a supertype that
comes earlier may lead to a declaration further up. It is a nearest one where the first supertype that leads to a
declaration leads to one as near as any other does (`Schema.Levelled`, `Schema.Foremost.nearest`).
-/

namespace GraphQuery
namespace Schema

variable {decls : List EntityDecl} {table : Table EntityDecl} {P : String → Prop} {name upper : String}

/-! ## Distances -/

/-- Whether going up so many times leads from the first type to the second. -/
inductive Rises (decls : List EntityDecl) : (steps : Nat) → (name upper : String) → Prop
  | here (name : String) : Rises decls 0 name name
  | up {steps : Nat} {name supertype upper : String} :
      Extends decls name supertype → Rises decls steps supertype upper → Rises decls (steps + 1) name upper

@[simp] theorem rises_zero : Rises decls 0 name upper ↔ name = upper := by
  constructor
  · rintro ⟨⟩
    rfl
  · rintro rfl
    exact .here name

@[simp] theorem rises_succ {steps : Nat} :
    Rises decls (steps + 1) name upper ↔ ∃ supertype, Extends decls name supertype ∧ Rises decls steps supertype upper := by
  constructor
  · rintro (_ | ⟨hup, hrises⟩)
    exact ⟨_, hup, hrises⟩
  · exact fun ⟨_, hup, hrises⟩ => .up hup hrises

theorem Rises.reaches {steps : Nat} (h : Rises decls steps name upper) :
    Relation.ReflTransGen (Extends decls) name upper := by
  induction h with
  | here => exact .refl
  | up hup _ ih => exact .head hup ih

/-- Whether a type is at or above another, has a property, and no type there with the property is nearer. -/
def Nearest (decls : List EntityDecl) (P : String → Prop) (name upper : String) : Prop :=
  P upper ∧ ∃ steps, Rises decls steps name upper ∧
    ∀ further other, Rises decls further name other → P other → steps ≤ further

/-! ## Searching depth first -/

/-- The first type with a property that a search meets which goes through several types, each followed by all that lies
above it. -/
inductive Foremost (decls : List EntityDecl) (P : String → Prop) : List String → String → Prop
  | here {name : String} {rest : List String} : P name → Foremost decls P (name :: rest) name
  | above {decl : EntityDecl} {rest : List String} {upper : String} : decl ∈ decls → ¬ P decl.name →
      Foremost decls P decl.supertypes upper → Foremost decls P (decl.name :: rest) upper
  | next {name : String} {rest : List String} {upper : String} :
      (∀ other, Relation.ReflTransGen (Extends decls) name other → ¬ P other) →
      Foremost decls P rest upper → Foremost decls P (name :: rest) upper

/-- What is met has the property and lies at or above one of the types. -/
theorem Foremost.reaches {names : List String} (h : Foremost decls P names upper) :
    P upper ∧ ∃ name ∈ names, Relation.ReflTransGen (Extends decls) name upper := by
  induction h with
  | here hp => exact ⟨hp, _, List.mem_cons_self, .refl⟩
  | above hdecl _ _ ih =>
    obtain ⟨hp, supertype, hsupertype, hreaches⟩ := ih
    exact ⟨hp, _, List.mem_cons_self, .head ⟨_, hdecl, rfl, hsupertype⟩ hreaches⟩
  | next _ _ ih =>
    obtain ⟨hp, other, hother, hreaches⟩ := ih
    exact ⟨hp, other, List.mem_cons_of_mem _ hother, hreaches⟩

/-- Where a type is declared once, the search meets one type first. -/
theorem Foremost.unique (hdeclared : ∀ a ∈ decls, ∀ b ∈ decls, a.name = b.name → a = b) {names : List String}
    (h : Foremost decls P names upper) : ∀ {other}, Foremost decls P names other → upper = other := by
  induction h with
  | here hp =>
    intro other h
    cases h with
    | here => rfl
    | above _ hnot => exact absurd hp hnot
    | next hnone => exact absurd hp (hnone _ .refl)
  | above hdecl hnot habove ih =>
    intro other h
    generalize hname : EntityDecl.name _ = name at h
    cases h with
    | here hp => exact absurd hp (hname ▸ hnot)
    | above hdecl' _ habove' =>
      cases hdeclared _ hdecl _ hdecl' hname
      exact ih habove'
    | next hnone =>
      obtain ⟨hp, supertype, hsupertype, hreaches⟩ := habove.reaches
      exact absurd hp (hnone _ (.head ⟨_, hdecl, hname, hsupertype⟩ hreaches))
  | next hnone hrest ih =>
    intro other h
    cases h with
    | here hp => exact absurd hp (hnone _ .refl)
    | above hdecl _ habove =>
      obtain ⟨hp, supertype, hsupertype, hreaches⟩ := habove.reaches
      exact absurd hp (hnone _ (.head ⟨_, hdecl, rfl, hsupertype⟩ hreaches))
    | next _ hrest' => exact ih hrest'

/-- Whether, at and above a type, the first supertype that leads to a type with a property leads to one as near as the
supertypes after it do. -/
def Levelled (decls : List EntityDecl) (P : String → Prop) (name : String) : Prop :=
  ∀ decl ∈ decls, Relation.ReflTransGen (Extends decls) name decl.name → ∀ before first after,
    decl.supertypes = before ++ first :: after →
    (∀ earlier ∈ before, ∀ other, Relation.ReflTransGen (Extends decls) earlier other → ¬ P other) →
    (∃ other, Relation.ReflTransGen (Extends decls) first other ∧ P other) →
      ∀ later ∈ after, ∀ steps other, Rises decls steps later other → P other →
        ∃ fewer near, fewer ≤ steps ∧ Rises decls fewer first near ∧ P near

/-- Going up keeps a type levelled. -/
theorem Levelled.up (h : Levelled decls P name) {supertype : String} (hup : Extends decls name supertype) :
    Levelled decls P supertype :=
  fun decl hdecl hreaches => h decl hdecl (.head hup hreaches)

/-- Of levelled types the search meets a nearest one of those that the first of them leads to that leads to any. -/
theorem Foremost.nearest (hdeclared : ∀ a ∈ decls, ∀ b ∈ decls, a.name = b.name → a = b) {names : List String}
    (h : Foremost decls P names upper) : (∀ name ∈ names, Levelled decls P name) → ∃ before first after,
      names = before ++ first :: after ∧
      (∀ earlier ∈ before, ∀ other, Relation.ReflTransGen (Extends decls) earlier other → ¬ P other) ∧
      Nearest decls P first upper := by
  induction h with
  | @here name rest hp =>
    exact fun _ => ⟨[], name, rest, rfl, nofun, hp, 0, .here name, fun _ _ _ _ => Nat.zero_le _⟩
  | @above decl rest upper hdecl hnot habove ih =>
    intro hlevelled
    have hlevel : Levelled decls P decl.name := hlevelled _ List.mem_cons_self
    obtain ⟨before, first, after, hsplit, hbefore, hp, steps, hrises, hleast⟩ :=
      ih fun supertype hsupertype => hlevel.up ⟨decl, hdecl, rfl, hsupertype⟩
    have hfirst : Extends decls decl.name first := ⟨decl, hdecl, rfl, by simp [hsplit]⟩
    refine ⟨[], decl.name, rest, rfl, nofun, hp, steps + 1, .up hfirst hrises, fun further other hother hpo => ?_⟩
    cases hother with
    | here => exact absurd hpo hnot
    | @up fewer _ supertype _ hup hother =>
      obtain ⟨decl', hdecl', hname, hsupertype⟩ := hup
      cases hdeclared decl' hdecl' decl hdecl hname
      rw [hsplit, List.mem_append, List.mem_cons] at hsupertype
      refine Nat.succ_le_succ ?_
      rcases hsupertype with hearlier | rfl | hlater
      · exact absurd hpo (hbefore supertype hearlier other hother.reaches)
      · exact hleast fewer other hother hpo
      · obtain ⟨nearer, near, hle, hnear, hpn⟩ := hlevel decl hdecl .refl before first after hsplit hbefore
          ⟨upper, hrises.reaches, hp⟩ supertype hlater fewer other hother hpo
        exact Nat.le_trans (hleast nearer near hnear hpn) hle
  | @next name rest upper hnone _ ih =>
    intro hlevelled
    obtain ⟨before, first, after, rfl, hbefore, hnearest⟩ :=
      ih fun other hother => hlevelled _ (List.mem_cons_of_mem _ hother)
    exact ⟨name :: before, first, after, rfl, List.forall_mem_cons.mpr ⟨hnone, hbefore⟩, hnearest⟩

/-! ## Walks -/

/-- A walk that succeeds keeps what was found before and finds all that its supertypes lead to. -/
theorem Climbs.finds {supertypes path found : List String} {result : Result (List String)}
    (h : Climbs table supertypes path found result) : ∀ {above}, result = .ok above → found <+: above ∧
      ∀ supertype ∈ supertypes, ∀ x, Relation.ReflTransGen (DeclaredBelow table) supertype x → x ∈ above := by
  induction h with
  | done =>
    rintro _ ⟨⟩
    exact ⟨List.prefix_refl _, nofun⟩
  | cycle => rintro _ ⟨⟩
  | unknown => rintro _ ⟨⟩
  | failed => rintro _ ⟨⟩
  | @next first rest path found middle decl result _ hdecl _ _ ihAbove ihRest =>
    intro above hok
    obtain ⟨hfound, habove⟩ := ihAbove rfl
    obtain ⟨hmiddle, hrest⟩ := ihRest hok
    have hfirst : first ∈ (if first ∈ found then found else found ++ [first]) := by
      split
      · assumption
      · simp
    have hbefore : found <+: (if first ∈ found then found else found ++ [first]) := by
      split
      · exact List.prefix_refl _
      · exact List.prefix_append _ _
    refine ⟨hbefore.trans (hfound.trans hmiddle), List.forall_mem_cons.mpr ⟨fun x hx => hmiddle.subset ?_, hrest⟩⟩
    rcases Relation.ReflTransGen.cases_head hx with rfl | ⟨supertype, ⟨decl', hdecl', hsupertype⟩, hx⟩
    · exact hfound.subset hfirst
    · cases hdecl.symm.trans hdecl'
      exact habove supertype hsupertype x hx

/-- The first type with a property that a walk adds is the one that the search meets first. -/
theorem Climbs.foremost (htable : gather decls = .ok table) {p : String → Bool} {supertypes path found : List String}
    {result : Result (List String)} (h : Climbs table supertypes path found result) : ∀ {above x}, result = .ok above →
      found.find? p = none → above.find? p = some x → Foremost decls (fun y => p y = true) supertypes x := by
  induction h with
  | done =>
    rintro above x ⟨⟩ hnone hx
    cases hnone.symm.trans hx
  | cycle => rintro _ _ ⟨⟩
  | unknown => rintro _ _ ⟨⟩
  | failed => rintro _ _ ⟨⟩
  | @next first rest path found middle decl result hnew hdecl hclimbs hclimbsRest ihAbove ihRest =>
    intro above x hok hnone hx
    have hfirst : Climbs table [first] path found (.ok middle) := .next hnew hdecl hclimbs .done
    obtain ⟨_, hfinds⟩ := hfirst.finds rfl
    obtain ⟨⟨later, rfl⟩, _⟩ := hclimbsRest.finds hok
    obtain ⟨hmem, rfl⟩ := ((lookup_gather htable).1 first decl).mp hdecl
    cases hmiddle : middle.find? p with
    | none =>
      refine .next (fun other hother hp => ?_) (ihRest hok hmiddle hx)
      rw [← declaredBelow_of_gather htable] at hother
      exact List.find?_eq_none.mp hmiddle other (hfinds _ List.mem_cons_self other hother) hp
    | some y =>
      rw [List.find?_append, hmiddle] at hx
      cases hx
      by_cases hp : p decl.name = true
      · -- the type itself is the next that was found
        have hnotin : decl.name ∉ found := fun hmem => List.find?_eq_none.mp hnone _ hmem hp
        obtain ⟨⟨others, hothers⟩, _⟩ := hclimbs.finds rfl
        rw [if_neg hnotin] at hothers
        rw [← hothers, List.find?_append, List.find?_append, hnone, List.find?_cons_of_pos hp] at hmiddle
        cases hmiddle
        exact .here hp
      · refine .above hmem hp (ihAbove rfl ?_ hmiddle)
        split
        · exact hnone
        · rw [List.find?_append, hnone, List.find?_cons_of_neg hp]
          rfl

/-! ## Inherited members -/

section Members

variable {α : Type} {nameOf : α → String} {declares : EntityDecl → List α} {key : String} {m : α}

/-- Whether a type declares a member under a name. -/
def Declares (decls : List EntityDecl) (nameOf : α → String) (declares : EntityDecl → List α) (key name : String)
    (m : α) : Prop :=
  ∃ decl ∈ decls, decl.name = name ∧ m ∈ declares decl ∧ nameOf m = key

/-- Whether a type declares any member under a name. -/
def Declarer (decls : List EntityDecl) (nameOf : α → String) (declares : EntityDecl → List α) (key name : String) :
    Prop :=
  ∃ m, Declares decls nameOf declares key name m

/-- A type has a member under the names under which it or a type above it declares one. -/
theorem Resolves.exists_iff {member? : String → Option α}
    (h : Resolves decls name nameOf declares member?) : (∃ m, member? key = some m) ↔
      ∃ upper, Relation.ReflTransGen (Extends decls) name upper ∧ Declarer decls nameOf declares key upper := by
  constructor
  · rintro ⟨m, hm⟩
    obtain ⟨hkey, decl, hdecl, hbelow, hdeclares⟩ := h.source key m hm
    exact ⟨decl.name, hbelow, m, decl, hdecl, rfl, hdeclares, hkey⟩
  · rintro ⟨_, hbelow, m, decl, hdecl, rfl, hm, rfl⟩
    exact h.found decl hdecl hbelow m hm

/-- Which member a type has under a name. -/
structure Inherits (decls : List EntityDecl) (nameOf : α → String) (declares : EntityDecl → List α) (name key : String)
    (found : Option α) : Prop where
  /-- There is one just if the type declares one or a type above it does. -/
  declared : (∃ m, found = some m) ↔
    ∃ upper, Relation.ReflTransGen (Extends decls) name upper ∧ Declarer decls nameOf declares key upper
  /-- It is the declaration that a search meets first which starts at the type and goes depth first. -/
  foremost : ∀ m, found = some m ↔ ∃ upper, Foremost decls (Declarer decls nameOf declares key) [name] upper ∧
    Declares decls nameOf declares key upper m
  /-- Where the type is levelled no declaration is nearer. -/
  nearest : Levelled decls (Declarer decls nameOf declares key) name → ∀ m, found = some m →
    ∃ upper, Nearest decls (Declarer decls nameOf declares key) name upper ∧
      Declares decls nameOf declares key upper m

variable {decl : EntityDecl} {above : List String}

/-- What a gathered type declares under a name. -/
def declared? (table : Table EntityDecl) (nameOf : α → String) (declares : EntityDecl → List α) (key name : String) :
    Option α :=
  (List.lookup name table).bind fun decl => (declares decl).find? fun m => nameOf m = key

theorem declares_of_declared? (htable : gather decls = .ok table)
    (h : declared? table nameOf declares key name = some m) : Declares decls nameOf declares key name m := by
  obtain ⟨decl, hdecl, hm⟩ := Option.bind_eq_some_iff.mp h
  obtain ⟨hmem, rfl⟩ := ((lookup_gather htable).1 name decl).mp hdecl
  exact ⟨decl, hmem, rfl, List.mem_of_find?_eq_some hm, by simpa using List.find?_some hm⟩

theorem declarer_iff (htable : gather decls = .ok table) :
    Declarer decls nameOf declares key name ↔ (declared? table nameOf declares key name).isSome = true := by
  rw [Option.isSome_iff_exists]
  constructor
  · rintro ⟨m, decl, hdecl, hname, hm, hkey⟩
    have hsome : ((declares decl).find? fun k => nameOf k = key).isSome = true := by
      rw [List.find?_isSome]
      exact ⟨m, hm, decide_eq_true hkey⟩
    rw [declared?, ((lookup_gather htable).1 name decl).mpr ⟨hdecl, hname⟩]
    exact Option.isSome_iff_exists.mp hsome
  · exact fun ⟨m, hm⟩ => ⟨m, declares_of_declared? htable hm⟩

/-- By its name a type's own member is found, and else that of the first type of its lineage with one. -/
theorem find?_inherited : (inherited table nameOf declares decl above).find? (fun m => nameOf m = key) =
    ((declares decl).find? fun m => nameOf m = key).or (above.findSome? (declared? table nameOf declares key)) := by
  rw [inherited, find?_name_foldl_addMembers]
  congr 1
  induction above with
  | nil => rfl
  | cons x rest ih =>
    rw [List.filterMap_cons, List.findSome?_cons, ← ih]
    cases hparent : List.lookup x table <;> simp only [declared?, hparent, Option.bind, List.findSome?_cons]

/-- A member found by its name is declared by the type that a search meets first. -/
theorem foremost_of_inherited (htable : gather decls = .ok table) (hdecl : List.lookup name table = some decl)
    (hlineage : lineage table name = .ok above)
    (hm : (inherited table nameOf declares decl above).find? (fun m => nameOf m = key) = some m) :
    ∃ upper, Foremost decls (Declarer decls nameOf declares key) [name] upper ∧
      Declares decls nameOf declares key upper m := by
  obtain ⟨hmem, rfl⟩ := ((lookup_gather htable).1 name decl).mp hdecl
  have hown : declared? table nameOf declares key decl.name = (declares decl).find? fun m => nameOf m = key := by
    rw [declared?, hdecl]
    rfl
  rw [find?_inherited, ← hown, Option.or_eq_some_iff] at hm
  rcases hm with hm | ⟨hnone, hm⟩
  · have hdeclares := declares_of_declared? htable hm
    exact ⟨decl.name, .here ⟨m, hdeclares⟩, hdeclares⟩
  · obtain ⟨before, upper, after, hsplit, hupper, hbefore⟩ := List.findSome?_eq_some_iff.mp hm
    have hfirst : above.find? (fun x => (declared? table nameOf declares key x).isSome) = some upper := by
      rw [List.find?_eq_some_iff_append]
      refine ⟨by rw [hupper]; rfl, before, after, hsplit, fun x hx => ?_⟩
      rw [hbefore x hx]
      rfl
    have hforemost := ((climbs_lineage hdecl).mpr rfl).foremost htable hlineage rfl hfirst
    simp only [← declarer_iff htable] at hforemost
    refine ⟨upper, .above hmem ?_ hforemost, declares_of_declared? htable hupper⟩
    rw [declarer_iff htable, hnone]
    exact Bool.false_ne_true

/-- Gathered types are declared once. -/
theorem eq_of_gather (htable : gather decls = .ok table) : ∀ a ∈ decls, ∀ b ∈ decls, a.name = b.name → a = b := by
  obtain ⟨hlookup, _⟩ := lookup_gather htable
  intro a ha b hb hname
  exact Option.some.inj (((hlookup _ a).mpr ⟨ha, hname⟩).symm.trans ((hlookup _ b).mpr ⟨hb, rfl⟩))

theorem Declares.unique (htable : gather decls = .ok table) (hnodup : ∀ decl ∈ decls, ((declares decl).map nameOf).Nodup)
    {other : α} (h : Declares decls nameOf declares key name m) (hother : Declares decls nameOf declares key name other) :
    m = other := by
  obtain ⟨decl, hdecl, rfl, hm, rfl⟩ := h
  obtain ⟨decl', hdecl', hname, hother, hkey⟩ := hother
  cases eq_of_gather htable decl' hdecl' decl hdecl hname
  have hfound := find?_of_nodup (hnodup decl hdecl) hother
  rw [hkey, find?_of_nodup (hnodup decl hdecl) hm] at hfound
  exact Option.some.inj hfound

theorem inherits_inherited (htable : gather decls = .ok table) (hdecl : List.lookup name table = some decl)
    (hlineage : lineage table name = .ok above) (hnodup : ∀ decl ∈ decls, ((declares decl).map nameOf).Nodup) :
    Inherits decls nameOf declares name key
      ((inherited table nameOf declares decl above).find? fun m => nameOf m = key) := by
  have hunique := eq_of_gather htable
  have hdeclared : (∃ m, (inherited table nameOf declares decl above).find? (fun m => nameOf m = key) = some m) ↔
      ∃ upper, Relation.ReflTransGen (Extends decls) name upper ∧ Declarer decls nameOf declares key upper :=
    (resolves_inherited nameOf declares htable hdecl hlineage hnodup).exists_iff
  have hforemost : ∀ m, (inherited table nameOf declares decl above).find? (fun m => nameOf m = key) = some m →
      ∃ upper, Foremost decls (Declarer decls nameOf declares key) [name] upper ∧
        Declares decls nameOf declares key upper m :=
    fun _ => foremost_of_inherited htable hdecl hlineage
  refine ⟨hdeclared, fun m => ⟨hforemost m, fun ⟨upper, hupper, hm⟩ => ?_⟩, fun hlevelled m hm => ?_⟩
  · obtain ⟨_, _, hname, hreaches⟩ := hupper.reaches
    cases List.mem_singleton.mp hname
    obtain ⟨found, hfound⟩ := hdeclared.mpr ⟨upper, hreaches, m, hm⟩
    obtain ⟨other, hother, hdeclares⟩ := hforemost found hfound
    cases hupper.unique hunique hother
    rw [hfound, hdeclares.unique htable hnodup hm]
  · obtain ⟨upper, hupper, hdeclares⟩ := hforemost m hm
    obtain ⟨before, first, after, hsplit, _, hnearest⟩ :=
      hupper.nearest hunique (List.forall_mem_singleton.mpr hlevelled)
    have hfirst : first ∈ [name] := hsplit ▸ List.mem_append_right before List.mem_cons_self
    exact ⟨upper, List.mem_singleton.mp hfirst ▸ hnearest, hdeclares⟩

/-- Under every name a type of a built schema has the declaration that a search meets first which starts at the type
and goes depth first, of its properties as of its relationships. -/
theorem inherits_of_build {schema : Schema} (h : build decls = .ok schema) {entity : EntityType}
    (hentity : schema.entity? name = some entity) (key : String) :
    Inherits decls (·.name) (·.properties) name key (entity.property? key) ∧
      Inherits decls (·.name) (·.relationships) name key (entity.relationship? key) := by
  obtain ⟨table, htable, hflattens⟩ := gather_of_build h
  obtain ⟨decl, above, hdecl, hlineage, hflatten⟩ := hflattens.flat name entity hentity
  obtain ⟨hproperties, hrelationships⟩ := members_of_flatten hflatten
  have hnodup := (lookup_gather htable).2
  constructor
  · rw [EntityType.property?, hproperties]
    exact inherits_inherited htable hdecl hlineage fun decl hdecl => (List.nodup_append.mp (hnodup decl hdecl)).1
  · rw [EntityType.relationship?, hrelationships]
    exact inherits_inherited htable hdecl hlineage fun decl hdecl => (List.nodup_append.mp (hnodup decl hdecl)).2.1

end Members

/-- Trucks are vehicles, which are assets, and have plates. -/
def fleet : List EntityDecl :=
  [.declare "Asset" false [⟨"code", .string, false⟩] [] [] [], .declare "Vehicle" false [] [] ["Asset"] [],
    .declare "Plated" false [⟨"code", .int, false⟩] [] [] [], .declare "Truck" false [] [] ["Vehicle", "Plated"] []]

/-- A truck has the code of an asset, while that of a plate is nearer. -/
theorem inherits_of_build_fleet : ∃ schema truck, build fleet = .ok schema ∧ schema.entity? "Truck" = some truck ∧
    (∃ upper, Foremost fleet (Declarer fleet (·.name) (·.properties) "code") ["Truck"] upper ∧
      Declares fleet (·.name) (·.properties) "code" upper ⟨"code", .string, false⟩) ∧
    truck.property? "code" = some ⟨"code", .string, false⟩ ∧
    Nearest fleet (Declarer fleet (·.name) (·.properties) "code") "Truck" "Plated" ∧
    ¬ Nearest fleet (Declarer fleet (·.name) (·.properties) "code") "Truck" "Asset" := by
  obtain ⟨schema, truck, hschema, htruck, hcode⟩ : ∃ schema truck, build fleet = .ok schema ∧
      schema.entity? "Truck" = some truck ∧ truck.property? "code" = some ⟨"code", .string, false⟩ :=
    ⟨_, _, rfl, rfl, rfl⟩
  have hplated : Declarer fleet (·.name) (·.properties) "code" "Plated" :=
    ⟨⟨"code", .int, false⟩, .declare "Plated" false [⟨"code", .int, false⟩] [] [] [], by decide, rfl, by decide, rfl⟩
  have htruck_not : ¬ Declarer fleet (·.name) (·.properties) "code" "Truck" := by
    simp [Declarer, Declares, fleet, EntityDecl.declare, idProperty]
  have hup : Rises fleet 1 "Truck" "Plated" := by simp [Extends, fleet, EntityDecl.declare]
  have hasset : ¬ Rises fleet 1 "Truck" "Asset" := by simp [Extends, fleet, EntityDecl.declare]
  refine ⟨schema, truck, hschema, htruck, ((inherits_of_build hschema htruck "code").1.foremost _).mp hcode, hcode,
    ⟨hplated, 1, hup, fun further other hother hcode => ?_⟩, ?_⟩
  · rcases further with _ | further
    · exact absurd (rises_zero.mp hother ▸ hcode) htruck_not
    · exact Nat.succ_le_succ (Nat.zero_le further)
  · rintro ⟨_, steps, hrises, hleast⟩
    have hle : steps ≤ 1 := hleast 1 "Plated" hup hplated
    rcases Nat.le_one_iff_eq_zero_or_eq_one.mp hle with rfl | rfl
    · exact absurd (rises_zero.mp hrises) (by decide)
    · exact hasset hrises

end Schema
end GraphQuery
