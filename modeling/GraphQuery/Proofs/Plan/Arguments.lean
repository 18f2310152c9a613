import GraphQuery.Plan.Arguments
import GraphQuery.Proofs.Result

/-!
# Fields with the same arguments

Two fields have the same arguments when these are equal as JSON trees, the zeros of both signs counting as one number.
When the arguments of one field make options, those of the other make options that are written as the same tree
(`Field.options_of_sameArguments`). Whether the total is wanted does not matter to what the arguments say
(`Field.options_withTotal`).
-/

namespace GraphQuery

/-! ## Results that carry over -/

namespace Result

variable {α β γ δ : Type} {R : α → β → Prop} {S : γ → δ → Prop}

/-- When the first run succeeds so does the second, with a related result. -/
def Carries (R : α → β → Prop) (x : Result α) (y : Result β) : Prop := ∀ a, x = .ok a → ∃ b, y = .ok b ∧ R a b

theorem Carries.ok {a : α} {b : β} (h : R a b) : Carries R (.ok a) (.ok b) := by
  rintro _ ⟨⟩
  exact ⟨b, rfl, h⟩

theorem Carries.error (e : Error) (y : Result β) : Carries R (.error e) y := nofun

theorem Carries.bind {x : Result α} {y : Result β} {f : α → Result γ} {g : β → Result δ} (h : Carries R x y)
    (hfg : ∀ a b, R a b → Carries S (f a) (g b)) : Carries S (x >>= f) (y >>= g) := by
  intro c hc
  obtain ⟨a, ha, hc⟩ := bind_eq_ok.mp hc
  obtain ⟨b, hb, hab⟩ := h a ha
  obtain ⟨d, hd, hcd⟩ := hfg a b hab c hc
  exact ⟨d, bind_eq_ok.mpr ⟨b, hb, hd⟩, hcd⟩

theorem Carries.map {x : Result α} {y : Result β} {f : α → γ} {g : β → δ} (h : Carries R x y)
    (hfg : ∀ a b, R a b → S (f a) (g b)) : Carries S (f <$> x) (g <$> y) := by
  intro c hc
  obtain ⟨a, ha, rfl⟩ := map_eq_ok.mp hc
  obtain ⟨b, hb, hab⟩ := h a ha
  exact ⟨g b, map_eq_ok.mpr ⟨b, hb, rfl⟩, hfg a b hab⟩

theorem Carries.of_eq {x y : Result α} {R : α → α → Prop} (hR : ∀ a, R a a) (h : x = y) : Carries R x y :=
  fun a ha => ⟨a, h ▸ ha, hR a⟩

end Result

/-! ## Trees that are the same -/

namespace Json

/-- Positive zero for both zeros, and any other number itself. -/
def positiveZero (x : Binary64) : Binary64 := if x.isZero then .zero else x

theorem sameNumber_iff {x y : Binary64} : sameNumber x y = true ↔ positiveZero x = positiveZero y := by
  simp only [sameNumber, positiveZero, Bool.or_eq_true, Bool.and_eq_true, decide_eq_true_eq]
  split <;> split <;> grind [Binary64.isZero, Binary64.zero]

mutual

/-- The tree with positive zeros for the negative ones. -/
def zerosPositive : Json → Json
  | null => null
  | bool b => bool b
  | int n => int n
  | float x => float (positiveZero x)
  | string s => string s
  | array items => array (itemsPositive items)
  | object fields => object (fieldsPositive fields)

def itemsPositive : List Json → List Json
  | [] => []
  | a :: rest => a.zerosPositive :: itemsPositive rest

def fieldsPositive : List (String × Json) → List (String × Json)
  | [] => []
  | (name, a) :: rest => (name, a.zerosPositive) :: fieldsPositive rest

end

mutual

/-- Being the same is being equal but for the signs of zeros. -/
theorem same_iff : ∀ {a b : Json}, same a b = true ↔ a.zerosPositive = b.zerosPositive
  | .array as, b => by
    cases b with
    | array bs => rw [same, sameItems_iff, zerosPositive, zerosPositive, array.injEq]
    | _ => simp [same, zerosPositive]
  | .object as, b => by
    cases b with
    | object bs => rw [same, sameFields_iff, zerosPositive, zerosPositive, object.injEq]
    | _ => simp [same, zerosPositive]
  | .float x, b => by
    cases b with
    | float y => rw [same, sameNumber_iff, zerosPositive, zerosPositive, float.injEq]
    | _ => simp [same, zerosPositive]
  | .null, b | .bool _, b | .int _, b | .string _, b => by cases b <;> simp [same, zerosPositive]

theorem sameItems_iff : ∀ {as bs : List Json}, sameItems as bs = true ↔ itemsPositive as = itemsPositive bs
  | [], [] => by simp [sameItems]
  | [], _ :: _ | _ :: _, [] => by simp [sameItems, itemsPositive]
  | a :: as, b :: bs => by
    rw [sameItems, Bool.and_eq_true, same_iff, sameItems_iff, itemsPositive, itemsPositive, List.cons.injEq]

theorem sameFields_iff : ∀ {as bs : List (String × Json)},
    sameFields as bs = true ↔ fieldsPositive as = fieldsPositive bs
  | [], [] => by simp [sameFields]
  | [], _ :: _ | _ :: _, [] => by simp [sameFields, fieldsPositive]
  | (m, a) :: as, (n, b) :: bs => by
    rw [sameFields, Bool.and_eq_true, Bool.and_eq_true, decide_eq_true_eq, same_iff, sameFields_iff, fieldsPositive,
      fieldsPositive, List.cons.injEq, Prod.mk.injEq]

end

variable {a b : Json} {fields others rest : List (String × Json)}

theorem same_refl (a : Json) : same a a = true := same_iff.mpr rfl

theorem sameFields_refl (fields : List (String × Json)) : sameFields fields fields = true := sameFields_iff.mpr rfl

theorem sameFields_symm (h : sameFields fields others = true) : sameFields others fields = true :=
  sameFields_iff.mpr (sameFields_iff.mp h).symm

theorem sameFields_trans (h : sameFields fields others = true) (h' : sameFields others rest = true) :
    sameFields fields rest = true :=
  sameFields_iff.mpr ((sameFields_iff.mp h).trans (sameFields_iff.mp h'))

mutual

theorem depth_of_same : ∀ {a b : Json}, same a b = true → a.depth = b.depth
  | .array as, b, h => by
    cases b with
    | array bs => exact congrArg (· + 1) (depthItems_of_same h)
    | _ => cases h
  | .object as, b, h => by
    cases b with
    | object bs => exact congrArg (· + 1) (depthFields_of_same h)
    | _ => cases h
  | .null, b, h | .bool _, b, h | .int _, b, h | .float _, b, h | .string _, b, h => by
    cases b with
    | array | object => cases h
    | _ => rfl

theorem depthItems_of_same : ∀ {as bs : List Json}, sameItems as bs = true → depthItems as = depthItems bs
  | [], [], _ => rfl
  | a :: as, b :: bs, h => by
    obtain ⟨hfirst, hrest⟩ := Bool.and_eq_true_iff.mp h
    rw [depthItems, depthItems, depth_of_same hfirst, depthItems_of_same hrest]

theorem depthFields_of_same : ∀ {as bs : List (String × Json)}, sameFields as bs = true →
    depthFields as = depthFields bs
  | [], [], _ => rfl
  | (m, a) :: as, (n, b) :: bs, h => by
    simp only [sameFields, Bool.and_eq_true] at h
    rw [depthFields, depthFields, depth_of_same h.1.2, depthFields_of_same h.2]

end

theorem string?_of_same (h : same a b = true) : a.string? = b.string? := by
  cases a <;> cases b <;> simp_all [same, string?]

theorem bool?_of_same (h : same a b = true) : a.bool? = b.bool? := by
  cases a <;> cases b <;> simp_all [same, bool?]

theorem int?_of_same (h : same a b = true) : a.int? = b.int? := by
  cases a <;> cases b <;> simp_all [same, int?]

theorem isNull_of_same (h : same a b = true) : a.isNull = b.isNull := by
  cases a <;> cases b <;> simp_all [same, isNull]

/-- A number has the same number in a tree that is the same. -/
theorem number?_of_same (h : same a b = true) {x : Binary64} (hx : a.number? = some x) :
    ∃ y, b.number? = some y ∧ sameNumber x y = true := by
  cases a with
  | int n =>
    cases b with
    | int m =>
      have hnm : n = m := of_decide_eq_true h
      subst hnm
      exact ⟨x, hx, by simp [sameNumber]⟩
    | _ => cases h
  | float v =>
    cases b with
    | float w =>
      cases hx
      exact ⟨w, rfl, h⟩
    | _ => cases h
  | _ => cases hx

theorem items?_of_same (h : same a b = true) {as : List Json} (has : a.items? = some as) :
    ∃ bs, b.items? = some bs ∧ sameItems as bs = true := by
  cases a with
  | array items =>
    cases b with
    | array bs =>
      cases has
      exact ⟨bs, rfl, h⟩
    | _ => cases h
  | _ => cases has

theorem fields?_of_same (h : same a b = true) {as : List (String × Json)} (has : a.fields? = some as) :
    ∃ bs, b.fields? = some bs ∧ sameFields as bs = true := by
  cases a with
  | object fields =>
    cases b with
    | object bs =>
      cases has
      exact ⟨bs, rfl, h⟩
    | _ => cases h
  | _ => cases has

/-- Runs over items that are the same. -/
theorem carries_mapM_items {α β : Type} {R : α → β → Prop} {f : Json → Result α} {g : Json → Result β}
    (hfg : ∀ a b, same a b = true → Result.Carries R (f a) (g b)) : ∀ {as bs : List Json}, sameItems as bs = true →
      Result.Carries (List.Forall₂ R) (as.mapM f) (bs.mapM g)
  | [], [], _ => .ok .nil
  | a :: as, b :: bs, h => by
    obtain ⟨hfirst, hrest⟩ := Bool.and_eq_true_iff.mp h
    rw [List.mapM_cons, List.mapM_cons]
    exact (hfg a b hfirst).bind fun _ _ hx => (carries_mapM_items hfg hrest).bind fun _ _ hxs => .ok (.cons hx hxs)

/-- Runs over fields that are the same. -/
theorem carries_mapM_fields {α β : Type} {R : α → β → Prop} {f : String × Json → Result α}
    {g : String × Json → Result β} (hfg : ∀ name a b, same a b = true → Result.Carries R (f (name, a)) (g (name, b))) :
    ∀ {as bs : List (String × Json)}, sameFields as bs = true →
      Result.Carries (List.Forall₂ R) (as.mapM f) (bs.mapM g)
  | [], [], _ => .ok .nil
  | (m, a) :: as, (n, b) :: bs, h => by
    simp only [sameFields, Bool.and_eq_true, decide_eq_true_eq] at h
    obtain ⟨⟨rfl, hfirst⟩, hrest⟩ := h
    rw [List.mapM_cons, List.mapM_cons]
    exact (hfg m a b hfirst).bind fun _ _ hx => (carries_mapM_fields hfg hrest).bind fun _ _ hxs => .ok (.cons hx hxs)

theorem lookup_of_sameFields (name : String) : ∀ {as bs : List (String × Json)}, sameFields as bs = true →
    (List.lookup name as = none ∧ List.lookup name bs = none) ∨
      ∃ a b, List.lookup name as = some a ∧ List.lookup name bs = some b ∧ same a b = true
  | [], [], _ => .inl ⟨rfl, rfl⟩
  | (m, a) :: as, (n, b) :: bs, h => by
    simp only [sameFields, Bool.and_eq_true, decide_eq_true_eq] at h
    obtain ⟨⟨rfl, hfirst⟩, hrest⟩ := h
    rw [Table.lookup_cons, Table.lookup_cons]
    split
    · exact .inr ⟨a, b, rfl, rfl, hfirst⟩
    · exact lookup_of_sameFields name hrest

end Json

/-! ## Filters -/

namespace Filter

/-- Filters that are written as the same tree. -/
def Same (f g : Filter) : Prop := Json.same f.toJson g.toJson = true

theorem Same.refl (f : Filter) : f.Same f := Json.same_refl _

theorem sameItems_listToJson {fs gs : List Filter} (h : List.Forall₂ Same fs gs) :
    Json.sameItems (listToJson fs) (listToJson gs) = true := by
  induction h with
  | nil => rfl
  | cons hfirst _ ih => rw [listToJson, listToJson, Json.sameItems, hfirst, ih]; rfl

theorem Same.conj {fs gs : List Filter} (h : List.Forall₂ Same fs gs) : (conj fs).Same (conj gs) := by
  simp [Same, toJson, Json.same, Json.sameFields, sameItems_listToJson h]

theorem Same.disj {fs gs : List Filter} (h : List.Forall₂ Same fs gs) : (disj fs).Same (disj gs) := by
  simp [Same, toJson, Json.same, Json.sameFields, sameItems_listToJson h]

theorem Same.neg {f g : Filter} (h : f.Same g) : (neg f).Same (neg g) := by
  have h : Json.same f.toJson g.toJson = true := h
  simp [Same, toJson, Json.same, Json.sameFields, h]

theorem Same.property {name : String} {s t : PropertyTest} (h : Json.same s.toJson t.toJson = true) :
    (property name s).Same (property name t) := by
  simp [Same, toJson, Json.same, Json.sameFields, h]

theorem Same.related {relationship : RelationshipDef} {quantifier : Quantifier} {f g : Filter} (h : f.Same g) :
    (related relationship quantifier f).Same (related relationship quantifier g) := by
  have h : Json.same f.toJson g.toJson = true := h
  simp [Same, toJson, Json.same, Json.sameFields, h, Json.same_refl]

theorem Same.isAll {f g : Filter} (h : f.Same g) : f.isAll = g.isAll := by
  have hnil : ∀ fs gs : List Filter, Json.sameItems (listToJson fs) (listToJson gs) = true → (fs = [] ↔ gs = []) := by
    intro fs gs h
    cases fs <;> cases gs <;> simp_all [listToJson, Json.sameItems]
  cases f with
  | conj fs =>
    cases g with
    | conj gs =>
      have hitems := hnil fs gs (by simpa [Same, toJson, Json.same, Json.sameFields] using h)
      cases fs <;> cases gs <;> simp_all [Filter.isAll]
    | _ => simp [Same, toJson, Json.same, Json.sameFields] at h
  | _ =>
    cases g with
    | conj gs => simp [Same, toJson, Json.same, Json.sameFields] at h
    | _ => rfl

theorem Same.conjoin {fs gs : List Filter} (h : List.Forall₂ Same fs gs) : (conjoin fs).Same (conjoin gs) := by
  have hkept : List.Forall₂ Same (fs.filter fun f => !f.isAll) (gs.filter fun f => !f.isAll) := by
    induction h with
    | nil => exact .nil
    | @cons f g fs gs hfg _ ih =>
      rw [List.filter_cons, List.filter_cons, hfg.isAll]
      split
      · exact .cons hfg ih
      · exact ih
  unfold Filter.conjoin
  generalize (fs.filter fun f => !f.isAll) = fs at hkept
  generalize (gs.filter fun f => !f.isAll) = gs at hkept
  cases hkept with
  | nil => exact Same.refl _
  | cons hfirst hrest =>
    cases hrest with
    | nil => exact hfirst
    | cons hsecond hrest => exact Same.conj (.cons hfirst (.cons hsecond hrest))

/-! ## Reading filters -/

section Reading

variable {schema : Schema} {entity : EntityType} {a b : Json}

/-- Values that are written as the same tree. -/
def SameValue (v w : Value) : Prop := Json.same v.tagged w.tagged = true

/-- Tests that are written as the same tree. -/
def SameTest (s t : PropertyTest) : Prop := Json.same s.toJson t.toJson = true

theorem coerce?_of_same (type : PropertyType) (h : Json.same a b = true) {v : Value} (hv : type.coerce? a = some v) :
    ∃ w, type.coerce? b = some w ∧ SameValue v w := by
  unfold PropertyType.coerce? Value.int64OfJson? at hv ⊢
  rw [← Json.isNull_of_same h, ← Json.string?_of_same h, ← Json.bool?_of_same h, ← Json.int?_of_same h]
  by_cases hnull : a.isNull = true
  · rw [if_pos hnull] at hv ⊢
    exact ⟨v, hv, Json.same_refl _⟩
  · rw [if_neg hnull] at hv ⊢
    cases type with
    | float =>
      obtain ⟨x, hx, rfl⟩ := Option.map_eq_some_iff.mp hv
      obtain ⟨y, hy, hxy⟩ := Json.number?_of_same h hx
      exact ⟨.float y, Option.map_eq_some_iff.mpr ⟨y, hy, rfl⟩, by
        simp [SameValue, Value.tagged, Json.same, Json.sameFields, hxy]⟩
    | _ => exact ⟨v, hv, Json.same_refl _⟩

theorem carries_operand (property : PropertyDef) (h : Json.same a b = true) :
    Result.Carries SameValue (operand property a) (operand property b) := by
  intro v hv
  unfold operand at hv
  split at hv
  · cases hv
  · rename_i value hnull hcoerce
    cases hv
    obtain ⟨w, hw, hsame⟩ := coerce?_of_same property.type h hcoerce
    refine ⟨w, ?_, hsame⟩
    unfold operand
    rw [hw]
    cases w with
    | null => cases v <;> first | exact absurd rfl hnull | cases hsame
    | _ => rfl
  · cases hv

theorem carries_bound (property : PropertyDef) (operator : String) (h : Json.same a b = true) :
    Result.Carries SameValue (bound property operator a) (bound property operator b) := by
  unfold bound
  split
  · exact .error _ _
  · exact carries_operand property h

theorem textOperand_of_same (property : PropertyDef) (operator : String) (h : Json.same a b = true) :
    textOperand property operator a = textOperand property operator b := by
  unfold textOperand
  rw [Json.string?_of_same h]

theorem SameTest.ofValue {v w : Value} (h : SameValue v w) : SameTest (.eq v) (.eq w) ∧ SameTest (.lt v) (.lt w) ∧
    SameTest (.lte v) (.lte w) ∧ SameTest (.gt v) (.gt w) ∧ SameTest (.gte v) (.gte w) := by
  have h : Json.same v.tagged w.tagged = true := h
  simp [SameTest, PropertyTest.toJson, Json.same, Json.sameFields, h]

theorem SameTest.oneOf {vs ws : List Value} (h : List.Forall₂ SameValue vs ws) : SameTest (.oneOf vs) (.oneOf ws) := by
  have hitems : Json.sameItems (vs.map Value.tagged) (ws.map Value.tagged) = true := by
    induction h with
    | nil => rfl
    | cons hfirst _ ih => rw [List.map_cons, List.map_cons, Json.sameItems, hfirst, ih]; rfl
  simp [SameTest, PropertyTest.toJson, Json.same, Json.sameFields, hitems]

/-- A test is read from arguments that are the same as tests that are. -/
theorem carries_parseTest [PropertyTable] (property : PropertyDef) (operator : String) (h : Json.same a b = true) :
    Result.Carries SameTest (parseTest property operator a) (parseTest property operator b) := by
  have hrefl : ∀ t : PropertyTest, SameTest t t := fun t => Json.same_refl _
  have htext : ∀ (op : String) (test : String → PropertyTest),
      Result.Carries SameTest (test <$> textOperand property op a) (test <$> textOperand property op b) :=
    fun op test => .of_eq hrefl (by rw [textOperand_of_same property op h])
  unfold parseTest
  split
  · rw [Json.isNull_of_same h]
    split
    · exact .ok (hrefl _)
    · exact (carries_operand property h).map fun _ _ hv => (SameTest.ofValue hv).1
  · cases hitems : a.items? with
    | none => exact .error _ _
    | some as =>
      obtain ⟨bs, hbs, hsame⟩ := Json.items?_of_same h hitems
      rw [hbs]
      exact (Json.carries_mapM_items (fun _ _ => carries_operand property) hsame).map fun _ _ => SameTest.oneOf
  · exact (carries_bound property _ h).map fun _ _ hv => (SameTest.ofValue hv).2.1
  · exact (carries_bound property _ h).map fun _ _ hv => (SameTest.ofValue hv).2.2.1
  · exact (carries_bound property _ h).map fun _ _ hv => (SameTest.ofValue hv).2.2.2.1
  · exact (carries_bound property _ h).map fun _ _ hv => (SameTest.ofValue hv).2.2.2.2
  · exact htext _ _
  · exact htext _ _
  · exact htext _ _
  · exact .of_eq hrefl (by rw [textOperand_of_same property _ h])
  · exact .of_eq hrefl (by rw [Json.bool?_of_same h])
  · exact .error _ _

theorem fieldsOfNonempty?_of_same (h : Json.same a b = true) {as : List (String × Json)}
    (has : fieldsOfNonempty? a = some as) : ∃ bs, fieldsOfNonempty? b = some bs ∧ Json.sameFields as bs = true := by
  unfold fieldsOfNonempty? at has
  split at has
  · cases has
  · rename_i hne
    obtain ⟨bs, hbs, hsame⟩ := Json.fields?_of_same h has
    refine ⟨bs, ?_, hsame⟩
    unfold fieldsOfNonempty?
    rw [hbs]
    cases bs with
    | nil =>
      cases as with
      | nil => exact absurd has hne
      | cons => cases hsame
    | cons => rfl

variable [PropertyTable]

theorem carries_parseProperty (prop : PropertyDef) (h : Json.same a b = true) :
    Result.Carries Same (parseProperty prop a) (parseProperty prop b) := by
  unfold parseProperty
  cases hfields : fieldsOfNonempty? a with
  | none => exact .error _ _
  | some as =>
    obtain ⟨bs, hbs, hsame⟩ := fieldsOfNonempty?_of_same h hfields
    rw [hbs]
    have htests := Json.carries_mapM_fields (R := Same)
      (f := fun entry => do return property prop.name (← parseTest prop entry.1 entry.2))
      (g := fun entry => do return property prop.name (← parseTest prop entry.1 entry.2))
      (fun name a b h => (carries_parseTest prop name h).bind fun _ _ ht => .ok (.property ht)) hsame
    exact htests.bind fun _ _ hs => .ok (.conjoin hs)

section Nesting

variable {depth : Nat}
  (ih : ∀ (entity : EntityType) {a b : Json}, Json.same a b = true →
    Result.Carries Same (parseWithin schema depth entity a) (parseWithin schema depth entity b))

include ih

theorem carries_list (entity : EntityType) (key : String) (h : Json.same a b = true) :
    Result.Carries (List.Forall₂ Same) (parseWithin.list schema depth entity key a)
      (parseWithin.list schema depth entity key b) := by
  unfold parseWithin.list
  cases hitems : a.items? with
  | none => exact .error _ _
  | some as =>
    obtain ⟨bs, hbs, hsame⟩ := Json.items?_of_same h hitems
    rw [hbs]
    cases as with
    | nil => exact .error _ _
    | cons first rest =>
      cases bs with
      | nil => cases hsame
      | cons => exact Json.carries_mapM_items (fun _ _ => ih entity) hsame

theorem carries_predicate (relationship : RelationshipDef) (h : Json.same a b = true) :
    Result.Carries Same (parseWithin.predicate schema depth relationship a)
      (parseWithin.predicate schema depth relationship b) := by
  unfold parseWithin.predicate
  refine Result.Carries.bind (R := Eq) (.of_eq (fun _ => rfl) rfl) fun target _ heq => ?_
  subst heq
  split
  · cases hfields : fieldsOfNonempty? a with
    | none => exact .error _ _
    | some as =>
      obtain ⟨bs, hbs, hsame⟩ := fieldsOfNonempty?_of_same h hfields
      rw [hbs]
      refine (Json.carries_mapM_fields (R := Same) (fun name a b h => ?_) hsame).bind fun _ _ hs => .ok (.conjoin hs)
      dsimp only
      split
      · exact .error _ _
      · exact (ih target h).map fun _ _ => .related
  · rw [Json.isNull_of_same h]
    split
    · exact .ok (.refl _)
    · exact (ih target h).map fun _ _ => .related

theorem carries_entry (entity : EntityType) (key : String) (h : Json.same a b = true) :
    Result.Carries Same (parseWithin.entry schema depth entity key a) (parseWithin.entry schema depth entity key b) := by
  unfold parseWithin.entry
  split
  · exact (carries_list ih entity _ h).map fun _ _ => .conj
  · exact (carries_list ih entity _ h).map fun _ _ => .disj
  · exact (ih entity h).map fun _ _ => .neg
  · split
    · exact carries_parseProperty _ h
    · split
      · exact carries_predicate ih _ h
      · exact .error _ _

end Nesting

/-- A filter is read from trees that are the same as filters that are. -/
theorem carries_parseWithin : ∀ (depth : Nat) (entity : EntityType) {a b : Json}, Json.same a b = true →
    Result.Carries Same (parseWithin schema depth entity a) (parseWithin schema depth entity b)
  | 0, _, _, _, _ => by
    rw [parseWithin]
    exact .error _ _
  | depth + 1, entity, a, b, h => by
    have ih : ∀ (entity : EntityType) {a b : Json}, Json.same a b = true →
        Result.Carries Same (parseWithin schema depth entity a) (parseWithin schema depth entity b) :=
      fun entity _ _ => carries_parseWithin depth entity
    unfold parseWithin
    cases hfields : a.fields? with
    | none => exact .error _ _
    | some as =>
      obtain ⟨bs, hbs, hsame⟩ := Json.fields?_of_same h hfields
      rw [hbs]
      refine (Json.carries_mapM_fields (R := Same) (fun key _ _ h => ?_) hsame).bind fun _ _ hs => .ok (.conjoin hs)
      exact carries_entry ih entity key h

theorem carries_parse (h : Json.same a b = true) :
    Result.Carries Same (parse schema entity a) (parse schema entity b) := by
  unfold parse
  rw [Json.depth_of_same h]
  exact carries_parseWithin _ entity h

end Reading

end Filter

/-! ## Orders -/

namespace Order

variable {schema : Schema} {entity : EntityType} {a b : Json}

theorem text_of_same (name : String) (h : Json.same a b = true) :
    (a.field? name).bind Json.string? = (b.field? name).bind Json.string? := by
  unfold Json.field?
  cases ha : a.fields? with
  | none =>
    cases hb : b.fields? with
    | none => rfl
    | some bs => cases a <;> cases b <;> simp_all [Json.fields?, Json.same]
  | some as =>
    obtain ⟨bs, hbs, hsame⟩ := Json.fields?_of_same h ha
    rw [hbs]
    simp only [Option.bind_eq_bind, Option.bind_some]
    rcases Json.lookup_of_sameFields name hsame with ⟨ha, hb⟩ | ⟨x, y, ha, hb, hxy⟩
    · rw [ha, hb]
    · rw [ha, hb, Option.bind_some, Option.bind_some, Json.string?_of_same hxy]

theorem carries_parseItem (h : Json.same a b = true) :
    Result.Carries Eq (parseItem schema entity a) (parseItem schema entity b) := by
  unfold parseItem parseDirection
  cases ha : a.fields? with
  | none => exact .error _ _
  | some as =>
    obtain ⟨bs, hbs, _⟩ := Json.fields?_of_same h ha
    rw [hbs, text_of_same "direction" h, text_of_same "field" h]
    cases (b.field? "field").bind Json.string? with
    | none => exact .error _ _
    | some field => exact .of_eq (fun _ => rfl) rfl

theorem carries_itemsOf (h : Json.same a b = true) :
    Result.Carries (fun as bs => Json.sameItems as bs = true) (itemsOf a) (itemsOf b) := by
  unfold itemsOf
  cases a with
  | array as =>
    cases b with
    | array bs => exact .ok h
    | _ => cases h
  | object as =>
    cases b with
    | object bs => exact .ok (by simpa [Json.sameItems] using h)
    | _ => cases h
  | null =>
    cases b with
    | null => exact .ok rfl
    | _ => cases h
  | _ => exact .error _ _

/-- Folding a step over items that are the same gives the same, when the step does so for each item. -/
theorem carries_foldlM_items {α : Type} {step : α → Json → Result α}
    (hstep : ∀ (x : α) {a b : Json}, Json.same a b = true → Result.Carries Eq (step x a) (step x b)) :
    ∀ {as bs : List Json}, Json.sameItems as bs = true → ∀ x : α,
      Result.Carries Eq (as.foldlM step x) (bs.foldlM step x)
  | [], [], _, x => .ok rfl
  | [], _ :: _, h, _ => by cases h
  | _ :: _, [], h, _ => by cases h
  | first :: rest, second :: others, h, x => by
    obtain ⟨hfirst, hrest⟩ := Bool.and_eq_true_iff.mp h
    rw [List.foldlM_cons, List.foldlM_cons]
    refine (hstep x hfirst).bind fun y _ heq => ?_
    subst heq
    exact carries_foldlM_items hstep hrest y

/-- An order is read from trees that are the same as one order. -/
theorem carries_parse (h : Json.same a b = true) :
    Result.Carries Eq (parse schema entity a) (parse schema entity b) := by
  refine (carries_itemsOf h).bind fun as bs h => ?_
  refine (carries_foldlM_items (fun keys a b h => ?_) h []).bind fun keys _ heq => ?_
  · refine (carries_parseItem h).bind fun key _ heq => ?_
    subst heq
    exact .of_eq (fun _ => rfl) rfl
  · subst heq
    exact .ok rfl

end Order

/-! ## Options -/

/-- What options are built of. -/
theorem Options.build_eq_ok {filter : Filter} {order : Order} {after before : Option String} {first last : Option Int}
    {countsTotal : Bool} {options : Options} :
    Options.build filter order after before first last countsTotal = .ok options ↔
      (first.isSome && last.isSome) = false ∧ ∃ front back, Options.limit "first" first = .ok front ∧
        Options.limit "last" last = .ok back ∧ ⟨filter, order, after, before, front, back, countsTotal⟩ = options := by
  unfold Options.build
  cases first.isSome && last.isSome with
  | true => exact ⟨nofun, nofun⟩
  | false =>
    show (Options.limit "first" first >>= fun front => Options.limit "last" last >>= fun back =>
      .ok ⟨filter, order, after, before, front, back, countsTotal⟩) = .ok options ↔ _
    simp only [Result.bind_eq_ok, Except.ok.injEq, true_and, exists_and_left]

namespace Field

variable {schema : Schema} {entity : EntityType} {field other : Field} {countsTotal : Bool} {options : Options}

/-- An argument is read alike from fields with the same arguments. -/
theorem carries_readArgument {α : Type} {R : α → α → Prop} {read : Json → Result α}
    (h : field.sameArguments other = true) (hread : ∀ a b, Json.same a b = true → Result.Carries R (read a) (read b))
    (name : String) : Result.Carries (Option.Rel R) (field.readArgument name read) (other.readArgument name read) := by
  unfold readArgument present? argument?
  rcases Json.lookup_of_sameFields name h with ⟨hnone, hnone'⟩ | ⟨a, b, ha, hb, hsame⟩
  · rw [hnone, hnone']
    exact .ok .none
  · rw [ha, hb, Option.filter_some, Option.filter_some, Json.isNull_of_same hsame]
    cases b.isNull with
    | true => exact .ok .none
    | false => exact (hread a b hsame).map fun _ _ => Option.Rel.some

variable [PropertyTable]

theorem options_eq_ok : field.options schema entity countsTotal = .ok options ↔ ∃ filter order after before first last,
    field.readArgument "filter" (Filter.parse schema entity) = .ok filter ∧
    field.readArgument "orderBy" (Order.parse schema entity) = .ok order ∧
    field.readArgument "after" (readCursor "after") = .ok after ∧
    field.readArgument "before" (readCursor "before") = .ok before ∧
    field.readArgument "first" (readLimit "first") = .ok first ∧
    field.readArgument "last" (readLimit "last") = .ok last ∧
    Options.build (filter.getD .all) (order.getD .byId) after before first last countsTotal = .ok options := by
  simp only [Field.options, Result.bind_eq_ok, exists_and_left]

theorem countsTotal_of_options (h : field.options schema entity countsTotal = .ok options) :
    options.countsTotal = countsTotal := by
  obtain ⟨_, _, _, _, _, _, _, _, _, _, _, _, hbuild⟩ := options_eq_ok.mp h
  obtain ⟨_, _, _, _, _, rfl⟩ := Options.build_eq_ok.mp hbuild
  rfl

/-- Whether the total is wanted does not matter to what the arguments say. -/
theorem options_withTotal (h : field.options schema entity countsTotal = .ok options) (wanted : Bool) :
    field.options schema entity wanted = .ok { options with countsTotal := wanted } := by
  obtain ⟨filter, order, after, before, first, last, hfilter, horder, hafter, hbefore, hfirst, hlast, hbuild⟩ :=
    options_eq_ok.mp h
  obtain ⟨hboth, front, back, hfront, hback, rfl⟩ := Options.build_eq_ok.mp hbuild
  exact options_eq_ok.mpr ⟨filter, order, after, before, first, last, hfilter, horder, hafter, hbefore, hfirst, hlast,
    Options.build_eq_ok.mpr ⟨hboth, front, back, hfront, hback, rfl⟩⟩

/-- When the arguments of one field make options, the same arguments of another make options that are written as the
same tree. -/
theorem options_of_sameArguments (h : other.sameArguments field = true)
    (hoptions : field.options schema entity countsTotal = .ok options) :
    ∃ same, other.options schema entity countsTotal = .ok same ∧ Json.same options.toJson same.toJson = true := by
  have h : field.sameArguments other = true := Json.sameFields_symm h
  obtain ⟨filter, order, after, before, first, last, hfilter, horder, hafter, hbefore, hfirst, hlast, hbuild⟩ :=
    options_eq_ok.mp hoptions
  have heq : ∀ {α : Type} {x y : Option α}, Option.Rel Eq x y → x = y := by
    intro α x y hxy
    cases hxy with
    | some hxy => rw [hxy]
    | none => rfl
  have hcursor : ∀ (name : String) (a b : Json), Json.same a b = true →
      Result.Carries Eq (readCursor name a) (readCursor name b) := fun name a b hab =>
    .of_eq (fun _ => rfl) (by rw [readCursor, readCursor, Json.string?_of_same hab])
  have hlimit : ∀ (name : String) (a b : Json), Json.same a b = true →
      Result.Carries Eq (readLimit name a) (readLimit name b) := fun name a b hab =>
    .of_eq (fun _ => rfl) (by rw [readLimit, readLimit, Value.int64OfJson?, Value.int64OfJson?, Json.int?_of_same hab])
  obtain ⟨filter', hfilter', hsame⟩ := carries_readArgument h (fun _ _ => Filter.carries_parse) "filter" filter hfilter
  obtain ⟨_, horder', hr⟩ := carries_readArgument h (fun _ _ => Order.carries_parse) "orderBy" order horder
  obtain rfl := heq hr
  obtain ⟨_, hafter', hr⟩ := carries_readArgument h (hcursor "after") "after" after hafter
  obtain rfl := heq hr
  obtain ⟨_, hbefore', hr⟩ := carries_readArgument h (hcursor "before") "before" before hbefore
  obtain rfl := heq hr
  obtain ⟨_, hfirst', hr⟩ := carries_readArgument h (hlimit "first") "first" first hfirst
  obtain rfl := heq hr
  obtain ⟨_, hlast', hr⟩ := carries_readArgument h (hlimit "last") "last" last hlast
  obtain rfl := heq hr
  have hfilters : Json.same (filter.getD .all).toJson (filter'.getD .all).toJson = true := by
    cases hsame with
    | some hsame => exact hsame
    | none => exact Json.same_refl _
  obtain ⟨hboth, front, back, hfront, hback, rfl⟩ := Options.build_eq_ok.mp hbuild
  refine ⟨⟨filter'.getD .all, order.getD .byId, after, before, front, back, countsTotal⟩, options_eq_ok.mpr
    ⟨filter', order, after, before, first, last, hfilter', horder', hafter', hbefore', hfirst', hlast',
      Options.build_eq_ok.mpr ⟨hboth, front, back, hfront, hback, rfl⟩⟩, ?_⟩
  simp [Options.toJson, Json.same, Json.sameFields, Json.same_refl, hfilters]

end Field

end GraphQuery
