import GraphQuery.Filter.Parser
import GraphQuery.Pattern.KnownProperty
import GraphQuery.Proofs.Schema.Lineage

/-!
# The grammar of filters

`Filter.IsFilter` says which JSON trees are filters for the nodes of a type, entry by entry and down to every nesting.
`Filter.parse` reads exactly these trees, refuses all others as malformed filters, and gives filters that fit the type
(`Filter.Fits`): predicates on its properties with operands the properties accept, relationships of the type, and no
empty disjunction (`Filter.parse_grammar`). Which texts are patterns depends on the properties of characters that
patterns may ask for, so all of this is said for any table of them (`PropertyTable`).
-/

namespace GraphQuery

/-! ## Operands -/

/-- Whether a tree is a value of a type other than null. -/
inductive PropertyType.Fitting : PropertyType → Json → Prop
  | id (text : String) : Fitting .id (.string text)
  | string (text : String) : Fitting .string (.string text)
  | int {n : Int} : Int64.minValue.toInt ≤ n → n ≤ Int64.maxValue.toInt → Fitting .int (.int n)
  /-- Integers are numbers, too. -/
  | integer (n : Int) : Fitting .float (.int n)
  | float (x : Binary64) : Fitting .float (.float x)
  | boolean (b : Bool) : Fitting .boolean (.bool b)
  | timestamp {n : Int} : Int64.minValue.toInt ≤ n → n ≤ Int64.maxValue.toInt → Fitting .timestamp (.int n)

/-- The values a property is compared with. -/
def PropertyTest.operands : PropertyTest → List Value
  | eq value | lt value | lte value | gt value | gte value => [value]
  | oneOf values => values
  | startsWith text | endsWith text | contains text | matching text => [.string text]
  | isNull _ => []

theorem Value.int64OfJson?_eq_some {raw : Json} {n : Int64} : Value.int64OfJson? raw = some n ↔
    ∃ m : Int, raw = .int m ∧ Int64.minValue.toInt ≤ m ∧ m ≤ Int64.maxValue.toInt ∧ Int64.ofInt m = n := by
  cases raw <;> simp [Value.int64OfJson?, Json.int?, and_assoc]

/-- The trees that fit a type are those that are read as a value other than null. -/
theorem PropertyType.fitting_iff {type : PropertyType} {raw : Json} :
    type.Fitting raw ↔ ∃ value, type.coerce? raw = some value ∧ value ≠ .null := by
  constructor
  · intro h
    cases h with
    | id text => exact ⟨.string text, rfl, nofun⟩
    | string text => exact ⟨.string text, rfl, nofun⟩
    | @int n hmin hmax =>
      have hread := Value.int64OfJson?_eq_some.mpr ⟨n, rfl, hmin, hmax, rfl⟩
      exact ⟨.int (Int64.ofInt n), by simp [coerce?, Json.isNull, hread], nofun⟩
    | integer n => exact ⟨.float (Binary64.ofInt n), rfl, nofun⟩
    | float x => exact ⟨.float x, rfl, nofun⟩
    | boolean b => exact ⟨.bool b, rfl, nofun⟩
    | @timestamp n hmin hmax =>
      have hread := Value.int64OfJson?_eq_some.mpr ⟨n, rfl, hmin, hmax, rfl⟩
      exact ⟨.timestamp (Int64.ofInt n), by simp [coerce?, Json.isNull, hread], nofun⟩
  · rintro ⟨value, hvalue, hnull⟩
    unfold coerce? at hvalue
    split at hvalue
    · cases hvalue
      exact absurd rfl hnull
    · cases type <;> obtain ⟨x, hx, rfl⟩ := Option.map_eq_some_iff.mp hvalue
      case int =>
        obtain ⟨n, rfl, hmin, hmax, _⟩ := Value.int64OfJson?_eq_some.mp hx
        exact .int hmin hmax
      case timestamp =>
        obtain ⟨n, rfl, hmin, hmax, _⟩ := Value.int64OfJson?_eq_some.mp hx
        exact .timestamp hmin hmax
      case id => cases raw <;> cases hx; exact .id x
      case string => cases raw <;> cases hx; exact .string x
      case boolean => cases raw <;> cases hx; exact .boolean x
      case float =>
        cases raw <;> cases hx
        · exact .integer _
        · exact .float x

namespace Filter

/-! ## The grammar -/

section

variable [PropertyTable]

/-- Whether a property may be tested by an operator with an argument. -/
inductive IsTest (property : PropertyDef) : (operator : String) → Json → Prop
  /-- The property is absent or null. -/
  | eqNull : IsTest property "eq" .null
  | eq {raw : Json} : property.type.Fitting raw → IsTest property "eq" raw
  | oneOf {items : List Json} : (∀ item ∈ items, property.type.Fitting item) → IsTest property "in" (.array items)
  | range {operator : String} {raw : Json} : operator ∈ ["lt", "lte", "gt", "gte"] → property.type ≠ .boolean →
      property.type.Fitting raw → IsTest property operator raw
  | text {operator text : String} : operator ∈ ["startsWith", "endsWith", "contains"] →
      property.type = .id ∨ property.type = .string → IsTest property operator (.string text)
  | matching {text : String} : property.type = .id ∨ property.type = .string →
      (Automaton.ofText? text).isSome = true → IsTest property "matches" (.string text)
  | isNull (expected : Bool) : IsTest property "isNull" (.bool expected)

/-- The keys of a filter that name no member of its type. -/
def reserved : List String := ["and", "or", "not"]

mutual

/-- Whether a tree is a filter for the nodes of a type. -/
inductive IsFilter (schema : Schema) : EntityType → Json → Prop
  | object {entity : EntityType} {fields : List (String × Json)} :
      (∀ field ∈ fields, IsEntry schema entity field.1 field.2) → IsFilter schema entity (.object fields)

/-- Whether a key with a tree is an entry of a filter for the nodes of a type. -/
inductive IsEntry (schema : Schema) : EntityType → (key : String) → Json → Prop
  | list {entity : EntityType} {key : String} {items : List Json} : key ∈ ["and", "or"] → items ≠ [] →
      (∀ item ∈ items, IsFilter schema entity item) → IsEntry schema entity key (.array items)
  | neg {entity : EntityType} {raw : Json} : IsFilter schema entity raw → IsEntry schema entity "not" raw
  | property {entity : EntityType} {key : String} {fields : List (String × Json)} {prop : PropertyDef} :
      key ∉ reserved → entity.property? key = some prop → fields ≠ [] →
      (∀ field ∈ fields, IsTest prop field.1 field.2) → IsEntry schema entity key (.object fields)
  /-- A property hides a relationship of its name. -/
  | relationship {entity : EntityType} {key : String} {raw : Json} {r : RelationshipDef} :
      key ∉ reserved → entity.property? key = none → entity.relationship? key = some r → IsRelated schema r raw →
      IsEntry schema entity key raw

/-- Whether a tree is a predicate on the nodes reached through a relationship. -/
inductive IsRelated (schema : Schema) : RelationshipDef → Json → Prop
  | quantified {r : RelationshipDef} {fields : List (String × Json)} {target : EntityType} :
      r.isMany = true → schema.entity? r.target = some target → fields ≠ [] →
      (∀ field ∈ fields, field.1 ∈ ["all", "any", "none"]) → (∀ field ∈ fields, IsFilter schema target field.2) →
      IsRelated schema r (.object fields)
  /-- There is no related node. -/
  | absent {r : RelationshipDef} : r.isMany = false → IsRelated schema r .null
  | single {r : RelationshipDef} {raw : Json} {target : EntityType} : r.isMany = false →
      schema.entity? r.target = some target → IsFilter schema target raw → IsRelated schema r raw

end

end

/-- Whether a filter is one of the nodes of a type: properties and relationships are those of the type, operands are
accepted by their properties, and no disjunction is empty. -/
inductive Fits (schema : Schema) : EntityType → Filter → Prop
  | conj {entity : EntityType} {members : List Filter} : (∀ member ∈ members, Fits schema entity member) →
      Fits schema entity (.conj members)
  | disj {entity : EntityType} {members : List Filter} : members ≠ [] →
      (∀ member ∈ members, Fits schema entity member) → Fits schema entity (.disj members)
  | neg {entity : EntityType} {filter : Filter} : Fits schema entity filter → Fits schema entity (.neg filter)
  | property {entity : EntityType} {name : String} {prop : PropertyDef} {test : PropertyTest} :
      entity.property? name = some prop → (∀ value ∈ test.operands, prop.type.accepts value = true) →
      Fits schema entity (.property name test)
  | related {entity target : EntityType} {r : RelationshipDef} {quantifier : Quantifier} {filter : Filter} :
      entity.relationship? r.name = some r → schema.entity? r.target = some target → Fits schema target filter →
      Fits schema entity (.related r quantifier filter)

theorem fits_conjoin {schema : Schema} {entity : EntityType} {filters : List Filter}
    (h : ∀ filter ∈ filters, Fits schema entity filter) : Fits schema entity (conjoin filters) := by
  have hkept : ∀ filter ∈ filters.filter fun f => !f.isAll, Fits schema entity filter :=
    fun filter hfilter => h filter (List.mem_of_mem_filter hfilter)
  unfold conjoin
  split
  · rename_i filter hsingle
    exact hkept filter (hsingle ▸ List.mem_singleton_self filter)
  · exact .conj hkept

/-! ## Readers -/

/-- A result that is there exactly under a condition, and then has a property; otherwise it is refused as a malformed
filter. -/
inductive Settles {α : Type} (P : Prop) (Q : α → Prop) : Result α → Prop
  | ok {a : α} : P → Q a → Settles P Q (.ok a)
  | refused (fault : FilterFault) : ¬ P → Settles P Q (.error (.malformedFilter fault))

namespace Settles

variable {α β : Type} {P P' : Prop} {Q : α → Prop} {R : β → Prop}

theorem of_iff {x : Result α} (h : Settles P Q x) (hp : P ↔ P') : Settles P' Q x := by
  cases h with
  | ok hP hQ => exact .ok (hp.mp hP) hQ
  | refused fault hP => exact .refused fault fun hP' => hP (hp.mpr hP')

theorem bind {x : Result α} {f : α → Result β} (h : Settles P Q x) (hp : P' → P)
    (hf : ∀ a, P → Q a → Settles P' R (f a)) : Settles P' R (x >>= f) := by
  cases h with
  | ok hP hQ => exact hf _ hP hQ
  | refused fault hP => exact .refused fault fun hP' => hP (hp hP')

theorem map {x : Result α} {f : α → β} (h : Settles P Q x) (hf : ∀ a, Q a → R (f a)) : Settles P R (f <$> x) := by
  cases h with
  | ok hP hQ => exact .ok hP (hf _ hQ)
  | refused fault hP => exact .refused fault hP

theorem imp {Q' : α → Prop} {x : Result α} (h : Settles P Q x) (hq : ∀ a, Q a → Q' a) : Settles P Q' x := by
  cases h with
  | ok hP hQ => exact .ok hP (hq _ hQ)
  | refused fault hP => exact .refused fault hP

/-- A list is read when all its members are. -/
theorem mapM {P : α → Prop} {f : α → Result β} : ∀ {xs : List α}, (∀ x ∈ xs, Settles (P x) R (f x)) →
    Settles (∀ x ∈ xs, P x) (fun ys => ys.length = xs.length ∧ ∀ y ∈ ys, R y) (xs.mapM f)
  | [], _ => .ok nofun ⟨rfl, nofun⟩
  | x :: xs, h => by
    obtain ⟨hx, hxs⟩ := List.forall_mem_cons.mp h
    rw [List.mapM_cons]
    refine hx.bind (fun hall => hall x List.mem_cons_self) fun y hPx hRy => ?_
    refine (mapM hxs).bind (fun hall => (List.forall_mem_cons.mp hall).2) fun ys hPxs ⟨hlength, hRys⟩ => ?_
    refine .ok (List.forall_mem_cons.mpr ⟨hPx, hPxs⟩) ⟨?_, List.forall_mem_cons.mpr ⟨hRy, hRys⟩⟩
    rw [List.length_cons, List.length_cons, hlength]

end Settles

/-! ## Reading tests -/

section Tests

variable (property : PropertyDef) (raw : Json)

theorem reads_operand :
    Settles (property.type.Fitting raw) (fun value => property.type.accepts value = true) (operand property raw) := by
  unfold operand
  split
  · rename_i hnull
    refine .refused _ fun hfits => ?_
    obtain ⟨value, hvalue, hne⟩ := PropertyType.fitting_iff.mp hfits
    exact hne (Option.some.inj (hvalue.symm.trans hnull))
  · rename_i value hne hvalue
    exact .ok (PropertyType.fitting_iff.mpr ⟨value, hvalue, hne⟩) (PropertyType.accepts_of_coerce? hvalue)
  · rename_i hnone
    refine .refused _ fun hfits => ?_
    obtain ⟨value, hvalue, _⟩ := PropertyType.fitting_iff.mp hfits
    cases hnone.symm.trans hvalue

theorem reads_bound (operator : String) : Settles (property.type ≠ .boolean ∧ property.type.Fitting raw)
    (fun value => property.type.accepts value = true) (bound property operator raw) := by
  unfold bound
  split
  · rename_i hboolean
    exact .refused _ fun h => h.1 hboolean
  · rename_i hne
    exact (reads_operand property raw).of_iff ⟨fun h => ⟨hne, h⟩, fun h => h.2⟩

theorem isTextual_iff {type : PropertyType} : type.isTextual = true ↔ type = .id ∨ type = .string := by
  cases type <;> simp [PropertyType.isTextual]

theorem accepts_text {type : PropertyType} (h : type = .id ∨ type = .string) (text : String) :
    type.accepts (.string text) = true := by
  rcases h with rfl | rfl <;> rfl

theorem reads_textOperand (operator : String) :
    Settles ((property.type = .id ∨ property.type = .string) ∧ ∃ text, raw = .string text)
      (fun text => raw = .string text ∧ property.type.accepts (.string text) = true)
      (textOperand property operator raw) := by
  unfold textOperand
  split
  · rename_i htextual
    have htype := isTextual_iff.mp htextual
    cases raw with
    | string text => exact .ok ⟨htype, text, rfl⟩ ⟨rfl, accepts_text htype text⟩
    | _ => exact .refused _ (by simp)
  · rename_i htextual
    exact .refused _ fun h => htextual (isTextual_iff.mpr h.1)

variable {property raw} {operator : String}

variable [PropertyTable]

theorem isTest_iff : IsTest property operator raw ↔
    operator = "eq" ∧ (raw = .null ∨ property.type.Fitting raw) ∨
    operator = "in" ∧ (∃ items, raw = .array items ∧ ∀ item ∈ items, property.type.Fitting item) ∨
    operator ∈ ["lt", "lte", "gt", "gte"] ∧ property.type ≠ .boolean ∧ property.type.Fitting raw ∨
    operator ∈ ["startsWith", "endsWith", "contains"] ∧ (property.type = .id ∨ property.type = .string) ∧
      (∃ text, raw = .string text) ∨
    operator = "matches" ∧ (property.type = .id ∨ property.type = .string) ∧
      (∃ text, raw = .string text ∧ (Automaton.ofText? text).isSome = true) ∨
    operator = "isNull" ∧ ∃ expected, raw = .bool expected := by
  constructor
  · intro h
    cases h with
    | eqNull => exact .inl ⟨rfl, .inl rfl⟩
    | eq hfits => exact .inl ⟨rfl, .inr hfits⟩
    | oneOf hfits => exact .inr (.inl ⟨rfl, _, rfl, hfits⟩)
    | range hoperator hne hfits => exact .inr (.inr (.inl ⟨hoperator, hne, hfits⟩))
    | text hoperator htype => exact .inr (.inr (.inr (.inl ⟨hoperator, htype, _, rfl⟩)))
    | matching htype hpattern => exact .inr (.inr (.inr (.inr (.inl ⟨rfl, htype, _, rfl, hpattern⟩))))
    | isNull expected => exact .inr (.inr (.inr (.inr (.inr ⟨rfl, expected, rfl⟩))))
  · rintro (⟨rfl, rfl | hfits⟩ | ⟨rfl, items, rfl, hfits⟩ | ⟨hoperator, hne, hfits⟩ | ⟨hoperator, htype, text, rfl⟩ |
      ⟨rfl, htype, text, rfl, hpattern⟩ | ⟨rfl, expected, rfl⟩)
    · exact .eqNull
    · exact .eq hfits
    · exact .oneOf hfits
    · exact .range hoperator hne hfits
    · exact .text hoperator htype
    · exact .matching htype hpattern
    · exact .isNull expected

theorem isTest_range (h : operator ∈ ["lt", "lte", "gt", "gte"]) :
    IsTest property operator raw ↔ property.type ≠ .boolean ∧ property.type.Fitting raw := by
  simp only [List.mem_cons, List.not_mem_nil, or_false] at h
  rcases h with rfl | rfl | rfl | rfl <;> simp [isTest_iff]

theorem isTest_text (h : operator ∈ ["startsWith", "endsWith", "contains"]) : IsTest property operator raw ↔
    (property.type = .id ∨ property.type = .string) ∧ ∃ text, raw = .string text := by
  simp only [List.mem_cons, List.not_mem_nil, or_false] at h
  rcases h with rfl | rfl | rfl <;> simp [isTest_iff]

theorem reads_range (h : operator ∈ ["lt", "lte", "gt", "gte"]) {test : Value → PropertyTest}
    (htest : ∀ value, (test value).operands = [value]) : Settles (IsTest property operator raw)
      (fun test => ∀ value ∈ test.operands, property.type.accepts value = true)
      (test <$> bound property operator raw) := by
  refine ((reads_bound property raw operator).of_iff (isTest_range h).symm).map fun value haccepts => ?_
  rw [htest]
  exact List.forall_mem_singleton.mpr haccepts

theorem reads_text (h : operator ∈ ["startsWith", "endsWith", "contains"]) {test : String → PropertyTest}
    (htest : ∀ text, (test text).operands = [.string text]) : Settles (IsTest property operator raw)
      (fun test => ∀ value ∈ test.operands, property.type.accepts value = true)
      (test <$> textOperand property operator raw) := by
  refine ((reads_textOperand property raw operator).of_iff (isTest_text h).symm).map fun text haccepts => ?_
  rw [htest]
  exact List.forall_mem_singleton.mpr haccepts.2

variable (property operator raw)

/-- The tests of a property are read, with operands it accepts. -/
theorem reads_parseTest : Settles (IsTest property operator raw)
    (fun test => ∀ value ∈ test.operands, property.type.accepts value = true) (parseTest property operator raw) := by
  unfold parseTest
  split
  case h_1 =>
    have heq : IsTest property "eq" raw ↔ raw = .null ∨ property.type.Fitting raw := by simp [isTest_iff]
    cases raw with
    | null => exact .ok .eqNull nofun
    | _ =>
      exact ((reads_operand property _).of_iff (by simp [heq])).map fun value haccepts =>
        List.forall_mem_singleton.mpr haccepts
  case h_2 =>
    have hin : IsTest property "in" raw ↔ ∃ items, raw = .array items ∧ ∀ item ∈ items, property.type.Fitting item := by
      simp [isTest_iff]
    cases raw with
    | array items =>
      exact ((Settles.mapM fun item _ => reads_operand property item).of_iff (by simp [hin])).map fun values h => h.2
    | _ => exact .refused _ (by simp [hin])
  case h_3 => exact reads_range (by simp) fun _ => rfl
  case h_4 => exact reads_range (by simp) fun _ => rfl
  case h_5 => exact reads_range (by simp) fun _ => rfl
  case h_6 => exact reads_range (by simp) fun _ => rfl
  case h_7 => exact reads_text (by simp) fun _ => rfl
  case h_8 => exact reads_text (by simp) fun _ => rfl
  case h_9 => exact reads_text (by simp) fun _ => rfl
  case h_10 =>
    have hmatches : IsTest property "matches" raw ↔ (property.type = .id ∨ property.type = .string) ∧
        ∃ text, raw = .string text ∧ (Automaton.ofText? text).isSome = true := by simp [isTest_iff]
    refine (reads_textOperand property raw "matches").bind ?_ fun text ⟨htype, _⟩ ⟨hraw, haccepts⟩ => ?_
    · rw [hmatches]
      exact And.imp_right fun ⟨text, hraw, _⟩ => ⟨text, hraw⟩
    · subst hraw
      split
      · rename_i hpattern
        exact .ok (.matching htype hpattern) (List.forall_mem_singleton.mpr haccepts)
      · rename_i hpattern
        exact .refused _ (by simp [hmatches, hpattern])
  case h_11 =>
    have hnull : IsTest property "isNull" raw ↔ ∃ expected, raw = .bool expected := by simp [isTest_iff]
    cases raw with
    | bool expected => exact .ok (.isNull expected) nofun
    | _ => exact .refused _ (by simp [hnull])
  case h_12 => exact .refused _ (by simp_all [isTest_iff])

end Tests

/-! ## Reading filters -/

section Filters

variable {schema : Schema} {entity : EntityType} {raw : Json} {depth : Nat} {key : String}

theorem fieldsOfNonempty?_eq_some {fields : List (String × Json)} :
    fieldsOfNonempty? raw = some fields ↔ raw = .object fields ∧ fields ≠ [] := by
  unfold fieldsOfNonempty?
  cases raw with
  | object entries => cases entries with
    | nil => simp [Json.fields?, eq_comm]
    | cons _ _ => simp [Json.fields?]; grind
  | _ => simp [Json.fields?]

theorem depth_le_of_mem_items : ∀ {items : List Json} {item : Json}, item ∈ items → item.depth ≤ Json.depthItems items
  | first :: rest, item, h => by
    rw [Json.depthItems]
    rcases List.mem_cons.mp h with rfl | h
    · exact Nat.le_max_left _ _
    · exact Nat.le_trans (depth_le_of_mem_items h) (Nat.le_max_right _ _)

theorem depth_le_of_mem_fields : ∀ {fields : List (String × Json)} {field : String × Json}, field ∈ fields →
    field.2.depth ≤ Json.depthFields fields
  | (_, _) :: rest, field, h => by
    rw [Json.depthFields]
    rcases List.mem_cons.mp h with rfl | h
    · exact Nat.le_max_left _ _
    · exact Nat.le_trans (depth_le_of_mem_fields h) (Nat.le_max_right _ _)

variable [PropertyTable]

/-- The tests of a property are an object with one test at least. -/
theorem reads_parseProperty {prop : PropertyDef} (hprop : entity.property? key = some prop) :
    Settles (∃ fields, raw = .object fields ∧ fields ≠ [] ∧ ∀ field ∈ fields, IsTest prop field.1 field.2)
      (Fits schema entity) (parseProperty prop raw) := by
  have hname : prop.name = key := EntityType.property?_name hprop
  subst hname
  unfold parseProperty
  split
  · rename_i hnone
    refine .refused _ ?_
    rintro ⟨fields, hraw, hne, _⟩
    cases hnone.symm.trans (fieldsOfNonempty?_eq_some.mpr ⟨hraw, hne⟩)
  · rename_i fields hfields
    obtain ⟨rfl, hne⟩ := fieldsOfNonempty?_eq_some.mp hfields
    have hiff : (∃ entries, Json.object fields = .object entries ∧ entries ≠ [] ∧
        ∀ field ∈ entries, IsTest prop field.1 field.2) ↔ ∀ field ∈ fields, IsTest prop field.1 field.2 := by
      simp [hne]
    refine (Settles.mapM (R := Fits schema entity) fun field _ => ?_).bind hiff.mp fun tests hall hread =>
      .ok (hiff.mpr hall) (fits_conjoin hread.2)
    exact (reads_parseTest prop field.2 field.1).bind id fun test htest haccepts =>
      .ok htest (Fits.property hprop haccepts)

/-- What is read with some depth left, for the types of the schema. -/
def ReadsWithin (schema : Schema) (depth : Nat) : Prop :=
  ∀ name entity, schema.entity? name = some entity → ∀ raw : Json, raw.depth ≤ depth →
    Settles (IsFilter schema entity raw) (Fits schema entity) (parseWithin schema depth entity raw)

theorem reads_list (h : ReadsWithin schema depth) {name : String} (hentity : schema.entity? name = some entity)
    (hdepth : raw.depth ≤ depth) :
    Settles (∃ items, raw = .array items ∧ items ≠ [] ∧ ∀ item ∈ items, IsFilter schema entity item)
      (fun filters => filters ≠ [] ∧ ∀ filter ∈ filters, Fits schema entity filter)
      (parseWithin.list schema depth entity key raw) := by
  unfold parseWithin.list
  cases raw with
  | array items =>
    cases items with
    | nil => exact .refused _ (by simp)
    | cons first rest =>
      have hitems : ∀ item ∈ first :: rest, item.depth ≤ depth := by
        intro item hitem
        have hle := depth_le_of_mem_items hitem
        rw [Json.depth] at hdepth
        omega
      have hread := Settles.mapM fun item hitem => h name entity hentity item (hitems item hitem)
      refine (hread.of_iff (by simp)).imp fun filters ⟨hlength, hfits⟩ => ⟨?_, hfits⟩
      rintro rfl
      cases hlength
  | _ => exact .refused _ (by simp)

omit [PropertyTable] in
theorem isSome_ofName?_iff : (Quantifier.ofName? key).isSome = true ↔ key ∈ ["all", "any", "none"] := by
  simp [Quantifier.ofName?, Quantifier.name, eq_comm (b := key)]

/-- A predicate on many related nodes is a table of filters of them by quantifiers. -/
theorem isRelated_many_iff {r : RelationshipDef} (hmany : r.isMany = true) {target : EntityType}
    (htarget : schema.entity? r.target = some target) : IsRelated schema r raw ↔
      ∃ fields, raw = .object fields ∧ fields ≠ [] ∧
        ∀ field ∈ fields, field.1 ∈ ["all", "any", "none"] ∧ IsFilter schema target field.2 := by
  constructor
  · intro hrelated
    cases hrelated with
    | quantified _ hother hne hkeys hfilters =>
      cases htarget.symm.trans hother
      exact ⟨_, rfl, hne, fun field hfield => ⟨hkeys field hfield, hfilters field hfield⟩⟩
    | absent hsingle => cases hmany.symm.trans hsingle
    | single hsingle => cases hmany.symm.trans hsingle
  · rintro ⟨fields, rfl, hne, hall⟩
    exact .quantified hmany htarget hne (fun field hfield => (hall field hfield).1)
      fun field hfield => (hall field hfield).2

/-- A predicate on at most one related node is a filter of it, or says that there is none. -/
theorem isRelated_single_iff {r : RelationshipDef} (hmany : ¬ r.isMany = true) {target : EntityType}
    (htarget : schema.entity? r.target = some target) :
    IsRelated schema r raw ↔ raw = .null ∨ IsFilter schema target raw := by
  have hsingle : r.isMany = false := eq_false_of_ne_true hmany
  constructor
  · intro hrelated
    cases hrelated with
    | quantified hmany' => exact absurd hmany' hmany
    | absent => exact .inl rfl
    | single _ hother hfilter =>
      cases htarget.symm.trans hother
      exact .inr hfilter
  · rintro (rfl | hfilter)
    · exact .absent hsingle
    · exact .single hsingle htarget hfilter

/-- A predicate on related nodes is read by the target of the relationship. -/
theorem reads_predicate (h : ReadsWithin schema depth) {r : RelationshipDef} (hr : entity.relationship? key = some r)
    {target : EntityType} (htarget : schema.entity? r.target = some target) (hdepth : raw.depth ≤ depth) :
    Settles (IsRelated schema r raw) (Fits schema entity) (parseWithin.predicate schema depth r raw) := by
  have hname : r.name = key := EntityType.relationship?_name hr
  subst hname
  unfold parseWithin.predicate
  rw [Schema.entity_eq_ok.mpr htarget, Result.ok_bind]
  split
  · rename_i hmany
    rw [isRelated_many_iff hmany htarget]
    split
    · rename_i hnone
      refine .refused _ ?_
      rintro ⟨fields, hraw, hne, _⟩
      cases hnone.symm.trans (fieldsOfNonempty?_eq_some.mpr ⟨hraw, hne⟩)
    · rename_i fields hfields
      obtain ⟨rfl, hne⟩ := fieldsOfNonempty?_eq_some.mp hfields
      have hiff : (∀ field ∈ fields, field.1 ∈ ["all", "any", "none"] ∧ IsFilter schema target field.2) ↔
          ∃ entries, Json.object fields = .object entries ∧ entries ≠ [] ∧
            ∀ field ∈ entries, field.1 ∈ ["all", "any", "none"] ∧ IsFilter schema target field.2 := by
        simp [hne]
      refine Settles.of_iff ?_ hiff
      refine (Settles.mapM (R := Fits schema entity) fun field hfield => ?_).map
        fun filters hread => fits_conjoin hread.2
      obtain ⟨name, nested⟩ := field
      have hle : nested.depth ≤ _ := depth_le_of_mem_fields hfield
      rw [Json.depth] at hdepth
      have hnested := h r.target target htarget nested (by omega)
      dsimp only
      split
      · rename_i hnone
        refine .refused _ fun hboth => ?_
        have hsome := isSome_ofName?_iff.mpr hboth.1
        rw [hnone] at hsome
        cases hsome
      · rename_i quantifier hquantifier
        have hkey : name ∈ ["all", "any", "none"] := isSome_ofName?_iff.mp (by rw [hquantifier]; rfl)
        exact (hnested.of_iff (by simp only [hkey, true_and])).map fun filter hfits => Fits.related hr htarget hfits
  · rename_i hmany
    rw [isRelated_single_iff hmany htarget]
    split
    · rename_i hnull
      cases raw with
      | null => exact .ok (.inl rfl) (.related hr htarget (.conj (by simp)))
      | _ => cases hnull
    · rename_i hnull
      have hiff : IsFilter schema target raw ↔ raw = .null ∨ IsFilter schema target raw := by
        refine ⟨.inr, fun hraw => hraw.resolve_left ?_⟩
        rintro rfl
        exact hnull rfl
      exact ((h r.target target htarget raw hdepth).of_iff hiff).map fun filter hfits => Fits.related hr htarget hfits

theorem isEntry_iff : IsEntry schema entity key raw ↔
    key ∈ ["and", "or"] ∧ (∃ items, raw = .array items ∧ items ≠ [] ∧ ∀ item ∈ items, IsFilter schema entity item) ∨
    key = "not" ∧ IsFilter schema entity raw ∨
    key ∉ reserved ∧ ((∃ prop, entity.property? key = some prop ∧
        ∃ fields, raw = .object fields ∧ fields ≠ [] ∧ ∀ field ∈ fields, IsTest prop field.1 field.2) ∨
      entity.property? key = none ∧ ∃ r, entity.relationship? key = some r ∧ IsRelated schema r raw) := by
  constructor
  · intro h
    cases h with
    | list hkey hne hitems => exact .inl ⟨hkey, _, rfl, hne, hitems⟩
    | neg hfilter => exact .inr (.inl ⟨rfl, hfilter⟩)
    | property hkey hprop hne htests => exact .inr (.inr ⟨hkey, .inl ⟨_, hprop, _, rfl, hne, htests⟩⟩)
    | relationship hkey hprop hr hrelated => exact .inr (.inr ⟨hkey, .inr ⟨hprop, _, hr, hrelated⟩⟩)
  · rintro (⟨hkey, items, rfl, hne, hitems⟩ | ⟨rfl, hfilter⟩ | ⟨hkey, ⟨prop, hprop, fields, rfl, hne, htests⟩ |
      ⟨hprop, r, hr, hrelated⟩⟩)
    · exact .list hkey hne hitems
    · exact .neg hfilter
    · exact .property hkey hprop hne htests
    · exact .relationship hkey hprop hr hrelated

/-- An entry of a filter is read by what its key is. -/
theorem reads_entry (h : ReadsWithin schema depth) {name : String} (hentity : schema.entity? name = some entity)
    (htargets : ∀ r, entity.relationship? key = some r → ∃ target, schema.entity? r.target = some target)
    (hdepth : raw.depth ≤ depth) :
    Settles (IsEntry schema entity key raw) (Fits schema entity) (parseWithin.entry schema depth entity key raw) := by
  unfold parseWithin.entry
  split
  · refine ((reads_list h hentity hdepth).of_iff ?_).map fun filters hfits => Fits.conj hfits.2
    simp [isEntry_iff, reserved]
  · refine ((reads_list h hentity hdepth).of_iff ?_).map fun filters hfits => Fits.disj hfits.1 hfits.2
    simp [isEntry_iff, reserved]
  · refine ((h name entity hentity raw hdepth).of_iff ?_).map fun filter hfits => Fits.neg hfits
    simp [isEntry_iff, reserved]
  · rename_i hand hor hnot
    have hkey : IsEntry schema entity key raw ↔ (∃ prop, entity.property? key = some prop ∧
          ∃ fields, raw = .object fields ∧ fields ≠ [] ∧ ∀ field ∈ fields, IsTest prop field.1 field.2) ∨
        entity.property? key = none ∧ ∃ r, entity.relationship? key = some r ∧ IsRelated schema r raw := by
      have hlist : key ∉ ["and", "or"] := by simpa using ⟨hand, hor⟩
      have hneg : key ≠ "not" := hnot
      have hreserved : key ∉ reserved := by simpa [reserved] using ⟨hand, hor, hnot⟩
      simp only [isEntry_iff, hlist, hneg, hreserved, false_and, false_or, not_false_eq_true, true_and]
    split
    · rename_i prop hprop
      exact (reads_parseProperty hprop).of_iff (by simp [hkey, hprop])
    · rename_i hprop
      split
      · rename_i r hr
        obtain ⟨target, htarget⟩ := htargets r hr
        exact (reads_predicate h hr htarget hdepth).of_iff (by simp [hkey, hprop, hr])
      · rename_i hr
        exact .refused _ (by simp [hkey, hprop, hr])

/-- Filters are read exactly when they are some, for trees no deeper than the depth that is left. -/
theorem readsWithin (htargets : ∀ name entity, schema.entity? name = some entity → ∀ key r,
    entity.relationship? key = some r → ∃ target, schema.entity? r.target = some target) :
    ∀ depth, ReadsWithin schema depth
  | 0 => fun _ _ _ raw hdepth => by cases raw <;> simp [Json.depth] at hdepth
  | depth + 1 => by
    intro name entity hentity raw hdepth
    rw [parseWithin]
    cases raw with
    | object fields =>
      have hiff : IsFilter schema entity (.object fields) ↔
          ∀ field ∈ fields, IsEntry schema entity field.1 field.2 := by
        constructor
        · rintro ⟨hentries⟩
          exact hentries
        · exact .object
      refine (Settles.mapM (R := Fits schema entity) fun field hfield => ?_).bind hiff.mp fun filters hall hread =>
        .ok (hiff.mpr hall) (fits_conjoin hread.2)
      have hle := depth_le_of_mem_fields hfield
      rw [Json.depth] at hdepth
      exact reads_entry (readsWithin htargets depth) hentity (htargets name entity hentity field.1) (by omega)
    | _ => exact .refused _ (by rintro ⟨⟩)

end Filters

/-- Documents that have such a title or no owner, with an owner all of whose friends have a name. -/
def namedRaw : Json :=
  .object [("or", .array [.object [("title", .object [("startsWith", .string "A")])], .object [("owner", .null)]]),
    ("owner", .object [("friends", .object [("all", .object [("name", .object [("isNull", .bool false)])])])])]

/-- The quantifier is missing. -/
def unquantifiedRaw : Json := .object [("owner", .object [("friends", .object [])])]

end Filter
end GraphQuery
