import GraphQuery.Proofs.Cursor.RoundTrip
import GraphQuery.Proofs.Json.Injective
import GraphQuery.Proofs.Plan.Fingerprint
import GraphQuery.Proofs.Statement.Names

/-!
# The fingerprint of options

The written form of options keeps everything there is to them: every filter, sort key and value has a form of its own,
whatever names and strings stand in it (`Filter.toJson_injective`, `Options.toJson_injective`), and the text of the form
says which form it is. So options with the same fingerprint are the same (`Options.eq_of_key`), when the fingerprints do
not collide by chance and the floating-point numbers in the filters are finite and have numerals of their own.
-/

namespace GraphQuery

/-! ## Forms of their own -/

theorem Direction.name_injective {a b : Direction} (h : a.name = b.name) : a = b := by
  cases a <;> cases b <;> first | rfl | exact absurd h (by decide)

theorem Cardinality.name_injective {a b : Cardinality} (h : a.name = b.name) : a = b := by
  cases a <;> cases b <;> first | rfl | exact absurd h (by decide)

theorem Quantifier.name_injective {a b : Quantifier} (h : a.name = b.name) : a = b := by
  cases a <;> cases b <;> first | rfl | exact absurd h (by decide)

theorem SortDirection.name_injective {a b : SortDirection} (h : a.name = b.name) : a = b := by
  cases a <;> cases b <;> first | rfl | exact absurd h (by decide)

theorem Json.ofOption_injective {α : Type} {f : α → Json} (hf : ∀ a b, f a = f b → a = b) (hnull : ∀ a, f a ≠ .null)
    {a b : Option α} (h : Json.ofOption f a = Json.ofOption f b) : a = b := by
  cases a <;> cases b
  · rfl
  · exact absurd h.symm (hnull _)
  · exact absurd h (hnull _)
  · exact congrArg some (hf _ _ h)

theorem RelationshipDef.toJson_injective {a b : RelationshipDef} (h : a.toJson = b.toJson) : a = b := by
  obtain ⟨name, owner, target, label, direction, cardinality, inverse⟩ := a
  simp only [toJson, Json.object.injEq, List.cons.injEq, Prod.mk.injEq, true_and, and_true, Json.string.injEq] at h
  obtain ⟨rfl, rfl, rfl, rfl, hdirection, hcardinality, hinverse⟩ := h
  obtain rfl := Direction.name_injective hdirection
  obtain rfl := Cardinality.name_injective hcardinality
  obtain rfl := Json.ofOption_injective (fun _ _ => Json.string.inj) (fun _ => Json.noConfusion) hinverse
  rfl

/-- A test reads back from its written form. -/
theorem PropertyTest.ofJson?_toJson : ∀ test : PropertyTest, ofJson? test.toJson = some test
  | eq value | lt value | lte value | gt value | gte value => by
    simp [toJson, ofJson?, Json.variant?, Value.ofTagged?_tagged]
  | oneOf values => by
    have hvalues : (values.map Value.tagged).mapM Value.ofTagged? = some values :=
      Value.mapM_map_some Value.ofTagged?_tagged values
    simp [toJson, ofJson?, Json.variant?, Json.list?, Json.items?, hvalues]
  | startsWith _ | endsWith _ | contains _ | matching _ | isNull _ => rfl

theorem PropertyTest.toJson_injective {a b : PropertyTest} (h : a.toJson = b.toJson) : a = b := by
  have hread := congrArg ofJson? h
  rw [ofJson?_toJson, ofJson?_toJson] at hread
  exact Option.some.inj hread

/-- Variants with a content are written alike when they have one name and their contents are written alike. -/
theorem Json.variant_inj {name other : String} {a b : Json} :
    Json.object [(name, a)] = .object [(other, b)] ↔ name = other ∧ a = b := by
  simp

namespace Filter

mutual

/-- Every filter has a written form of its own. -/
theorem toJson_injective : ∀ {a b : Filter}, a.toJson = b.toJson → a = b
  | conj members, b, h => by
    cases b with
    | conj others =>
      rw [toJson, toJson, Json.variant_inj] at h
      rw [listToJson_injective (Json.array.inj h.2)]
    | _ => simp [toJson] at h
  | disj members, b, h => by
    cases b with
    | disj others =>
      rw [toJson, toJson, Json.variant_inj] at h
      rw [listToJson_injective (Json.array.inj h.2)]
    | _ => simp [toJson] at h
  | neg filter, b, h => by
    cases b with
    | neg other =>
      rw [toJson, toJson, Json.variant_inj] at h
      rw [toJson_injective h.2]
    | _ => simp [toJson] at h
  | property name test, b, h => by
    cases b with
    | property other test' =>
      simp only [toJson, Json.object.injEq, List.cons.injEq, Prod.mk.injEq, true_and, and_true, Json.string.injEq] at h
      rw [h.1, PropertyTest.toJson_injective h.2]
    | _ => simp [toJson] at h
  | related relationship quantifier filter, b, h => by
    cases b with
    | related relationship' quantifier' other =>
      simp only [toJson, Json.object.injEq, List.cons.injEq, Prod.mk.injEq, true_and, and_true, Json.string.injEq] at h
      obtain ⟨hrelationship, hquantifier, hfilter⟩ := h
      rw [RelationshipDef.toJson_injective hrelationship, Quantifier.name_injective hquantifier,
        toJson_injective hfilter]
    | _ => simp [toJson] at h

theorem listToJson_injective : ∀ {as bs : List Filter}, listToJson as = listToJson bs → as = bs
  | [], [], _ => rfl
  | [], _ :: _, h | _ :: _, [], h => by cases h
  | a :: as, b :: bs, h => by
    obtain ⟨hfirst, hrest⟩ := List.cons.inj h
    rw [toJson_injective hfirst, listToJson_injective hrest]

end

end Filter

theorem OrderPath.toJson_injective {a b : OrderPath} (h : a.toJson = b.toJson) : a = b := by
  cases a with
  | property name =>
    cases b with
    | property other =>
      rw [toJson, toJson, Json.variant_inj] at h
      rw [Json.string.inj h.2]
    | related => simp [toJson] at h
  | related relationship name =>
    cases b with
    | property => simp [toJson] at h
    | related relationship' other =>
      simp only [toJson, Json.object.injEq, List.cons.injEq, Prod.mk.injEq, true_and, and_true, Json.string.injEq] at h
      rw [RelationshipDef.toJson_injective h.1, h.2]

theorem OrderKey.toJson_injective {a b : OrderKey} (h : a.toJson = b.toJson) : a = b := by
  obtain ⟨name, path, direction, nullable⟩ := a
  simp only [toJson, Json.object.injEq, List.cons.injEq, Prod.mk.injEq, true_and, and_true, Json.string.injEq,
    Json.bool.injEq] at h
  obtain ⟨rfl, hpath, hdirection, rfl⟩ := h
  obtain rfl := OrderPath.toJson_injective hpath
  obtain rfl := SortDirection.name_injective hdirection
  rfl

theorem Order.toJson_injective {a b : Order} (h : a.toJson = b.toJson) : a = b := by
  obtain ⟨keys⟩ := a
  simp only [toJson, Json.object.injEq, List.cons.injEq, Prod.mk.injEq, true_and, and_true, Json.array.injEq] at h
  obtain rfl := (List.map_injective_iff.mpr fun _ _ => OrderKey.toJson_injective) h
  rfl

theorem Options.toJson_injective {a b : Options} (h : a.toJson = b.toJson) : a = b := by
  obtain ⟨filter, order, after, before, first, last, countsTotal⟩ := a
  simp only [toJson, Json.object.injEq, List.cons.injEq, Prod.mk.injEq, true_and, and_true, Json.bool.injEq] at h
  obtain ⟨hfilter, horder, hafter, hbefore, hfirst, hlast, rfl⟩ := h
  have hcursor : ∀ s : String, Json.string s ≠ .null := fun _ => Json.noConfusion
  have hlimit : ∀ m n : Nat, Json.int m = .int n → m = n := fun _ _ h => Int.ofNat.inj (Json.int.inj h)
  have hgiven : ∀ n : Nat, Json.int n ≠ .null := fun _ => Json.noConfusion
  obtain rfl := Filter.toJson_injective hfilter
  obtain rfl := Order.toJson_injective horder
  obtain rfl := Json.ofOption_injective (fun _ _ => Json.string.inj) hcursor hafter
  obtain rfl := Json.ofOption_injective (fun _ _ => Json.string.inj) hcursor hbefore
  obtain rfl := Json.ofOption_injective hlimit hgiven hfirst
  obtain rfl := Json.ofOption_injective hlimit hgiven hlast
  rfl

/-! ## The numbers of a filter -/

namespace Json

variable {P : Binary64 → Prop}

@[simp] theorem over_null : null.Over P := .null

@[simp] theorem over_bool (b : Bool) : (bool b).Over P := .bool b

@[simp] theorem over_int (n : Int) : (int n).Over P := .int n

@[simp] theorem over_string (s : String) : (string s).Over P := .string s

@[simp] theorem over_array {items : List Json} : (array items).Over P ↔ ∀ item ∈ items, item.Over P :=
  ⟨fun h => by cases h; assumption, .array⟩

@[simp] theorem over_object {fields : List (String × Json)} :
    (object fields).Over P ↔ ∀ field ∈ fields, field.2.Over P :=
  ⟨fun h => by cases h; assumption, .object⟩

theorem over_ofOption {α : Type} {f : α → Json} (h : ∀ a, (f a).Over P) : ∀ a : Option α, (ofOption f a).Over P
  | none => .null
  | some a => h a

end Json

section Numbers

variable {P : Binary64 → Prop}

theorem Value.over_tagged {value : Value} (h : ∀ x, value = .float x → P x) : value.tagged.Over P := by
  cases value with
  | float x => simpa [tagged] using Json.Over.float (h x rfl)
  | _ => simp [tagged, Json.strings]

theorem RelationshipDef.over_toJson (relationship : RelationshipDef) : relationship.toJson.Over P := by
  simp [toJson, Json.over_ofOption Json.over_string]

theorem PropertyTest.over_toJson {test : PropertyTest} (h : ∀ x, .float x ∈ test.literals → P x) :
    test.toJson.Over P := by
  have hvalue : ∀ value ∈ test.literals, value.tagged.Over P := by
    rintro value hvalue
    exact Value.over_tagged fun x hx => h x (hx ▸ hvalue)
  cases test <;> simp_all [toJson, literals]

namespace Filter

mutual

/-- The numbers in the written form of a filter are those among its literals. -/
theorem over_toJson : ∀ {filter : Filter}, (∀ x, .float x ∈ filter.literals → P x) → filter.toJson.Over P
  | conj members, h | disj members, h => by
    rw [literals] at h
    simpa [toJson] using over_listToJson h
  | neg filter, h => by
    rw [literals] at h
    simpa [toJson] using over_toJson h
  | property name test, h => by
    rw [literals] at h
    simpa [toJson] using PropertyTest.over_toJson h
  | related relationship quantifier filter, h => by
    rw [literals] at h
    simpa [toJson, relationship.over_toJson] using over_toJson h

theorem over_listToJson : ∀ {filters : List Filter}, (∀ x, .float x ∈ literalsOfAll filters → P x) →
    ∀ json ∈ listToJson filters, json.Over P
  | [], _ => nofun
  | filter :: rest, h => by
    rw [literalsOfAll] at h
    have hfirst := over_toJson fun x hx => h x (List.mem_append_left _ hx)
    have hrest := over_listToJson fun x hx => h x (List.mem_append_right _ hx)
    exact List.forall_mem_cons.mpr ⟨hfirst, hrest⟩

end

end Filter

theorem Order.over_toJson (order : Order) : order.toJson.Over P := by
  have hpath : ∀ path : OrderPath, path.toJson.Over P := by
    intro path
    cases path with
    | property name => simp [OrderPath.toJson]
    | related relationship name => simp [OrderPath.toJson, relationship.over_toJson]
  simp [toJson, OrderKey.toJson, hpath]

/-- The only numbers in the written form of options are those in the filter. -/
theorem Options.over_toJson {options : Options} (h : ∀ x, .float x ∈ options.filter.literals → P x) :
    options.toJson.Over P := by
  simp [toJson, Filter.over_toJson h, options.order.over_toJson, Json.over_ofOption Json.over_string,
    Json.over_ofOption fun n : Nat => Json.over_int n]

end Numbers

/-! ## Fingerprints -/

/-- Options with one fingerprint are the same, in their filters, orders, cursors, limits and in whether they count,
provided that the two written forms do not collide and that the floating-point numbers in the two filters are finite
and told apart by their numerals. -/
theorem Options.eq_of_key {first second : Options}
    (hfloats : Json.TellsApart fun x => .float x ∈ first.filter.literals ++ second.filter.literals)
    (hhash : Blake3.hash first.bytes = Blake3.hash second.bytes → first.bytes = second.bytes)
    (hkey : first.key = second.key) : first = second := by
  have htext : first.toJson.text = second.toJson.text := utf8_inj (hhash hkey)
  have hfirst : first.toJson.Over fun x => .float x ∈ first.filter.literals ++ second.filter.literals :=
    Options.over_toJson fun x hx => List.mem_append_left _ hx
  have hsecond : second.toJson.Over fun x => .float x ∈ first.filter.literals ++ second.filter.literals :=
    Options.over_toJson fun x hx => List.mem_append_right _ hx
  exact Options.toJson_injective (Json.eq_of_text hfloats hfirst hsecond htext)

/-- Scores of either zero, and a name that looks like the end of a written form. -/
def Filter.zeros : Filter :=
  .disj [.property "score" (.oneOf [.float (.ofBits 0), .float (.ofBits 0x8000000000000000), .int 0]),
    .neg (.property "name" (.eq (.string "\"\x7d]\x7d,")))]

/-- The two zeros have numerals of their own, and the first two nodes have one fingerprint however they are asked
for. -/
theorem Options.eq_of_key_zeros : ∃ built, Options.build .zeros .byId none none (some 2) none true = .ok built ∧
    built.key = Options.key ⟨.zeros, .byId, none, none, some 2, none, true⟩ ∧
    built = ⟨.zeros, .byId, none, none, some 2, none, true⟩ := by
  have hzero : ∀ x, .float x ∈ Filter.zeros.literals ++ Filter.zeros.literals →
      x = .ofBits 0 ∨ x = .ofBits 0x8000000000000000 := by
    intro x hx
    have hliterals : Filter.zeros.literals =
        [.float (.ofBits 0), .float (.ofBits 0x8000000000000000), .int 0, .string "\"\x7d]\x7d,"] := rfl
    have hmem : .float x ∈ Filter.zeros.literals := (List.mem_append.mp hx).elim id id
    rw [hliterals] at hmem
    simpa using hmem
  have hfloats : Json.TellsApart fun x => .float x ∈ Filter.zeros.literals ++ Filter.zeros.literals := by
    refine ⟨fun x hx => ?_, fun x y hx hy h => ?_⟩
    · rcases hzero x hx with rfl | rfl <;> rfl
    · rcases hzero x hx with rfl | rfl <;> rcases hzero y hy with rfl | rfl
      · rfl
      · exact absurd h (by decide +kernel)
      · exact absurd h (by decide +kernel)
      · rfl
  exact ⟨_, rfl, rfl, Options.eq_of_key hfloats (fun _ => rfl) rfl⟩

end GraphQuery
