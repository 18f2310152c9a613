import GraphQuery.Proofs.Graph.Selection
import GraphQuery.Proofs.Order.Keys
import GraphQuery.Proofs.Schema.Lineage
import Mathlib.Data.List.TakeDrop
import Mathlib.Data.List.TakeWhile

/-!
# The grammar of orders

A client writes an order as `null`, as one item, or as a list of items with distinct fields (`Order.Written`). A field
is a property of the type, or a single relationship and a property of its target with a point between them
(`Order.FieldKey`). It is split at its first point, so a property with a point in its name cannot be asked for by it.

An order whose directions are texts or `null` is read exactly when it is written so, and is otherwise refused as
invalid. Whatever is read has distinct names and the identifier among or behind the keys of its items, which no two
nodes share (`Order.parse_written`).
-/

namespace GraphQuery
namespace Order

/-! ## Readers -/

/-- A result that is what a relation admits, and otherwise an invalid order. -/
structure Accepts {α : Type} (P : α → Prop) (x : Result α) : Prop where
  ok : ∀ a, x = .ok a ↔ P a
  refused : ∀ e, x = .error e → ∃ fault, e = .invalidOrder fault

namespace Accepts

variable {α β : Type} {P P' : α → Prop} {Q : α → β → Prop} {x : Result α} {f : α → Result β}

theorem congr (h : Accepts P x) (hp : ∀ a, P a ↔ P' a) : Accepts P' x := ⟨fun a => (h.ok a).trans (hp a), h.refused⟩

theorem pure (a : α) : Accepts (fun b => b = a) (.ok a : Result α) where
  ok b := by rw [Except.ok.injEq, eq_comm]
  refused _ h := by cases h

theorem refuse (fault : OrderFault) (h : ∀ a, ¬ P a) : Accepts P (Order.refuse fault) where
  ok a := iff_of_false nofun (h a)
  refused e he := by
    cases he
    exact ⟨fault, rfl⟩

theorem bind (h : Accepts P x) (hf : ∀ a, P a → Accepts (Q a) (f a)) :
    Accepts (fun b => ∃ a, P a ∧ Q a b) (x >>= f) where
  ok b := by
    rw [Result.bind_eq_ok]
    refine exists_congr fun a => ?_
    rw [h.ok a]
    exact and_congr_right fun ha => (hf a ha).ok b
  refused e he := by
    cases x with
    | error e' => exact h.refused e (congrArg Except.error (Except.error.inj he))
    | ok a => exact (hf a ((h.ok a).mp rfl)).refused e he

end Accepts

/-! ## Fields -/

/-- The key of a field in a direction. -/
inductive FieldKey (schema : Schema) (entity : EntityType) (field : String) (direction : SortDirection) :
    OrderKey → Prop
  | property {property : PropertyDef} : '.' ∉ field.toList → entity.property? field = some property →
      FieldKey schema entity field direction ⟨field, .property field, direction, property.nullable⟩
  | related {name : String} {relationship : RelationshipDef} {target : EntityType} {property : PropertyDef} :
      field = name ++ "." ++ property.name → '.' ∉ name.toList → entity.relationship? name = some relationship →
      relationship.cardinality = .one → schema.entity? relationship.target = some target →
      target.property? property.name = some property →
      FieldKey schema entity field direction ⟨field, .related relationship property.name, direction, true⟩

theorem FieldKey.name {schema : Schema} {entity : EntityType} {field : String} {direction : SortDirection}
    {key : OrderKey} (h : FieldKey schema entity field direction key) : key.name = field := by
  cases h <;> rfl

theorem span_point {before after : List Char} (h : '.' ∉ before) :
    (before ++ '.' :: after).span (· != '.') = (before, '.' :: after) := by
  have hbefore : ∀ c ∈ before, (c != '.') = true := fun c hc => by
    rw [bne_iff_ne]
    rintro rfl
    exact h hc
  rw [List.span_eq_takeWhile_dropWhile, List.takeWhile_append_of_pos hbefore, List.dropWhile_append_of_pos hbefore]
  simp

theorem splitAtPoint_append {before : String} (after : String) (h : '.' ∉ before.toList) :
    splitAtPoint (before ++ "." ++ after) = some (before, after) := by
  have hlist : (before ++ "." ++ after).toList = before.toList ++ '.' :: after.toList := by simp
  rw [splitAtPoint, hlist, span_point h]
  simp

theorem splitAtPoint_of_not_mem {field : String} (h : '.' ∉ field.toList) : splitAtPoint field = none := by
  have hfield : ∀ c ∈ field.toList, (c != '.') = true := fun c hc => by
    rw [bne_iff_ne]
    rintro rfl
    exact h hc
  have hspan : field.toList.span (· != '.') = (field.toList, []) := by
    rw [List.span_eq_takeWhile_dropWhile, List.takeWhile_eq_self_iff.mpr hfield, List.dropWhile_eq_nil_iff.mpr hfield]
  rw [splitAtPoint, hspan]

/-- A field has no point, or a first one. -/
theorem split_cases (field : String) : '.' ∉ field.toList ∨
    ∃ before after : String, field = before ++ "." ++ after ∧ '.' ∉ before.toList := by
  by_cases h : '.' ∈ field.toList
  · obtain ⟨before, after, hfield, hbefore⟩ := List.eq_append_cons_of_mem h
    refine .inr ⟨String.ofList before, String.ofList after, ?_, by simpa using hbefore⟩
    apply String.toList_injective
    simp [hfield]
  · exact .inl h

section Fields

variable {schema : Schema} {entity : EntityType} {field name : String} {direction : SortDirection} {key : OrderKey}

theorem fieldKey_plain (h : '.' ∉ field.toList) : FieldKey schema entity field direction key ↔
    ∃ property, entity.property? field = some property ∧
      key = ⟨field, .property field, direction, property.nullable⟩ := by
  constructor
  · rintro (⟨_, hproperty⟩ | ⟨rfl, _⟩)
    · exact ⟨_, hproperty, rfl⟩
    · exact absurd (mem_toList_append_point _ _) h
  · rintro ⟨property, hproperty, rfl⟩
    exact .property h hproperty

theorem fieldKey_pointed {after : String} (h : '.' ∉ name.toList) :
    FieldKey schema entity (name ++ "." ++ after) direction key ↔
      ∃ relationship, entity.relationship? name = some relationship ∧ relationship.isMany = false ∧
        ∃ target, schema.entity? relationship.target = some target ∧ (target.property? after).isSome = true ∧
          key = .ofRelated relationship after direction := by
  constructor
  · intro hkey
    cases hkey with
    | property hplain => exact absurd (mem_toList_append_point _ _) hplain
    | @related other relationship target property hfield hother hrelationship hone htarget hproperty =>
      have hsplit := splitAtPoint_append after h
      rw [hfield, splitAtPoint_append _ hother] at hsplit
      cases hsplit
      have hname : relationship.name = name := EntityType.relationship?_name hrelationship
      refine ⟨relationship, hrelationship, RelationshipDef.isMany_eq_false.mpr hone, target, htarget, ?_, ?_⟩
      · exact Option.isSome_of_eq_some hproperty
      · rw [OrderKey.ofRelated, hname]
  · rintro ⟨relationship, hrelationship, hone, target, htarget, hsome, rfl⟩
    obtain ⟨property, hproperty⟩ := Option.isSome_iff_exists.mp hsome
    have hafter : property.name = after := EntityType.property?_name hproperty
    have hname : relationship.name = name := EntityType.relationship?_name hrelationship
    subst hafter hname
    exact .related rfl h hrelationship (RelationshipDef.isMany_eq_false.mp hone) htarget hproperty

/-- A field is read as the key it writes. -/
theorem accepts_parseField (htargets : ∀ key r, entity.relationship? key = some r →
    ∃ target, schema.entity r.target = .ok target) (field : String) (direction : SortDirection) :
    Accepts (FieldKey schema entity field direction) (parseField schema entity field direction) := by
  rw [parseField]
  rcases split_cases field with hplain | ⟨name, after, rfl, hname⟩
  · simp only [splitAtPoint_of_not_mem hplain]
    refine Accepts.congr ?_ fun key => (fieldKey_plain hplain).symm
    cases entity.property? field with
    | none => exact .refuse _ (by simp)
    | some property => exact (Accepts.pure _).congr fun key => by simp [OrderKey.ofProperty]
  · simp only [splitAtPoint_append after hname]
    refine Accepts.congr ?_ fun key => (fieldKey_pointed hname).symm
    cases hr : entity.relationship? name with
    | none => exact .refuse _ (by simp)
    | some r =>
      cases hmany : r.isMany with
      | true =>
        rw [Option.filter_some_neg (by simp [hmany])]
        exact .refuse _ (by simp [hmany])
      | false =>
        rw [Option.filter_some_pos (by simp [hmany])]
        obtain ⟨target, htarget⟩ := htargets name r hr
        simp only [htarget, Result.ok_bind]
        have htarget := Schema.entity_eq_ok.mp htarget
        cases hsome : (target.property? after).isSome with
        | true => exact (Accepts.pure _).congr fun key => by simp [hmany, htarget, hsome]
        | false => exact .refuse _ (by simp [htarget, hsome])

end Fields

/-! ## Items -/

/-- The direction that is written, upwards where none is. -/
inductive DirectionOf : Option Json → SortDirection → Prop
  | absent : DirectionOf none .ascending
  | null : DirectionOf (some .null) .ascending
  | ascending : DirectionOf (some (.string "ASC")) .ascending
  | descending : DirectionOf (some (.string "DESC")) .descending

/-- The key of an item. -/
inductive ItemKey (schema : Schema) (entity : EntityType) : Json → OrderKey → Prop
  | item {fields : List (String × Json)} {field : String} {direction : SortDirection} {key : OrderKey} :
      List.lookup "field" fields = some (.string field) → DirectionOf (List.lookup "direction" fields) direction →
      FieldKey schema entity field direction key → ItemKey schema entity (.object fields) key

/-- The key of an item has the name of its field. -/
theorem ItemKey.field {schema : Schema} {entity : EntityType} {fields : List (String × Json)} {key : OrderKey}
    (h : ItemKey schema entity (.object fields) key) : List.lookup "field" fields = some (.string key.name) := by
  obtain ⟨hfield, _, hkey⟩ := h
  rw [hfield, hkey.name]

/-- The keys of an order as it is written, without the identifier that is put behind them. -/
inductive Written (schema : Schema) (entity : EntityType) : Json → List OrderKey → Prop
  | null : Written schema entity .null []
  | item {fields : List (String × Json)} {key : OrderKey} :
      ItemKey schema entity (.object fields) key → Written schema entity (.object fields) [key]
  | items {items : List Json} {keys : List OrderKey} :
      List.Forall₂ (ItemKey schema entity) items keys → (keys.map (·.name)).Nodup →
      Written schema entity (.array items) keys

/-- The directions of an item are texts or `null`. -/
def Directed (item : Json) : Prop :=
  ∀ direction, item.field? "direction" = some direction → direction = .null ∨ ∃ name, direction = .string name

/-- The directions of all items are texts or `null`. -/
def AllDirected (raw : Json) : Prop := ∀ items, itemsOf raw = .ok items → ∀ item ∈ items, Directed item

/-- Reads one more item. -/
def readNext (schema : Schema) (entity : EntityType) (keys : List OrderKey) (item : Json) : Result (List OrderKey) := do
  let key ← parseItem schema entity item
  if keys.any fun k => k.name = key.name then refuse (.orderedTwice key.name) else return keys ++ [key]

section Items

variable {schema : Schema} {entity : EntityType} {item raw : Json}

theorem DirectionOf.text {json : Json} {direction : SortDirection} (h : DirectionOf (some json) direction) :
    json = .null ∨ ∃ name, json = .string name := by
  cases h with
  | null => exact .inl rfl
  | ascending | descending => exact .inr ⟨_, rfl⟩

theorem ItemKey.directed {key : OrderKey} (h : ItemKey schema entity item key) : Directed item := by
  obtain ⟨_, hdirection, _⟩ := h
  intro json hjson
  rw [show List.lookup "direction" _ = some json from hjson] at hdirection
  exact hdirection.text

theorem directed_of_forall₂ : ∀ {items : List Json} {keys : List OrderKey},
    List.Forall₂ (ItemKey schema entity) items keys → ∀ item ∈ items, Directed item
  | _, _, .nil => nofun
  | _, _, .cons hkey hkeys => List.forall_mem_cons.mpr ⟨hkey.directed, directed_of_forall₂ hkeys⟩

/-- What is written by the grammar has no other directions. -/
theorem Written.allDirected {keys : List OrderKey} (h : Written schema entity raw keys) : AllDirected raw := by
  rintro _ hitems item hitem
  cases h with
  | null =>
    cases hitems
    cases hitem
  | item hkey =>
    cases hitems
    rw [List.mem_singleton.mp hitem]
    exact hkey.directed
  | items hkeys _ =>
    cases hitems
    exact directed_of_forall₂ hkeys item hitem

theorem directionOf_text {name : String} {direction : SortDirection} :
    DirectionOf (some (.string name)) direction ↔ direction.name = name := by
  constructor
  · rintro (_ | _) <;> rfl
  · rintro rfl
    cases direction
    · exact .ascending
    · exact .descending

theorem ofName?_eq_some {name : String} {direction : SortDirection} :
    SortDirection.ofName? name = some direction ↔ direction.name = name := by
  constructor
  · intro h
    simpa using List.find?_some h
  · rintro rfl
    cases direction <;> rfl

theorem accepts_parseDirection (h : Directed item) :
    Accepts (DirectionOf (item.field? "direction")) (parseDirection item) := by
  rw [parseDirection]
  cases hdirection : item.field? "direction" with
  | none =>
    refine (Accepts.pure _).congr fun direction => ⟨?_, ?_⟩
    · rintro rfl
      exact .absent
    · rintro ⟨⟩
      rfl
  | some json =>
    rcases h json hdirection with rfl | ⟨name, rfl⟩
    · refine (Accepts.pure _).congr fun direction => ⟨?_, ?_⟩
      · rintro rfl
        exact .null
      · rintro ⟨⟩
        rfl
    · refine Accepts.congr ?_ fun direction => (directionOf_text.trans ofName?_eq_some.symm).symm
      simp only [Option.bind_some, Json.string?]
      cases SortDirection.ofName? name with
      | none => exact .refuse _ (by simp)
      | some direction => exact (Accepts.pure direction).congr fun other => by rw [Option.some.injEq, eq_comm]

variable (htargets : ∀ key r, entity.relationship? key = some r → ∃ target, schema.entity r.target = .ok target)

include htargets

/-- An item is read as the key it writes. -/
theorem accepts_parseItem (h : Directed item) :
    Accepts (ItemKey schema entity item) (parseItem schema entity item) := by
  have hshape : ∀ {raw : Json} {key : OrderKey}, ItemKey schema entity raw key → ∃ fields, raw = .object fields :=
    fun ⟨_, _, _⟩ => ⟨_, rfl⟩
  cases item with
  | object fields =>
    have hitem : ∀ key, ItemKey schema entity (.object fields) key ↔ ∃ field direction,
        List.lookup "field" fields = some (.string field) ∧ DirectionOf (List.lookup "direction" fields) direction ∧
          FieldKey schema entity field direction key := fun key =>
      ⟨fun ⟨hfield, hdirection, hkey⟩ => ⟨_, _, hfield, hdirection, hkey⟩,
        fun ⟨_, _, hfield, hdirection, hkey⟩ => .item hfield hdirection hkey⟩
    refine Accepts.congr ?_ fun key => (hitem key).symm
    have hfield : (Json.object fields).field? "field" = List.lookup "field" fields := rfl
    simp only [parseItem, Json.fields?, Option.isNone_some, Bool.false_eq_true, if_false, hfield]
    cases htext : (List.lookup "field" fields).bind Json.string? with
    | none =>
      refine .refuse _ fun key => ?_
      rintro ⟨field, _, hlookup, _⟩
      rw [hlookup] at htext
      cases htext
    | some field =>
      have hlookup : List.lookup "field" fields = some (.string field) := by
        obtain ⟨json, hjson, htext⟩ := Option.bind_eq_some_iff.mp htext
        cases json <;> cases htext
        exact hjson
      refine ((accepts_parseDirection h).bind fun direction _ => accepts_parseField htargets field direction).congr
        fun key => ?_
      rw [hlookup]
      simp only [Option.some.injEq, Json.string.injEq, exists_and_left, exists_eq_left']
      rfl
  | _ => exact .refuse _ fun key hkey => nomatch hshape hkey

/-- One more item is read, unless its field was read before. -/
theorem accepts_readNext {known : List OrderKey} (h : Directed item) (hnodup : (known.map (·.name)).Nodup) :
    Accepts (fun keys => ∃ key, ItemKey schema entity item key ∧ keys = known ++ [key] ∧ (keys.map (·.name)).Nodup)
      (readNext schema entity known item) := by
  refine ((accepts_parseItem htargets h).bind (Q := fun key keys => keys = known ++ [key] ∧ (keys.map (·.name)).Nodup)
    fun key _ => ?_)
  have hfresh : ((known ++ [key]).map (·.name)).Nodup ↔ ¬ (known.any fun k => k.name = key.name) = true := by
    rw [List.map_append, List.nodup_append]
    simp [hnodup]
  split
  · rename_i htwice
    refine .refuse _ ?_
    rintro _ ⟨rfl, hkeys⟩
    exact hfresh.mp hkeys htwice
  · rename_i hnew
    refine (Accepts.pure _).congr fun keys => (and_iff_left_of_imp ?_).symm
    rintro rfl
    exact hfresh.mpr hnew

/-- Items are read one after another, as long as no field is read twice. -/
theorem accepts_items : ∀ {items : List Json} {known : List OrderKey}, (∀ item ∈ items, Directed item) →
    (known.map (·.name)).Nodup →
    Accepts (fun keys => ∃ new, List.Forall₂ (ItemKey schema entity) items new ∧ keys = known ++ new ∧
      (keys.map (·.name)).Nodup) (items.foldlM (readNext schema entity) known)
  | [], known, _, hnodup => by
    refine (Accepts.pure known).congr fun keys => ⟨?_, ?_⟩
    · rintro rfl
      exact ⟨[], .nil, (List.append_nil _).symm, hnodup⟩
    · rintro ⟨_, ⟨⟩, rfl, _⟩
      exact List.append_nil known
  | item :: items, known, hdirected, hnodup => by
    obtain ⟨hitem, hitems⟩ := List.forall_mem_cons.mp hdirected
    rw [List.foldlM_cons]
    have hlater : ∀ keys, (∃ key, ItemKey schema entity item key ∧ keys = known ++ [key] ∧ (keys.map (·.name)).Nodup) →
        Accepts (fun keys' => ∃ new, List.Forall₂ (ItemKey schema entity) items new ∧ keys' = keys ++ new ∧
          (keys'.map (·.name)).Nodup) (items.foldlM (readNext schema entity) keys) :=
      fun keys ⟨_, _, _, hkeys⟩ => accepts_items hitems hkeys
    refine ((accepts_readNext htargets hitem hnodup).bind hlater).congr fun keys => ?_
    constructor
    · rintro ⟨_, ⟨key, hkey, rfl, _⟩, new, hnew, rfl, hkeys⟩
      exact ⟨key :: new, .cons hkey hnew, by rw [List.append_assoc, List.singleton_append], hkeys⟩
    · rintro ⟨_, hnew, rfl, hkeys⟩
      obtain ⟨key, rest, hkey, hrest, rfl⟩ := List.forall₂_cons_left_iff.mp hnew
      have happend : known ++ key :: rest = (known ++ [key]) ++ rest := by
        rw [List.append_assoc, List.singleton_append]
      rw [happend, List.map_append] at hkeys
      refine ⟨_, ⟨key, hkey, rfl, (List.nodup_append.mp hkeys).1⟩, rest, hrest, happend, ?_⟩
      rwa [happend, List.map_append]

/-- An order is read as the keys it writes. -/
theorem accepts_parse (h : AllDirected raw) :
    Accepts (fun order => ∃ keys, Written schema entity raw keys ∧ order = ofKeys keys) (parse schema entity raw) := by
  -- what the items are read as is what is written, up to the identifier
  have hitems : ∀ {items : List Json}, itemsOf raw = .ok items →
      (∀ keys, (List.Forall₂ (ItemKey schema entity) items keys ∧ (keys.map (·.name)).Nodup) ↔
        Written schema entity raw keys) →
      Accepts (fun order => ∃ keys, Written schema entity raw keys ∧ order = ofKeys keys)
        (parse schema entity raw) := by
    intro items hitems hwritten
    have hparse : parse schema entity raw =
        (itemsOf raw >>= fun items => items.foldlM (readNext schema entity) [] >>= fun keys => .ok (ofKeys keys)) := rfl
    have hnone : (([] : List OrderKey).map (·.name)).Nodup := List.nodup_nil
    rw [hparse, hitems, Result.ok_bind]
    refine ((accepts_items htargets (h items hitems) hnone).bind fun keys _ => Accepts.pure (ofKeys keys)).congr
      fun order => exists_congr fun keys => and_congr_left fun _ => ?_
    simp [← hwritten]
  cases raw with
  | null =>
    refine hitems rfl fun keys => ⟨?_, ?_⟩
    · rintro ⟨⟨⟩, _⟩
      exact .null
    · rintro ⟨⟩
      exact ⟨.nil, .nil⟩
  | object fields =>
    refine hitems rfl fun keys => ⟨?_, ?_⟩
    · rintro ⟨hkeys, _⟩
      obtain ⟨key, _, hkey, hnil, rfl⟩ := List.forall₂_cons_left_iff.mp hkeys
      cases hnil
      exact .item hkey
    · intro hwritten
      cases hwritten with
      | item hkey => exact ⟨.cons hkey .nil, List.pairwise_singleton _ _⟩
  | array items =>
    refine hitems rfl fun keys => ⟨fun ⟨hkeys, hnodup⟩ => .items hkeys hnodup, fun hwritten => ?_⟩
    cases hwritten with
    | items hkeys hnodup => exact ⟨hkeys, hnodup⟩
  | _ => exact .refuse _ (by rintro _ ⟨_, ⟨⟩, _⟩)

omit htargets in
/-- Whatever is read is made of keys. -/
theorem ofKeys_of_parse {order : Order} (h : parse schema entity raw = .ok order) : ∃ keys, order = ofKeys keys := by
  obtain ⟨items, _, h⟩ := Result.bind_eq_ok.mp h
  obtain ⟨keys, _, h⟩ := Result.bind_eq_ok.mp h
  exact ⟨keys, (Except.ok.inj h).symm⟩

end Items

/-! ## Telling nodes apart -/

section Comparing

variable {order : Order} {graph : Graph} {f g : OrderKey → Value}

/-- Nodes compare equal only if they do so under every key. -/
theorem compare_of_compareKeys : ∀ {keys : List OrderKey},
    compareKeys (keys.map (·.direction)) (keys.map f) (keys.map g) = .eq →
      ∀ key ∈ keys, key.direction.compare (f key) (g key) = .eq
  | [], _ => nofun
  | key :: keys, h => by
    rw [List.map_cons, List.map_cons, List.map_cons, compareKeys, Ordering.then_eq_eq] at h
    exact List.forall_mem_cons.mpr ⟨h.1, compare_of_compareKeys h.2⟩

/-- No two nodes compare equal under an order with the identifier among its keys. -/
theorem Identifies.compareKeys_ne (h : order.Identifies) (hg : graph.WellFormed) {a b : String} (ha : graph.Stored a)
    (hb : graph.Stored b) (hne : a ≠ b) :
    compareKeys order.directions (order.values graph a) (order.values graph b) ≠ .eq := by
  obtain ⟨key, hkey, hpath⟩ := h
  intro heq
  have hequal := compare_of_compareKeys heq key hkey
  have hkind : ∀ text : String, Value.OfKind .string (.string text) := fun _ => .inr rfl
  simp only [hpath, OrderPath.value, Graph.value_id hg ha, Graph.value_id hg hb] at hequal
  exact hne (Value.string.inj ((SortDirection.compare_eq_iff (hkind a) (hkind b)).mp hequal))

end Comparing

/-- A client's order for a type of a built schema is read, all its directions being texts or `null`, exactly when it is
written by the grammar, and with such directions it is otherwise refused as invalid. What is read are the keys of the
items, in order, and behind them the identifier in the direction of the last item, unless it is one of them. Whatever
the directions, the names of the keys are distinct, and no two nodes compare equal. -/
theorem parse_written {decls : List EntityDecl} {schema : Schema} {name : String} {entity : EntityType} {raw : Json}
    (hschema : Schema.build decls = .ok schema) (hentity : schema.entity? name = some entity) :
    ((∃ order, parse schema entity raw = .ok order) ∧ AllDirected raw ↔ ∃ keys, Written schema entity raw keys) ∧
      (AllDirected raw → (¬ ∃ keys, Written schema entity raw keys) →
        ∃ fault, parse schema entity raw = .error (.invalidOrder fault)) ∧
      ∀ order, parse schema entity raw = .ok order →
        (∃ keys, (AllDirected raw → Written schema entity raw keys) ∧
          ((∃ key ∈ keys, key.name = idProperty) → order.keys = keys) ∧
          ((∀ key ∈ keys, key.name ≠ idProperty) → order.keys = keys ++
            [⟨idProperty, .property idProperty, (keys.getLast?.map (·.direction)).getD .ascending, false⟩])) ∧
        order.names.Nodup ∧
        ∀ graph : Graph, graph.Built → ∀ a b, graph.Stored a → graph.Stored b → a ≠ b →
          compareKeys order.directions (order.values graph a) (order.values graph b) ≠ .eq := by
  obtain ⟨_, hflattens⟩ := Schema.flattens_of_build hschema
  have haccepts : AllDirected raw → Accepts (fun order => ∃ keys, Written schema entity raw keys ∧ order = ofKeys keys)
      (parse schema entity raw) := accepts_parse fun _ r hr => hflattens.target hentity hr
  refine ⟨⟨fun ⟨⟨order, horder⟩, hdirected⟩ => ?_, fun ⟨keys, hkeys⟩ => ?_⟩, fun hdirected hnot => ?_,
    fun order horder => ?_⟩
  · obtain ⟨keys, hkeys, _⟩ := ((haccepts hdirected).ok order).mp horder
    exact ⟨keys, hkeys⟩
  · exact ⟨⟨_, ((haccepts hkeys.allDirected).ok _).mpr ⟨keys, hkeys, rfl⟩⟩, hkeys.allDirected⟩
  · cases hresult : parse schema entity raw with
    | ok order =>
      obtain ⟨keys, hkeys, _⟩ := ((haccepts hdirected).ok order).mp hresult
      exact absurd ⟨keys, hkeys⟩ hnot
    | error e =>
      obtain ⟨fault, rfl⟩ := (haccepts hdirected).refused e hresult
      exact ⟨fault, rfl⟩
  · obtain ⟨hproper, hidentifies⟩ := proper_of_parse horder
    have hkeys : ∃ keys, (AllDirected raw → Written schema entity raw keys) ∧ order = ofKeys keys := by
      by_cases hdirected : AllDirected raw
      · obtain ⟨keys, hkeys, hof⟩ := ((haccepts hdirected).ok order).mp horder
        exact ⟨keys, fun _ => hkeys, hof⟩
      · obtain ⟨keys, hof⟩ := ofKeys_of_parse horder
        exact ⟨keys, fun h => absurd h hdirected, hof⟩
    refine ⟨?_, hproper.nodup, fun graph hg a b => hidentifies.compareKeys_ne hg.wellFormed⟩
    obtain ⟨keys, hkeys, rfl⟩ := hkeys
    refine ⟨keys, hkeys, fun hid => ?_, fun hid => ?_⟩
    · rw [ofKeys, if_pos (by simpa using hid)]
    · rw [ofKeys, if_neg (by simpa using hid)]
      rfl

/-- By the name of the author downwards, then by the title. -/
def byAuthor : Json :=
  .array [.object [("direction", .string "DESC"), ("field", .string "author.name")],
    .object [("direction", .null), ("field", .string "title")]]

/-- By the title upwards, and by the title again. -/
def byTitleTwice : Json :=
  .array [.object [("field", .string "title")], .object [("direction", .string "DESC"), ("field", .string "title")]]

theorem parse_written_author : (∃ order, parse Archive.schema Archive.doc byAuthor = .ok order ∧
      order.keys = [⟨"author.name", .related Archive.author "name", .descending, true⟩,
        ⟨"title", .property "title", .ascending, false⟩, ⟨"id", .property "id", .ascending, false⟩] ∧
      ∀ graph : Graph, graph.Built → ∀ a b, graph.Stored a → graph.Stored b → a ≠ b →
        compareKeys order.directions (order.values graph a) (order.values graph b) ≠ .eq) ∧
    ∃ fault, parse Archive.schema Archive.doc byTitleTwice = .error (.invalidOrder fault) := by
  have hdoc : Archive.schema.entity? "Doc" = some Archive.doc := rfl
  have htwice : AllDirected byTitleTwice := by
    rintro _ ⟨⟩
    refine List.forall_mem_cons.mpr ⟨?_, List.forall_mem_singleton.mpr ?_⟩
    · rintro _ ⟨⟩
    · rintro _ ⟨⟩
      exact .inr ⟨_, rfl⟩
  constructor
  · have hread : parse Archive.schema Archive.doc byAuthor =
        .ok ⟨[⟨"author.name", .related Archive.author "name", .descending, true⟩,
          ⟨"title", .property "title", .ascending, false⟩, ⟨"id", .property "id", .ascending, false⟩]⟩ := rfl
    exact ⟨_, hread, rfl, ((parse_written Archive.build_decls hdoc).2.2 _ hread).2.2⟩
  · refine (parse_written Archive.build_decls hdoc).2.1 htwice ?_
    rintro ⟨_, _ | _ | ⟨hkeys, hnodup⟩⟩
    obtain ⟨first, _, hfirst, hrest, rfl⟩ := List.forall₂_cons_left_iff.mp hkeys
    obtain ⟨second, _, hsecond, hnil, rfl⟩ := List.forall₂_cons_left_iff.mp hrest
    have hsame : first.name = second.name := Json.string.inj (Option.some.inj (hfirst.field.symm.trans hsecond.field))
    simp [hsame] at hnodup

/-- Documents have a property with a point in its name. -/
def pointed : List EntityDecl := [.declare "Doc" false [⟨"a.b", .string, false⟩] [] [] []]

/-- A property with a point in its name is no field. A direction that is no text is passed over. -/
theorem parse_pointed : ∃ schema doc, Schema.build pointed = .ok schema ∧ schema.entity? "Doc" = some doc ∧
    doc.property? "a.b" = some ⟨"a.b", .string, false⟩ ∧
    parse schema doc (.object [("field", .string "a.b")]) = .error (.invalidOrder (.notSingle "a" "Doc")) ∧
    ∃ order, parse schema doc (.object [("direction", .int 1), ("field", .string "id")]) = .ok order :=
  ⟨_, _, rfl, rfl, rfl, rfl, _, rfl⟩

end Order
end GraphQuery
