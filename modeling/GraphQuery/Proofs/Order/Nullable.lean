import GraphQuery.Pattern.KnownProperty
import GraphQuery.Proofs.Cursor.Beyond
import GraphQuery.Proofs.Graph.Ledger
import GraphQuery.Proofs.Order.Grammar
import GraphQuery.Proofs.Plan.Names
import GraphQuery.Proofs.Value.Preorder

/-!
# Keys that may read null

The sort key of a property is flagged as nullable when the type's own declaration of the property says so. But the nodes
of the type may be of a type below it, and are inserted by what that type declares. So the flag is to be trusted unless
a type at or below lets a property be null that must not be null in the type itself (`EntityType.Loosened`).

The flag decides whether a node that reads null lies beyond a cursor with a value: without it the condition of the
cursor is not true of the node (`Order.nullable_sound`).
-/

namespace GraphQuery

/-! ## The least that is asked for -/

/-- A value of a type. -/
def PropertyType.sample : PropertyType → Value
  | id | string => .string ""
  | int | float => .int 0
  | boolean => .bool false
  | timestamp => .timestamp 0

namespace EntityType

variable {entity : EntityType} {name : String} {value : Value}

/-- Values for the properties that must not be null. -/
def required (entity : EntityType) : List (String × Value) :=
  ((entity.properties.filterMap fun p => entity.property? p.name).filter fun p => !p.nullable).map fun p =>
    (p.name, p.type.sample)

theorem mem_required : (name, value) ∈ entity.required ↔
    ∃ property, entity.property? name = some property ∧ property.nullable = false ∧ value = property.type.sample := by
  simp only [required, List.mem_map, List.mem_filter, List.mem_filterMap, Bool.not_eq_true', Prod.mk.injEq]
  constructor
  · rintro ⟨property, ⟨⟨declared, _, hproperty⟩, hrequired⟩, rfl, rfl⟩
    rw [property?_name hproperty]
    exact ⟨property, hproperty, hrequired, rfl⟩
  · rintro ⟨property, hproperty, hrequired, rfl⟩
    have hname := property?_name hproperty
    refine ⟨property, ⟨⟨property, List.mem_of_find?_eq_some hproperty, ?_⟩, hrequired⟩, hname, rfl⟩
    rw [hname, hproperty]

/-- Values for the properties that must not be null are enough to insert a node. -/
theorem insert_required (graph : Graph) (entity : EntityType) (id : String) :
    graph.insert entity id entity.required = .ok (graph.addNode id entity.labels entity.required) := by
  have hchecked : ∀ entry ∈ entity.required, Graph.checkProperty entity entry.1 entry.2 = .ok () := by
    rintro ⟨name, value⟩ hentry
    obtain ⟨property, hproperty, _, rfl⟩ := mem_required.mp hentry
    refine Graph.checkProperty_eq_ok.mpr ⟨property, hproperty, ?_, ?_⟩ <;> cases property.type <;> first | rfl | nofun
  exact Result.bind_eq_ok.mpr ⟨(), Result.forM_eq_ok.mpr hchecked, rfl⟩

/-- A property must not be null in a type, but may be in a type at or below it. -/
def Loosened (schema : Schema) (entity : EntityType) (name : String) : Prop :=
  ∃ lower own shared, schema.entity? lower.name = some lower ∧ lower.isSubtypeOf entity.name = true ∧
    lower.property? name = some own ∧ own.nullable = true ∧ entity.property? name = some shared ∧
    shared.nullable = false

end EntityType

/-- A type has a property under every name under which a type above it has one. -/
theorem Schema.WellFormed.inherits {decls : List EntityDecl} {schema : Schema} (h : schema.WellFormed decls)
    {lower entity : EntityType} {shared : PropertyDef} {key : String}
    (hlower : schema.entity? lower.name = some lower) (hentity : schema.entity? entity.name = some entity)
    (hbelow : lower.isSubtypeOf entity.name = true) (hshared : entity.property? key = some shared) :
    ∃ own, lower.property? key = some own := by
  obtain ⟨hname, decl, hdecl, hup, hmem⟩ := (h.properties _ _ hentity).source key shared hshared
  have habove : Relation.ReflTransGen (Extends decls) lower.name entity.name := by
    rw [EntityType.isSubtypeOf, Bool.or_eq_true, decide_eq_true_eq, List.contains_iff_mem] at hbelow
    rcases hbelow with heq | hmem
    · exact heq ▸ .refl
    · exact ((h.ancestors _ _ hlower _).mp hmem).to_reflTransGen
  obtain ⟨own, hown⟩ := (h.properties _ _ hlower).found decl hdecl (habove.trans hup) shared hmem
  exact ⟨own, hname ▸ hown⟩

namespace Order

/-! ## Flags -/

section Flags

variable {decls : List EntityDecl} {schema : Schema} {entity : EntityType} {key : OrderKey} {order : Order} {raw : Json}

theorem fieldKey_of_parseItem (htargets : ∀ key r, entity.relationship? key = some r →
      ∃ target, schema.entity r.target = .ok target) {item : Json} (h : parseItem schema entity item = .ok key) :
    ∃ field direction, FieldKey schema entity field direction key := by
  unfold parseItem at h
  split at h
  · cases h
  · split at h
    · cases h
    · rename_i field _
      obtain ⟨direction, _, h⟩ := Result.bind_eq_ok.mp h
      exact ⟨field, direction, ((accepts_parseField htargets field direction).ok key).mp h⟩

/-- Every key of an order that was read is that of a field. -/
theorem fieldKey_of_parse (htargets : ∀ key r, entity.relationship? key = some r →
      ∃ target, schema.entity r.target = .ok target)
    (hidentifier : entity.property? idProperty = some ⟨idProperty, .id, false⟩)
    (h : parse schema entity raw = .ok order) :
    ∀ key ∈ order.keys, ∃ field direction, FieldKey schema entity field direction key := by
  obtain ⟨items, _, h⟩ := Result.bind_eq_ok.mp h
  obtain ⟨keys, hkeys, h⟩ := Result.bind_eq_ok.mp h
  cases h
  have hfields : ∀ key ∈ keys, ∃ field direction, FieldKey schema entity field direction key := by
    refine Result.foldlM_induct (P := fun keys => ∀ key ∈ keys, ∃ field direction,
      FieldKey schema entity field direction key) hkeys nofun fun known item known' _ hknown hstep => ?_
    obtain ⟨key, hkey, hstep⟩ := Result.bind_eq_ok.mp hstep
    split at hstep
    · cases hstep
    · cases hstep
      exact List.forall_mem_append.mpr ⟨hknown, List.forall_mem_singleton.mpr (fieldKey_of_parseItem htargets hkey)⟩
  intro key hkey
  unfold ofKeys at hkey
  split at hkey
  · exact hfields key hkey
  · rcases List.mem_append.mp hkey with hkey | hkey
    · exact hfields key hkey
    · obtain rfl := List.mem_singleton.mp hkey
      exact ⟨idProperty, _, FieldKey.property (by decide) hidentifier⟩

/-- A key that reads null in a node is flagged, unless a type below loosens its property. -/
theorem nullable_of_value {ledger : Graph.Ledger} {id field : String} {direction : SortDirection}
    (hwell : schema.WellFormed decls) (hentity : schema.entity? entity.name = some entity)
    (hkey : FieldKey schema entity field direction key) (hbalanced : ledger.Balanced schema)
    (hcomplete : ledger.Complete schema) (hlabel : ledger.graph.hasLabel id entity.name = true)
    (hnull : key.path.value ledger.graph id = .null)
    (htight : ∀ property, key.path = .property property → ¬ entity.Loosened schema property) :
    key.nullable = true := by
  cases hkey with
  | related => rfl
  | @property shared _ hshared =>
    obtain ⟨node, hnode⟩ := (Graph.stored_of_hasLabel hlabel).node
    obtain ⟨insertion, hrecorded⟩ := hbalanced.recorded id node hnode
    obtain ⟨lower, hstores⟩ := hbalanced.stored id insertion hrecorded
    have hbelow := hstores.hasLabel_iff.mp hlabel
    have hlower : schema.entity? lower.name = some lower :=
      hwell.named.stands (Schema.entity_eq_ok.mpr hstores.admitted.type)
    obtain ⟨own, hown⟩ := hwell.inherits hlower hentity hbelow hshared
    by_contra hflag
    refine htight field rfl ⟨lower, own, shared, hlower, hbelow, hown, ?_, hshared, eq_false_of_ne_true hflag⟩
    by_contra hrequired
    exact hcomplete id insertion lower hrecorded hstores.admitted.type field own hown
      (eq_false_of_ne_true hrequired) hnull

/-- A node of a type that loosens a property may be without it. -/
theorem exists_value_null {name : String} (hwell : schema.WellFormed decls) (hmade : ∀ decl ∈ decls, decl.Made)
    (h : entity.Loosened schema name) : ∃ calls, (Graph.Ledger.run schema calls).Complete schema ∧
      ∃ id, (Graph.Ledger.run schema calls).graph.hasLabel id entity.name = true ∧
        (Graph.Ledger.run schema calls).graph.value id name = .null := by
  obtain ⟨lower, own, shared, hlower, hbelow, hown, hnullable, _⟩ := h
  let calls : List Graph.Change := [.insert lower.name "" lower.required]
  have hrun : Graph.Ledger.run schema calls =
      ⟨Graph.empty.addNode "" lower.labels lower.required, [("", ⟨lower.name, lower.required⟩)]⟩ :=
    Graph.Ledger.run_insert hlower (EntityType.insert_required ..)
  have hstores : (Graph.Ledger.run schema calls).Stores schema "" ⟨lower.name, lower.required⟩ lower := by
    have hrecorded : List.lookup "" (Graph.Ledger.run schema calls).insertions =
        some ⟨lower.name, lower.required⟩ := by
      rw [hrun]
      rfl
    obtain ⟨entity, hstores⟩ := (Graph.Ledger.balanced_run schema calls).stored "" _ hrecorded
    cases hlower.symm.trans hstores.admitted.type
    exact hstores
  have hidentifier := hwell.identifier hmade hlower
  refine ⟨calls, ?_, "", hstores.hasLabel_iff.mpr hbelow, hstores.value_eq_null ?_ fun value hvalue => ?_⟩
  · intro id insertion entity hrecorded hentity other property hproperty hrequired
    rw [hrun, Table.lookup_cons] at hrecorded
    split at hrecorded
    case isFalse => cases hrecorded
    case isTrue hid =>
      cases hrecorded
      cases hlower.symm.trans hentity
      rw [hid]
      exact (hstores.value_ne_null_iff hproperty hrequired).mpr
        (.inr ⟨_, EntityType.mem_required.mpr ⟨property, hproperty, hrequired, rfl⟩⟩)
  · rintro rfl
    cases hidentifier.symm.trans hown
    cases hnullable
  · obtain ⟨property, hproperty, hrequired, _⟩ := EntityType.mem_required.mp hvalue
    cases hown.symm.trans hproperty
    rw [hnullable] at hrequired
    cases hrequired

end Flags

/-! ## Cursors -/

section Cursors

variable {order : Order} {key : OrderKey} {bound value : Value} {values : Table Value} {forwards : Bool}
  {read : OrderKey → Value}

theorem compare_of_atTruth (h : OrderKey.atTruth bound value = some true) :
    value.compare bound = .eq ∧ value.isNull = bound.isNull := by
  unfold OrderKey.atTruth at h
  split at h
  · rename_i hbound
    obtain rfl := Value.isNull_eq_true.mp hbound
    obtain rfl := Value.isNull_eq_true.mp (Option.some.inj h)
    exact ⟨rfl, rfl⟩
  · rename_i hbound
    unfold CompareOp.truth at h
    split at h
    · cases h
    · rename_i hnulls
      rw [Bool.or_eq_true, not_or] at hnulls
      rw [if_pos (by simp), Option.some.injEq] at h
      exact ⟨of_decide_eq_true h, by rw [eq_false_of_ne_true hnulls.1, eq_false_of_ne_true hnulls.2]⟩

/-- What lies at a bound does not lie past it. -/
theorem pastTruth_of_atTruth (h : OrderKey.atTruth bound value = some true) (key : OrderKey) (descending : Bool) :
    key.pastTruth bound descending value ≠ some true := by
  obtain ⟨hequal, hnull⟩ := compare_of_atTruth h
  unfold OrderKey.pastTruth
  cases hbound : bound.isNull with
  | true => simp [hnull, hbound]
  | false =>
    have hpast : CompareOp.truth (if descending then .lt else .gt) value bound ≠ some true := by
      cases descending <;> simp [CompareOp.truth, hnull, hbound, hequal, CompareOp.holds]
    simp only [Bool.false_eq_true, if_false]
    split
    · rw [ne_eq, Truth.or_eq_true, hnull, hbound, not_or]
      exact ⟨hpast, by simp⟩
    · exact hpast

/-- A node that reads null under a key where a cursor has a value, and lies at the cursor under the keys before it. The
key is run through upwards, so nulls come last. -/
structure Trails (order : Order) (values : Table Value) (forwards : Bool) (read : OrderKey → Value) (key : OrderKey) :
    Prop where
  null : read key = .null
  bound : boundOf values key ≠ .null
  upwards : key.along forwards = .ascending
  tied : ∃ before rest, order.keys = before ++ key :: rest ∧
    ∀ other ∈ before, OrderKey.atTruth (boundOf values other) (read other) = some true

namespace Trails

/-- The order puts such a node beyond the cursor. -/
theorem compareKeys_eq (h : order.Trails values forwards read key) :
    compareKeys (order.keys.map (·.along forwards)) (order.keys.map (boundOf values)) (order.keys.map read) = .lt := by
  obtain ⟨before, rest, hkeys, hties⟩ := h.tied
  rw [hkeys]
  clear hkeys
  induction before with
  | nil =>
    have hbound : (boundOf values key).isNull = false := by
      rw [← Bool.not_eq_true, Value.isNull_eq_true]
      exact h.bound
    simp only [List.nil_append, List.map_cons, compareKeys, h.upwards, h.null, SortDirection.compare,
      Value.compare_null_right hbound]
    rfl
  | cons other before ih =>
    obtain ⟨hother, hties⟩ := List.forall_mem_cons.mp hties
    obtain ⟨hequal, _⟩ := compare_of_atTruth hother
    have htie : (other.along forwards).compare (boundOf values other) (read other) = .eq := by
      cases other.along forwards with
      | ascending => rw [SortDirection.compare, Value.compare_swap, hequal, Ordering.swap_eq]
      | descending => exact hequal
    simp only [List.cons_append, List.map_cons, compareKeys, htie, Ordering.then]
    exact ih hties

/-- It lies beyond the values of the cursor just if the key is flagged. -/
theorem beyondKeys_iff (h : order.Trails values forwards read key) :
    beyondKeys values forwards read order.keys = some true ↔ key.nullable = true := by
  obtain ⟨before, rest, hkeys, hties⟩ := h.tied
  rw [hkeys]
  clear hkeys
  have hbound : (boundOf values key).isNull = false := by
    rw [← Bool.not_eq_true, Value.isNull_eq_true]
    exact h.bound
  have hupwards : key.descends forwards = false := by
    rw [OrderKey.descends_eq, h.upwards]
    rfl
  have hpast : key.pastTruth (boundOf values key) (key.descends forwards) (read key) = some true ↔
      key.nullable = true := by
    rw [OrderKey.pastTruth, hupwards, h.null, if_neg (by simp [hbound])]
    cases key.nullable <;> simp [CompareOp.truth, Value.isNull, Truth.or]
  have hat : OrderKey.atTruth (boundOf values key) (read key) ≠ some true := by
    rw [OrderKey.atTruth, h.null, if_neg (by simp [hbound])]
    intro htie
    cases htie
  induction before with
  | nil =>
    cases rest with
    | nil => exact hpast
    | cons next rest =>
      rw [List.nil_append, beyondKeys, Truth.or_eq_true, Truth.and_eq_true, hpast]
      · exact or_iff_left fun hboth => hat hboth.1
      · exact List.cons_ne_nil next rest
  | cons other before ih =>
    obtain ⟨hother, hties⟩ := List.forall_mem_cons.mp hties
    have hrest : beyondKeys values forwards read (before ++ key :: rest) = some true ↔ key.nullable = true := ih hties
    rw [List.cons_append, beyondKeys, Truth.or_eq_true, Truth.and_eq_true, hrest]
    · simp [hother, pastTruth_of_atTruth hother]
    · simp

end Trails

end Cursors

/-- The flag of a key of an order that was read is to be trusted just if no type at or below loosens the property: then,
and only then, every key that reads null in some node with the label of the type, of a graph whose nodes have what must
not be null where they were inserted, is flagged. And the flag is what lets such a node pass: where the order puts it
beyond a cursor because it reads null under a key, the condition of the cursor is true of it just if the key is
flagged. -/
theorem nullable_sound [PropertyTable] {decls : List EntityDecl} {schema : Schema} {name : String} {entity : EntityType}
    {raw : Json} {order : Order} (hmade : ∀ decl ∈ decls, decl.Made) (hschema : Schema.build decls = .ok schema)
    (hentity : schema.entity? name = some entity) (hparse : parse schema entity raw = .ok order) :
    ∀ key ∈ order.keys,
      ((∀ calls, (Graph.Ledger.run schema calls).Complete schema →
          ∀ id, (Graph.Ledger.run schema calls).graph.hasLabel id entity.name = true →
            key.path.value (Graph.Ledger.run schema calls).graph id = .null → key.nullable = true) ↔
        ∀ property, key.path = .property property → ¬ entity.Loosened schema property) ∧
      ∀ (graph : Graph) (id : String) (values : Table Value) (forwards : Bool), graph.Stored id →
        order.Trails values forwards (fun key => key.path.value graph id) key →
        compareKeys (order.keys.map (·.along forwards)) (order.keys.map (boundOf values)) (order.values graph id) =
          .lt ∧
        ∀ (root : Block) (var : String) (scope : Scope) (b b' : Bindings),
          (order.seek values forwards (fun key => key.path.operand var) b).2.Grows b' →
            ∃ truth, (graph.evaluation ⟨root, b'.params⟩).truth
                (order.seek values forwards (fun key => key.path.operand var) b).1 ((var, id) :: scope) = .ok truth ∧
              (truth = some true ↔ key.nullable = true) := by
  obtain ⟨table, htable, hflattens⟩ := Schema.gather_of_build hschema
  have hwell := hflattens.wellFormed htable
  have hstands : schema.entity? entity.name = some entity := hwell.named.stands (Schema.entity_eq_ok.mpr hentity)
  intro key hkey
  obtain ⟨field, direction, hfield⟩ :=
    fieldKey_of_parse (fun _ r hr => hflattens.target hentity hr) (hwell.identifier hmade hentity) hparse key hkey
  refine ⟨⟨fun hsound property hpath hloosened => ?_, fun htight calls hcomplete id hlabel hnull => ?_⟩,
    fun graph id values forwards hstored htrails => ⟨htrails.compareKeys_eq, fun root var scope b b' hlater => ?_⟩⟩
  · obtain ⟨calls, hcomplete, id, hlabel, hnull⟩ := exists_value_null hwell hmade hloosened
    have hflag : key.nullable = true := hsound calls hcomplete id hlabel (by rw [hpath]; exact hnull)
    obtain ⟨_, _, shared, _, _, _, _, hshared, hrequired⟩ := hloosened
    cases hfield with
    | related => cases hpath
    | property _ hdeclared =>
      cases hpath
      cases hdeclared.symm.trans hshared
      rw [hrequired] at hflag
      cases hflag
  · exact nullable_of_value hwell hstands hfield (Graph.Ledger.balanced_run schema calls) hcomplete hlabel hnull htight
  · have hknows : (graph.evaluation ⟨root, b'.params⟩).Knows
        (order.seek values forwards (fun key => key.path.operand var) b).2 :=
      Evaluation.Knows.of_prefix (Graph.knows_of_params rfl) hlater.values
    have hreads : ∀ key ∈ order.keys, (graph.evaluation ⟨root, b'.params⟩).operand ((var, id) :: scope)
        (key.path.operand var) = .ok (key.path.value graph id) := fun key _ => Evaluation.operand_eq hstored key.path
    obtain ⟨htruth, _⟩ := Evaluation.truth_seekKeys hreads hknows
    exact ⟨_, htruth, htrails.beyondKeys_iff⟩

/-- Items have a rank. -/
def item : EntityType := ⟨"Item", false, [⟨"id", .id, false⟩, ⟨"rank", .int, false⟩], [], [], []⟩

/-- Drafts are items that may be without a rank. -/
def draft : EntityType := ⟨"Draft", false, [⟨"id", .id, false⟩, ⟨"rank", .int, true⟩], [], ["Item"], []⟩

/-- Items and drafts. -/
def desk : Schema := ⟨[("Draft", draft), ("Item", item)]⟩

/-- An item with a rank, and a draft without one. -/
def deskGraph : Graph := (Graph.empty.addNode "a" item.labels [("rank", .int 1)]).addNode "b" draft.labels []

/-- By the rank of an item. -/
def byItemRank : Order :=
  ⟨[⟨"rank", .property "rank", .ascending, false⟩, ⟨"id", .property "id", .ascending, false⟩]⟩

/-- The draft comes after the item, and the cursor of the item passes it over. -/
theorem nullable_sound_draft :
    let rank : OrderKey := ⟨"rank", .property "rank", .ascending, false⟩
    let values : Table Value := [("id", .string "a"), ("rank", .int 1)]
    let sought := byItemRank.seek values true (fun key => key.path.operand "n0") .empty
    parse desk item (.object [("field", .string "rank")]) = .ok byItemRank ∧
      (¬ ∀ calls, (Graph.Ledger.run desk calls).Complete desk →
        ∀ id, (Graph.Ledger.run desk calls).graph.hasLabel id item.name = true →
          rank.path.value (Graph.Ledger.run desk calls).graph id = .null → rank.nullable = true) ∧
      compareKeys (byItemRank.keys.map (·.along true)) (byItemRank.keys.map (boundOf values))
        (byItemRank.values deskGraph "b") = .lt ∧
      ∃ truth, (deskGraph.evaluation ⟨default, sought.2.params⟩).truth sought.1 [("n0", "b")] = .ok truth ∧
        truth ≠ some true := by
  intro rank values sought
  have hmade : ∀ decl ∈ [EntityDecl.declare "Item" false [⟨"rank", .int, false⟩] [] [] [],
      .declare "Draft" false [⟨"rank", .int, true⟩] [] ["Item"] []], decl.Made := by
    simp only [List.forall_mem_cons]
    exact ⟨⟨_, _, _, _, _, _, rfl⟩, ⟨_, _, _, _, _, _, rfl⟩, nofun⟩
  have hschema : Schema.build [.declare "Item" false [⟨"rank", .int, false⟩] [] [] [],
      .declare "Draft" false [⟨"rank", .int, true⟩] [] ["Item"] []] = .ok desk := rfl
  have hparse : parse desk item (.object [("field", .string "rank")]) = .ok byItemRank := rfl
  have hitem : desk.entity? "Item" = some item := rfl
  obtain ⟨hflag, hseek⟩ := nullable_sound hmade hschema hitem hparse rank List.mem_cons_self
  have htrails : byItemRank.Trails values true (fun key => key.path.value deskGraph "b") rank :=
    ⟨rfl, nofun, rfl, [], _, rfl, nofun⟩
  obtain ⟨hafter, htruth⟩ := hseek deskGraph "b" values true rfl htrails
  obtain ⟨truth, hevaluates, htrue⟩ := htruth default "n0" [] .empty _ (.refl _)
  have hloosened : item.Loosened desk "rank" := ⟨draft, _, _, rfl, rfl, rfl, rfl, rfl, rfl⟩
  exact ⟨hparse, fun hsound => hflag.mp hsound "rank" rfl hloosened, hafter, truth, hevaluates,
    fun h => nomatch htrue.mp h⟩

end Order
end GraphQuery
