import GraphQuery.Proofs.Cursor.RoundTrip
import GraphQuery.Proofs.Cursor.Seek
import GraphQuery.Proofs.Graph.Selection
import Mathlib.Data.List.Nodup

/-!
# Cursors and the order

When the values of every key are null or of one kind and only nullable keys read nulls, lying beyond a cursor is coming
after it in the order, or before it: key by key (`OrderKey.pastTruth_eq_true`), for all keys
(`Order.beyondKeys_eq_true`), and for the written cursor of a node (`Order.beyondCursor_encode`).
-/

namespace GraphQuery

/-! ## Comparisons of one kind -/

namespace Value.OfKind

variable {kind : Kind} {a b : Value}

/-- Between values of one kind that are not null a comparison says what the order says. -/
theorem truth_eq (op : CompareOp) (ha : OfKind kind a) (hb : OfKind kind b) (hna : a.isNull = false)
    (hnb : b.isNull = false) : op.truth a b = some (op.holds (a.compare b)) := by
  have hcomparable : a.comparable b = true := by
    rcases ha.cases with rfl | ha
    · cases hna
    · rcases hb.cases with rfl | hb
      · cases hnb
      · cases kind <;> obtain ⟨_, rfl⟩ := ha <;> obtain ⟨_, rfl⟩ := hb <;> rfl
  simp [CompareOp.truth, hna, hnb, hcomparable]

theorem exact (h : OfKind kind a) : a.Exact := by
  rintro x rfl
  rcases h with h | h <;> cases h

end Value.OfKind

/-! ## One key -/

namespace OrderKey

/-- The direction of a key, seen in the direction of seeking. -/
def along (key : OrderKey) (forwards : Bool) : SortDirection :=
  if forwards then key.direction else key.direction.reverse

theorem descends_eq (key : OrderKey) (forwards : Bool) :
    key.descends forwards = decide (key.along forwards = .descending) := by
  unfold descends along
  cases key.direction <;> cases forwards <;> rfl

variable {key : OrderKey} {kind : Value.Kind} {bound value : Value} {forwards : Bool}

/-- A value lies past a bound when it comes after it. -/
theorem pastTruth_eq_true (hb : Value.OfKind kind bound) (hv : Value.OfKind kind value)
    (hnull : value = .null → key.nullable = true) :
    key.pastTruth bound (key.descends forwards) value = some true ↔ (key.along forwards).compare bound value = .lt := by
  rw [descends_eq, pastTruth]
  cases hbound : bound.isNull with
  | true =>
    obtain rfl := Value.isNull_eq_true.mp hbound
    cases hvalue : value.isNull with
    | true =>
      obtain rfl := Value.isNull_eq_true.mp hvalue
      cases key.along forwards <;> simp [SortDirection.compare]
    | false =>
      cases key.along forwards with
      | ascending => simp [SortDirection.compare, Value.compare_null_left hvalue]
      | descending => simp [SortDirection.compare, Value.compare_null_right hvalue]
  | false =>
    cases hvalue : value.isNull with
    | true =>
      obtain rfl := Value.isNull_eq_true.mp hvalue
      have hpast : ∀ op : CompareOp, op.truth .null bound = none := fun _ => rfl
      cases key.along forwards with
      | ascending => simp [hpast, hnull rfl, SortDirection.compare, Value.compare_null_right hbound, Truth.or]
      | descending => simp [hpast, SortDirection.compare, Value.compare_null_left hbound]
    | false =>
      have hpast : ∀ op : CompareOp, op.truth value bound = some (op.holds (value.compare bound)) :=
        fun op => hv.truth_eq op hb hvalue hbound
      cases key.along forwards with
      | ascending =>
        have hswap : bound.compare value = (value.compare bound).swap := hv.compare_swap hb
        cases key.nullable <;> cases hc : value.compare bound <;>
          simp [hpast, hc, hswap, SortDirection.compare, CompareOp.holds]
      | descending =>
        cases hc : value.compare bound <;> simp [hpast, hc, SortDirection.compare, CompareOp.holds]

/-- A value lies at a bound when it is the bound. -/
theorem atTruth_eq_true (hb : Value.OfKind kind bound) (hv : Value.OfKind kind value) :
    atTruth bound value = some true ↔ bound = value := by
  rw [atTruth]
  cases hbound : bound.isNull with
  | true =>
    obtain rfl := Value.isNull_eq_true.mp hbound
    cases value <;> simp [Value.isNull]
  | false =>
    cases hvalue : value.isNull with
    | true =>
      obtain rfl := Value.isNull_eq_true.mp hvalue
      simp only [Bool.false_eq_true, if_false]
      constructor
      · intro h
        cases h
      · intro h
        rw [h] at hbound
        cases hbound
    | false =>
      have hat : CompareOp.eq.truth value bound = some (CompareOp.eq.holds (value.compare bound)) :=
        hv.truth_eq .eq hb hvalue hbound
      simp [hat, CompareOp.holds, hv.compare_eq_iff hb, eq_comm]

end OrderKey

/-! ## All keys -/

namespace Order

variable {values : Table Value} {forwards : Bool} {read : OrderKey → Value}

/-- What is read lies beyond the values of a cursor when it comes after them. -/
theorem beyondKeys_eq_true : ∀ {keys : List OrderKey}, keys ≠ [] →
    (∀ key ∈ keys, ∃ kind, Value.OfKind kind (boundOf values key) ∧ Value.OfKind kind (read key)) →
    (∀ key ∈ keys, read key = .null → key.nullable = true) →
    (beyondKeys values forwards read keys = some true ↔
      compareKeys (keys.map (·.along forwards)) (keys.map (boundOf values)) (keys.map read) = .lt)
  | [], hne, _, _ => absurd rfl hne
  | [key], _, hkinds, hnulls => by
    obtain ⟨kind, hbound, hvalue⟩ := hkinds key List.mem_cons_self
    rw [beyondKeys, OrderKey.pastTruth_eq_true hbound hvalue (hnulls key List.mem_cons_self)]
    simp only [List.map_cons, List.map_nil, compareKeys, Ordering.then_eq]
  | key :: next :: rest, _, hkinds, hnulls => by
    obtain ⟨⟨kind, hbound, hvalue⟩, hkinds⟩ := List.forall_mem_cons.mp hkinds
    obtain ⟨hnull, hnulls⟩ := List.forall_mem_cons.mp hnulls
    have ih : beyondKeys values forwards read (next :: rest) = some true ↔ compareKeys
        ((next :: rest).map (·.along forwards)) ((next :: rest).map (boundOf values)) ((next :: rest).map read) = .lt :=
      beyondKeys_eq_true (List.cons_ne_nil next rest) hkinds hnulls
    show _ ↔ ((key.along forwards).compare (boundOf values key) (read key)).then _ = .lt
    rw [beyondKeys, Truth.or_eq_true, Truth.and_eq_true, ih, OrderKey.pastTruth_eq_true hbound hvalue hnull,
      OrderKey.atTruth_eq_true hbound hvalue, Ordering.then_eq_lt, SortDirection.compare_eq_iff hbound hvalue]
    exact List.cons_ne_nil next rest

variable {order : Order} {graph : Graph} {ids : List String} {a b : String} {observed : Table Value}

/-- Seen backwards, every key runs the other way. -/
theorem map_along_backwards (order : Order) :
    (order.keys.map fun key => key.along false) = order.directions.map (·.reverse) := by
  rw [directions, List.map_map]
  rfl

/-- Among distinct names a name leads to the key that has it. -/
theorem pathNamed_name (hn : order.names.Nodup) {key : OrderKey} (hkey : key ∈ order.keys) :
    order.pathNamed key.name = key.path := by
  have hfind : order.keys.find? (fun other => other.name = key.name) = some key := by
    cases hf : order.keys.find? fun other => other.name = key.name with
    | none => exact absurd (decide_eq_true rfl) (List.find?_eq_none.mp hf key hkey)
    | some other =>
      have hname := List.find?_some (p := fun other : OrderKey => decide (other.name = key.name)) hf
      rw [List.inj_on_of_nodup_map hn (List.mem_of_find?_eq_some hf) hkey (of_decide_eq_true hname)]
  rw [pathNamed, hfind]
  rfl

/-- Lying beyond the cursor of a node is coming after the node, or before it. -/
theorem beyondCursor_encode (hn : order.names.Nodup) (hne : order.keys ≠ []) (hkinds : order.Comparable graph ids)
    (ha : a ∈ ids) (hb : b ∈ ids) (hobserved : ∀ key ∈ order.keys,
      List.lookup key.name observed = some (key.path.value graph a))
    (hnulls : ∀ key ∈ order.keys, key.path.value graph b = .null → key.nullable = true) :
    order.beyondCursor (some (Cursor.encode order observed)) forwards
        (fun key => (order.pathNamed key.name).value graph b) = some true ↔
      if forwards then order.before graph a b else order.before graph b a := by
  have hexact : ∀ name ∈ order.names, ((List.lookup name observed).getD .null).Exact := by
    intro name hname
    obtain ⟨key, hkey, rfl⟩ := List.mem_map.mp hname
    obtain ⟨kind, hkind⟩ := hkinds key hkey
    rw [hobserved key hkey]
    exact (hkind a ha).exact
  have hbound : ∀ key ∈ order.keys, boundOf (Cursor.valuesOf order observed) key = key.path.value graph a := by
    intro key hkey
    have hname : key.name ∈ order.names := List.mem_map.mpr ⟨key, hkey, rfl⟩
    rw [boundOf, Cursor.lookup_valuesOf hn, if_pos hname, hobserved key hkey]
    rfl
  have hread : ∀ key ∈ order.keys, (order.pathNamed key.name).value graph b = key.path.value graph b := by
    intro key hkey
    rw [pathNamed_name hn hkey]
  rw [beyondCursor]
  simp only [Cursor.decode_encode hn hexact]
  rw [beyondKeys_eq_true hne, List.map_congr_left hbound, List.map_congr_left hread]
  · cases forwards with
    | true => exact Iff.rfl
    | false =>
      rw [map_along_backwards, compareKeys_reverse]
      exact Iff.rfl
  · intro key hkey
    obtain ⟨kind, hkind⟩ := hkinds key hkey
    rw [hbound key hkey, hread key hkey]
    exact ⟨kind, hkind a ha, hkind b hb⟩
  · intro key hkey
    rw [hread key hkey]
    exact hnulls key hkey

end Order

end GraphQuery
