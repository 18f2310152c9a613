import GraphQuery.Cursor.Basic
import GraphQuery.Proofs.Json.RoundTrip
import GraphQuery.Proofs.Table
import Mathlib.Data.List.Perm.Subperm

/-!
# Cursors read back

A cursor that was written under an order with keys of distinct names is accepted under that order, and gives the values
it was written for (`Cursor.decode_encode`). It is accepted with the same values under every order with the same names
of keys, and refused under all others (`Cursor.decode_encode_under`). The numeral of a floating-point number may be
rounded when it is read, so of these numbers the values are asked to have only such whose numeral is not
(`Binary64.ReadsBack`).

Every list of keys and every table of values has a cursor, but not every cursor is accepted even under its own order
(`Cursor.decode_own`). It is refused when two keys have one name, since it carries one value of each name, and when a
value is a floating-point number that is not finite, since such a number has no numeral.
-/

namespace GraphQuery

/-! ## Values -/

namespace Value

/-- A value whose numeral, when it is a floating-point number, is read as that number. -/
def Exact (value : Value) : Prop := ∀ x, value = .float x → x.ReadsBack

theorem exact_int64 (n : Int64) : (Json.int n.toInt).Exact := by
  have hlow := n.le_toInt
  have hhigh := n.toInt_lt
  exact .int (by omega) (by omega)

theorem Exact.tagged {value : Value} (h : value.Exact) : value.tagged.Exact := by
  have hone : ∀ (kind : String) {json : Json}, json.Exact → (Json.object [(kind, json)]).Exact := by
    intro kind json hjson
    refine .object fun field hfield => ?_
    rw [List.mem_singleton.mp hfield]
    exact hjson
  cases value with
  | null => exact .string "Null"
  | bool b => exact hone "Bool" (.bool b)
  | int n => exact hone "Int64" (exact_int64 n)
  | float x => exact hone "Float64" (.float (h x rfl))
  | string s => exact hone "String" (.string s)
  | timestamp t => exact hone "Timestamp" (exact_int64 t)
  | strings items =>
    refine hone "StringArray" (.array fun item hitem => ?_)
    obtain ⟨s, _, rfl⟩ := List.mem_map.mp hitem
    exact .string s
  | ints items =>
    refine hone "Int64Array" (.array fun item hitem => ?_)
    obtain ⟨n, _, rfl⟩ := List.mem_map.mp hitem
    exact exact_int64 n

theorem int64OfJson?_int (n : Int64) : int64OfJson? (.int n.toInt) = some n := by
  have hrange : Int64.minValue.toInt ≤ n.toInt ∧ n.toInt ≤ Int64.maxValue.toInt :=
    ⟨n.minValue_le_toInt, n.toInt_le⟩
  rw [int64OfJson?]
  simp only [Json.int?, Option.bind_eq_bind, Option.bind_some, if_pos hrange, Int64.ofInt_toInt]

theorem mapM_map_some {α β : Type} {f : α → β} {g : β → Option α} (h : ∀ a, g (f a) = some a) :
    ∀ items : List α, (items.map f).mapM g = some items
  | [] => rfl
  | a :: rest => by
    rw [List.map_cons, List.mapM_cons, h, mapM_map_some h rest]
    rfl

/-- A value with its kind reads back. -/
theorem ofTagged?_tagged (value : Value) : ofTagged? value.tagged = some value := by
  cases value with
  | null => rfl
  | bool b => rfl
  | int n =>
    show (int64OfJson? (.int n.toInt)).map int = some (int n)
    rw [int64OfJson?_int]
    rfl
  | float x => rfl
  | string s => rfl
  | timestamp t =>
    show (int64OfJson? (.int t.toInt)).map timestamp = some (timestamp t)
    rw [int64OfJson?_int]
    rfl
  | strings items =>
    have hitems : (items.map Json.string).mapM Json.string? = some items :=
      mapM_map_some (f := Json.string) (fun _ => rfl) items
    show (do return strings (← (items.map Json.string).mapM Json.string?)) = some (strings items)
    rw [hitems]
    rfl
  | ints items =>
    have hitems : (items.map fun n => Json.int n.toInt).mapM int64OfJson? = some items :=
      mapM_map_some int64OfJson?_int items
    show (do return ints (← (items.map fun n => Json.int n.toInt).mapM int64OfJson?)) = some (ints items)
    rw [hitems]
    rfl

/-! ### Numbers without a numeral -/

/-- Whether a value is no floating-point number, or a finite one. -/
def isFinite : Value → Bool
  | float x => x.isFinite
  | _ => true

/-- A value whose numeral, when it is a finite floating-point number, is read as that number. -/
def Faithful (value : Value) : Prop := value.isFinite = true → value.Exact

/-- What is written of a value with its kind: a null stands for a number without a numeral. -/
def written (value : Value) : Json := if value.isFinite then value.tagged else .object [("Float64", .null)]

variable {value : Value}

theorem Exact.isFinite (h : value.Exact) : value.isFinite = true := by
  cases value with
  | float x =>
    by_contra hfinite
    have hnull : Json.floatText x = "null".toList := if_neg hfinite
    have hscan : Numeral.scan "null".toList = none := rfl
    have hread := h x rfl
    rw [Binary64.ReadsBack, hnull, hscan] at hread
    cases hread
  | _ => rfl

theorem chars_written (value : Value) : value.written.chars = value.tagged.chars := by
  unfold written
  split
  · rfl
  · rename_i hfinite
    cases value with
    | float x =>
      have htext : (Json.float x).chars = Json.null.chars := if_neg hfinite
      rw [tagged, Json.chars_object, Json.chars_object, htext]
    | _ => exact absurd rfl hfinite

theorem Faithful.written (h : value.Faithful) : value.written.Exact := by
  unfold Value.written
  split
  · rename_i hfinite
    exact (h hfinite).tagged
  · refine .object fun field hfield => ?_
    rw [List.mem_singleton.mp hfield]
    exact .null

theorem ofTagged?_written (value : Value) : ofTagged? value.written = if value.isFinite then some value else none := by
  unfold written
  split
  · exact ofTagged?_tagged value
  · rfl

end Value

/-! ## Cursors -/

namespace Cursor

theorem textOf?_bytesOf (text : String) : textOf? (bytesOf text) = some text := by
  have hbytes : (⟨(bytesOf text).toArray⟩ : ByteArray) = text.toUTF8 := rfl
  rw [textOf?, hbytes]
  exact dif_pos text.isValidUTF8

theorem fieldsChars_map {f g : Value → Json} (h : ∀ value, (f value).chars = (g value).chars) :
    ∀ values : List (String × Value), Json.fieldsChars (values.map fun (name, value) => (name, f value)) =
      Json.fieldsChars (values.map fun (name, value) => (name, g value))
  | [] => rfl
  | (name, value) :: rest => by
    rw [List.map_cons, List.map_cons, Json.fieldsChars, Json.fieldsChars, h, fieldsChars_map h rest]

theorem chars_ofTable {f g : Value → Json} (h : ∀ value, (f value).chars = (g value).chars) (values : Table Value) :
    (Json.ofTable f values).chars = (Json.ofTable g values).chars := by
  cases values with
  | nil => rfl
  | cons entry rest =>
    obtain ⟨name, value⟩ := entry
    show (Json.object ((name, f value) :: Table.mapEntries f rest)).chars =
      (Json.object ((name, g value) :: Table.mapEntries g rest)).chars
    rw [Json.chars_object, Json.chars_object, h, Table.mapEntries, Table.mapEntries, fieldsChars_map h]

theorem table?_written (values : Table Value) : (Json.ofTable Value.written values).table? Value.ofTagged? =
    if values.all (·.2.isFinite) then some values else none := by
  show (values.map fun entry => (entry.1, entry.2.written)).mapM (fun entry => do
    return (entry.1, ← Value.ofTagged? entry.2)) = _
  induction values with
  | nil => rfl
  | cons entry rest ih =>
    rw [List.map_cons, List.mapM_cons, ih, Value.ofTagged?_written, List.all_cons]
    cases entry.2.isFinite with
    | false => rfl
    | true => cases rest.all (·.2.isFinite) <;> rfl

/-- What was written is read when every number in it has a numeral. -/
theorem read?_write_eq {values : Table Value} (hs : Table.Sorted values) (h : ∀ entry ∈ values, entry.2.Faithful) :
    read? (write values) = if values.all (·.2.isFinite) then some values else none := by
  have hexact : (Json.ofTable Value.written values).Exact := by
    refine .object fun field hfield => ?_
    obtain ⟨entry, hentry, rfl⟩ := List.mem_map.mp hfield
    exact (h entry hentry).written
  have hcontent : content values = (Json.ofTable Value.written values).text := by
    rw [content, Json.text, Json.text, chars_ofTable Value.chars_written]
  rw [read?, write, String.toList_ofList, Base64Url.decode_encode]
  simp only [Option.bind_eq_bind, Option.bind_some]
  rw [textOf?_bytesOf, Option.bind_some, hcontent, hexact.ofText?_text, Option.bind_some, table?_written]
  split
  · rw [Option.bind_some, Table.ofList_of_sorted hs]
    rfl
  · rfl

/-- What was written is read. -/
theorem read?_write {values : Table Value} (hs : Table.Sorted values) (h : ∀ entry ∈ values, entry.2.Exact) :
    read? (write values) = some values := by
  rw [read?_write_eq hs fun entry hentry _ => h entry hentry,
    if_pos (List.all_eq_true.mpr fun entry hentry => (h entry hentry).isFinite)]

variable {order first second : Order} {observed : Table Value}

theorem names_values (order : Order) (observed : Table Value) :
    (order.names.map fun name => (name, (List.lookup name observed).getD .null)).map (·.1) = order.names := by
  rw [List.map_map]
  exact List.map_id _

/-- A cursor has the names of the keys of its order, sorted. -/
theorem names_valuesOf (order : Order) (observed : Table Value) :
    (valuesOf order observed).map (·.1) = sortNames order.names := by
  rw [valuesOf, Table.names_ofList, names_values]

theorem length_valuesOf (hn : order.names.Nodup) : (valuesOf order observed).length = order.names.length := by
  rw [valuesOf, Table.length_ofList ((names_values order observed).symm ▸ hn), List.length_map]

/-- The values of the keys of an order, by name. -/
theorem lookup_valuesOf (hn : order.names.Nodup) (name : String) : List.lookup name (valuesOf order observed) =
    if name ∈ order.names then some ((List.lookup name observed).getD .null) else none := by
  have hnodup := (names_values order observed).symm ▸ hn
  rw [valuesOf, Table.lookup_ofList hnodup]
  split
  · rename_i hname
    exact Table.lookup_of_mem hnodup (List.mem_map.mpr ⟨name, hname, rfl⟩)
  · rename_i hname
    refine Table.lookup_eq_none fun entry hentry heq => hname ?_
    obtain ⟨other, hother, rfl⟩ := List.mem_map.mp hentry
    exact heq ▸ hother

/-- The values of an order fit an order exactly when the two have the same names of keys. -/
theorem fits_valuesOf (hfirst : first.names.Nodup) (hsecond : second.names.Nodup) :
    fits second (valuesOf first observed) = true ↔ ∀ name, name ∈ first.names ↔ name ∈ second.names := by
  have hlength : second.keys.length = second.names.length := by rw [Order.names, List.length_map]
  have hsome : ∀ name, (List.lookup name (valuesOf first observed)).isSome = true ↔ name ∈ first.names := by
    intro name
    rw [lookup_valuesOf hfirst]
    split <;> simp [*]
  simp only [fits, Bool.and_eq_true, decide_eq_true_eq, List.all_eq_true, hsome, length_valuesOf hfirst, hlength]
  constructor
  · intro ⟨hlen, hsub⟩ name
    have hperm : second.names.Perm first.names :=
      (List.subperm_of_subset hsecond hsub).perm_of_length_le (Nat.le_of_eq hlen)
    exact hperm.mem_iff.symm
  · intro hsame
    have hperm : first.names.Perm second.names := (List.perm_ext_iff_of_nodup hfirst hsecond).mpr hsame
    exact ⟨hperm.length_eq, fun name hname => (hsame name).mpr hname⟩

/-- What was written under one order, read under another. -/
theorem decode_encode_eq (hn : first.names.Nodup)
    (h : ∀ name ∈ first.names, ((List.lookup name observed).getD .null).Exact) :
    decode second (encode first observed) =
      if fits second (valuesOf first observed) then .ok (valuesOf first observed)
      else .error (.invalidCursor (.otherOrder (sortNames first.names) second.names)) := by
  have hexact : ∀ entry ∈ valuesOf first observed, entry.2.Exact := by
    intro entry hentry
    have hmem : entry.1 ∈ first.names := names_values first observed ▸ Table.mem_names_ofList hentry
    have hlookup := (Table.lookup_eq_some_iff (Table.sorted_ofList _)).mpr hentry
    rw [← valuesOf, lookup_valuesOf hn, if_pos hmem] at hlookup
    rw [← Option.some.inj hlookup]
    exact h entry.1 hmem
  have hread : read? (write (valuesOf first observed)) = some (valuesOf first observed) :=
    read?_write (Table.sorted_ofList _) hexact
  rw [decode, encode, hread]
  simp only [names_valuesOf]

/-- A cursor is accepted under the order it was written for, and gives the values it was written for. -/
theorem decode_encode (hn : order.names.Nodup)
    (h : ∀ name ∈ order.names, ((List.lookup name observed).getD .null).Exact) :
    decode order (encode order observed) = .ok (valuesOf order observed) := by
  rw [decode_encode_eq hn h, if_pos ((fits_valuesOf hn hn).mpr fun _ => Iff.rfl)]

/-! ## Cursors under their own order -/

/-- Every entry of the values of an order is that of one of its names. -/
theorem mem_valuesOf {entry : String × Value} (h : entry ∈ valuesOf order observed) :
    entry.1 ∈ order.names ∧ entry.2 = (List.lookup entry.1 observed).getD .null := by
  obtain ⟨name, hname, rfl⟩ := List.mem_map.mp (Table.mem_ofList h)
  exact ⟨hname, rfl⟩

theorem all_valuesOf (p : Value → Bool) : ((valuesOf order observed).all fun entry => p entry.2) = true ↔
    ∀ name ∈ order.names, p ((List.lookup name observed).getD .null) = true := by
  rw [List.all_eq_true]
  constructor
  · intro h name hname
    have hmem : name ∈ (valuesOf order observed).map (·.1) := by
      rw [names_valuesOf]
      exact mem_sortNames.mpr hname
    obtain ⟨entry, hentry, rfl⟩ := List.mem_map.mp hmem
    exact (mem_valuesOf hentry).2 ▸ h entry hentry
  · intro h entry hentry
    obtain ⟨hname, heq⟩ := mem_valuesOf hentry
    exact heq ▸ h entry.1 hname

/-- Sorting loses names only when there are repetitions. -/
theorem nodup_of_sortNames {names : List String} (h : (sortNames names).length = names.length) : names.Nodup := by
  have hsub : (sortNames names).Subperm names :=
    List.subperm_of_subset (nodup_sortNames names) fun _ hname => mem_sortNames.mp hname
  exact (hsub.perm_of_length_le (Nat.le_of_eq h.symm)).nodup_iff.mp (nodup_sortNames names)

/-- The values of an order fit it exactly when its keys have distinct names. -/
theorem fits_own : fits order (valuesOf order observed) = true ↔ order.names.Nodup := by
  refine ⟨fun hfits => ?_, fun hn => (fits_valuesOf hn hn).mpr fun _ => Iff.rfl⟩
  simp only [fits, Bool.and_eq_true, decide_eq_true_eq] at hfits
  refine nodup_of_sortNames ?_
  rw [← names_valuesOf order observed, List.length_map, hfits.1, Order.names, List.length_map]

/-- What becomes of a cursor under the order it was written for. -/
theorem decode_own (h : ∀ name ∈ order.names, ((List.lookup name observed).getD .null).Faithful) :
    decode order (encode order observed) =
      if ∀ name ∈ order.names, ((List.lookup name observed).getD .null).isFinite = true then
        if order.names.Nodup then .ok (valuesOf order observed)
        else .error (.invalidCursor (.otherOrder (sortNames order.names) order.names))
      else .error (.invalidCursor .unreadable) := by
  have hfaithful : ∀ entry ∈ valuesOf order observed, entry.2.Faithful := by
    intro entry hentry
    obtain ⟨hname, heq⟩ := mem_valuesOf hentry
    exact heq ▸ h entry.1 hname
  have hread : read? (encode order observed) =
      if (valuesOf order observed).all (·.2.isFinite) then some (valuesOf order observed) else none :=
    read?_write_eq (Table.sorted_ofList _) hfaithful
  simp only [all_valuesOf] at hread
  rw [decode, hread]
  by_cases hfinite : ∀ name ∈ order.names, ((List.lookup name observed).getD .null).isFinite = true
  · simp only [if_pos hfinite, fits_own, names_valuesOf]
  · simp only [if_neg hfinite]

/-! ## Cursors under other orders -/

/-- A cursor is accepted under exactly the orders with the names of keys it was written for, and gives each key the
observed value, or null when there is none. The numerals of the observed floating-point numbers are taken to be read
as these numbers. -/
theorem decode_encode_under (hfirst : first.names.Nodup) (hsecond : second.names.Nodup)
    (hfinite : ∀ name x, List.lookup name observed = some (.float x) → x.isFinite = true)
    (hreads : ∀ name x, List.lookup name observed = some (.float x) → x.isFinite = true → x.ReadsBack) :
    ((∀ name, name ∈ first.names ↔ name ∈ second.names) →
      ∃ values, decode second (encode first observed) = .ok values ∧ Table.Sorted values ∧
        ∀ name, List.lookup name values =
          if name ∈ second.names then some ((List.lookup name observed).getD .null) else none) ∧
      (¬ (∀ name, name ∈ first.names ↔ name ∈ second.names) →
        decode second (encode first observed) =
          .error (.invalidCursor (.otherOrder (sortNames first.names) second.names))) := by
  have hexact : ∀ name ∈ first.names, ((List.lookup name observed).getD .null).Exact := by
    intro name _ x hx
    cases hlookup : List.lookup name observed with
    | none =>
      rw [hlookup] at hx
      cases hx
    | some value =>
      rw [hlookup, Option.getD_some] at hx
      rw [hx] at hlookup
      exact hreads name x hlookup (hfinite name x hlookup)
  refine ⟨fun hsame => ⟨valuesOf first observed, ?_, Table.sorted_ofList _, fun name => ?_⟩, fun hother => ?_⟩
  · rw [decode_encode_eq hfirst hexact, if_pos ((fits_valuesOf hfirst hsecond).mpr hsame)]
  · rw [lookup_valuesOf hfirst]
    simp only [hsame name]
  · rw [decode_encode_eq hfirst hexact, if_neg fun hfits => hother ((fits_valuesOf hfirst hsecond).mp hfits)]

/-- The cursor of the score 1.5 under an order by score is accepted with that score when the keys stand the other way
round, and refused under the order by identifier alone. -/
theorem decode_encode_under_scores :
    let byScore : Order := .ofKeys [.ofProperty "score" .descending]
    let reversed : Order := ⟨byScore.keys.reverse⟩
    let observed : Table Value := [("id", .string "a"), ("score", .float (.ofBits 0x3FF8000000000000))]
    byScore.names.Nodup ∧ reversed.names.Nodup ∧ Order.byId.names.Nodup ∧
      (∃ values, decode reversed (encode byScore observed) = .ok values ∧ Table.Sorted values ∧
        ∀ name, List.lookup name values =
          if name ∈ reversed.names then some ((List.lookup name observed).getD .null) else none) ∧
      decode .byId (encode byScore observed) = .error (.invalidCursor (.otherOrder ["id", "score"] ["id"])) := by
  intro byScore reversed observed
  have hscore : byScore.names.Nodup := by decide
  have hreversed : reversed.names.Nodup := by decide
  have hid : Order.byId.names.Nodup := by decide
  have hobserved : ∀ name x, List.lookup name observed = some (.float x) → x = .ofBits 0x3FF8000000000000 := by
    intro name x h
    have hmem := Table.mem_of_lookup h
    simp only [observed, List.mem_cons, Prod.mk.injEq, Value.float.injEq, List.not_mem_nil] at hmem
    simp at hmem
    exact hmem.2
  have hfinite : ∀ name x, List.lookup name observed = some (.float x) → x.isFinite = true := by
    intro name x h
    rw [hobserved name x h]
    rfl
  have hreads : ∀ name x, List.lookup name observed = some (.float x) → x.isFinite = true → x.ReadsBack := by
    intro name x h _
    rw [hobserved name x h]
    decide +kernel
  refine ⟨hscore, hreversed, hid, ?_, ?_⟩
  · exact (decode_encode_under hscore hreversed hfinite hreads).1 fun name => List.mem_reverse.symm
  · have hother : ¬ ∀ name, name ∈ byScore.names ↔ name ∈ Order.byId.names :=
      fun hsame => absurd ((hsame "score").mp (by decide)) (by decide)
    exact (decode_encode_under hscore hid hfinite hreads).2 hother

end Cursor
end GraphQuery
