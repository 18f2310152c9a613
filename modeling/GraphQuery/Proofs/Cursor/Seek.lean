import GraphQuery.Cursor.Seek
import GraphQuery.Proofs.Filter.Verdict
import GraphQuery.Proofs.Plan.Compile

/-!
# The truth of seek conditions

`Order.beyondKeys` is the truth of lying beyond the values of a cursor, key by key, and `Options.beyond` that of lying
between the cursors of the options. The conditions that are built for them have these truths and never fail
(`Evaluation.truth_seekKeys`, `Evaluation.truth_seek`).
-/

namespace GraphQuery

/-! ## One key -/

namespace OrderKey

/-- The truth of a value lying past the bound of a cursor. -/
def pastTruth (key : OrderKey) (bound : Value) (descending : Bool) (value : Value) : Option Bool :=
  if bound.isNull then some (descending && !value.isNull)
  else
    let past := CompareOp.truth (if descending then .lt else .gt) value bound
    if key.nullable && !descending then Truth.or past (some value.isNull) else past

/-- The truth of a value lying at the bound of a cursor. -/
def atTruth (bound value : Value) : Option Bool :=
  if bound.isNull then some value.isNull else CompareOp.eq.truth value bound

end OrderKey

namespace Bindings

variable {key : OrderKey} {operand : Operand} {bound : Value} {descending : Bool} {b : Bindings}

theorem prefix_bounds : b.values <+: (key.bounds operand bound descending b).2.values := by
  unfold OrderKey.bounds
  split
  · exact List.prefix_refl _
  · exact b.prefix_addParam bound

theorem varCount_bounds : (key.bounds operand bound descending b).2.varCount = b.varCount := by
  unfold OrderKey.bounds
  split <;> rfl

end Bindings

namespace Evaluation

variable [PropertyTable] {e : Evaluation} {scope : Scope} {b : Bindings}

theorem truth_isNull {operand : Operand} {value : Value} (ho : e.operand scope operand = .ok value) :
    e.truth (.isNull operand) scope = .ok (some value.isNull) := by
  rw [truth, ho]
  rfl

/-- The conditions of the bounds of a key have their truths, and are proper. -/
theorem truth_bounds {key : OrderKey} {operand : Operand} {bound value : Value} {descending : Bool}
    (ho : e.operand scope operand = .ok value) (hk : e.Knows (key.bounds operand bound descending b).2) :
    (e.truth (key.bounds operand bound descending b).1.1 scope = .ok (key.pastTruth bound descending value) ∧
      e.truth (key.bounds operand bound descending b).1.2 scope = .ok (OrderKey.atTruth bound value)) ∧
    (key.bounds operand bound descending b).1.1.Proper ∧ (key.bounds operand bound descending b).1.2.Proper := by
  unfold OrderKey.bounds at hk ⊢
  unfold OrderKey.pastTruth OrderKey.atTruth
  cases hb : bound.isNull with
  | true =>
    simp only [if_true]
    cases descending with
    | true =>
      refine ⟨⟨?_, truth_isNull ho⟩, ⟨rfl, trivial⟩, trivial⟩
      rw [if_pos rfl, truth_not, truth_isNull ho]
      rfl
    | false =>
      refine ⟨⟨?_, truth_isNull ho⟩, trivial, trivial⟩
      rw [if_neg nofun, truth]
      rfl
  | false =>
    rw [hb] at hk
    simp only [Bool.false_eq_true, if_false] at hk ⊢
    have hparam := Knows.param hk
    have hcompare : ∀ op : CompareOp, e.truth (.compare operand op (b.addParam bound).1) scope =
        .ok (op.truth value bound) := by
      intro op
      rw [truth, ho, Result.ok_bind, hparam]
      rfl
    have hproper : ∀ op : CompareOp, (Condition.compare operand op (b.addParam bound).1).Proper := fun _ => trivial
    have hnull : (Condition.isNull operand).Proper := trivial
    cases key.nullable && !descending with
    | true =>
      exact ⟨⟨truth_or_pair (hproper _) hnull (hcompare _) (truth_isNull ho), hcompare .eq⟩,
        Condition.proper_or_pair (hproper _) hnull, hproper _⟩
    | false => exact ⟨⟨hcompare _, hcompare .eq⟩, hproper _, hproper _⟩

end Evaluation

/-! ## All keys -/

namespace Order

/-- The value of a key in a cursor. -/
def boundOf (values : Table Value) (key : OrderKey) : Value := (List.lookup key.name values).getD .null

/-- The truth of lying beyond the values of a cursor. -/
def beyondKeys (values : Table Value) (forwards : Bool) (read : OrderKey → Value) : List OrderKey → Option Bool
  | [] => some true
  | [key] => key.pastTruth (boundOf values key) (key.descends forwards) (read key)
  | key :: rest =>
    Truth.or (key.pastTruth (boundOf values key) (key.descends forwards) (read key))
      (Truth.and (OrderKey.atTruth (boundOf values key) (read key)) (beyondKeys values forwards read rest))

variable {values : Table Value} {forwards : Bool} {operandOf : OrderKey → Operand}

theorem prefix_seekKeys : ∀ (keys : List OrderKey) (b : Bindings),
    b.values <+: (seekKeys values forwards operandOf keys b).2.values
  | [], _ => List.prefix_refl _
  | [_], _ => Bindings.prefix_bounds
  | _ :: next :: rest, b => (prefix_seekKeys (next :: rest) b).trans Bindings.prefix_bounds

theorem varCount_seekKeys : ∀ (keys : List OrderKey) (b : Bindings),
    (seekKeys values forwards operandOf keys b).2.varCount = b.varCount
  | [], _ => rfl
  | [_], _ => Bindings.varCount_bounds
  | _ :: next :: rest, b => Bindings.varCount_bounds.trans (varCount_seekKeys (next :: rest) b)

end Order

namespace Evaluation

variable [PropertyTable] {e : Evaluation} {scope : Scope} {operandOf : OrderKey → Operand} {read : OrderKey → Value}

/-- The condition of a cursor has the truth of lying beyond its values, and is proper. -/
theorem truth_seekKeys {values : Table Value} {forwards : Bool} : ∀ {keys : List OrderKey} {b : Bindings},
    (∀ key ∈ keys, e.operand scope (operandOf key) = .ok (read key)) →
    e.Knows (Order.seekKeys values forwards operandOf keys b).2 →
    e.truth (Order.seekKeys values forwards operandOf keys b).1 scope =
        .ok (Order.beyondKeys values forwards read keys) ∧
      (Order.seekKeys values forwards operandOf keys b).1.Proper
  | [], b, _, _ => ⟨by rw [Order.seekKeys, truth, Order.beyondKeys], trivial⟩
  | [key], b, ho, hk => by
    obtain ⟨⟨hpast, _⟩, hproper, _⟩ := truth_bounds (ho key List.mem_cons_self) hk
    exact ⟨hpast, hproper⟩
  | key :: next :: rest, b, ho, hk => by
    obtain ⟨hkey, hrest⟩ := List.forall_mem_cons.mp ho
    obtain ⟨hbeyond, hproper⟩ := truth_seekKeys hrest (hk.of_prefix Bindings.prefix_bounds)
    obtain ⟨⟨hpast, hat⟩, hpastProper, hatProper⟩ := truth_bounds hkey hk
    have hand := truth_and_pair hatProper hproper hat hbeyond
    have handProper := Condition.proper_and_pair hatProper hproper
    exact ⟨truth_or_pair hpastProper handProper hpast hand, Condition.proper_or_pair hpastProper handProper⟩

end Evaluation

/-! ## Both cursors -/

/-- The truth of lying beyond a cursor, if there is one. -/
def Order.beyondCursor (order : Order) (cursor : Option String) (forwards : Bool) (read : OrderKey → Value) :
    Option Bool :=
  match cursor with
  | none => some true
  | some cursor =>
    match Cursor.decode order cursor with
    | .ok values => beyondKeys values forwards read order.keys
    | .error _ => none

/-- The truth of lying between the cursors of the options. -/
def Options.beyond (options : Options) (graph : Graph) (id : String) : Option Bool :=
  let read (key : OrderKey) := (options.order.pathNamed key.name).value graph id
  Truth.and (options.order.beyondCursor options.after true read) (options.order.beyondCursor options.before false read)

/-- Lowering the cursors registers parameters only. -/
theorem Order.seekCursor_eq_ok {order : Order} {cursor : Option String} {forwards : Bool}
    {operandOf : OrderKey → Operand} {b : Bindings} {conditions : List Condition} {b' : Bindings}
    (h : order.seekCursor cursor forwards operandOf b = .ok (conditions, b')) :
    b.values <+: b'.values ∧ b'.varCount = b.varCount ∧
      match cursor with
      | none => conditions = [] ∧ b' = b
      | some cursor => ∃ values, Cursor.decode order cursor = .ok values ∧
          conditions = [(order.seek values forwards operandOf b).1] ∧ b' = (order.seek values forwards operandOf b).2 := by
  unfold Order.seekCursor at h
  cases cursor with
  | none =>
    cases h
    exact ⟨List.prefix_refl _, rfl, rfl, rfl⟩
  | some cursor =>
    obtain ⟨values, hvalues, h⟩ := Result.bind_eq_ok.mp h
    cases h
    exact ⟨Order.prefix_seekKeys _ _, Order.varCount_seekKeys _ _, values, hvalues, rfl, rfl⟩

section Seek

variable {options : Options} {operandOf : OrderKey → Operand} {b b' : Bindings}

theorem Options.seek_eq_ok {condition : Condition} (h : options.seek operandOf b = .ok (condition, b')) :
    ∃ after b₁ before, options.order.seekCursor options.after true operandOf b = .ok (after, b₁) ∧
      options.order.seekCursor options.before false operandOf b₁ = .ok (before, b') ∧
      condition = .and (after ++ before) := by
  obtain ⟨⟨after, b₁⟩, hafter, h⟩ := Result.bind_eq_ok.mp h
  obtain ⟨⟨before, b₂⟩, hbefore, h⟩ := Result.bind_eq_ok.mp h
  cases h
  exact ⟨after, b₁, before, hafter, hbefore, rfl⟩

theorem Options.prefix_seek {condition : Condition} (h : options.seek operandOf b = .ok (condition, b')) :
    b.values <+: b'.values ∧ b'.varCount = b.varCount := by
  obtain ⟨after, b₁, before, hafter, hbefore, rfl⟩ := Options.seek_eq_ok h
  obtain ⟨hp, hv, _⟩ := Order.seekCursor_eq_ok hafter
  obtain ⟨hp', hv', _⟩ := Order.seekCursor_eq_ok hbefore
  exact ⟨hp.trans hp', hv'.trans hv⟩

variable [PropertyTable] {e : Evaluation} {scope : Scope} {read : OrderKey → Value}

/-- The condition of one cursor, as a list of none or one. -/
theorem Evaluation.truth_seekCursor {order : Order} {cursor : Option String} {forwards : Bool}
    {conditions : List Condition} (ho : ∀ key ∈ order.keys, e.operand scope (operandOf key) = .ok (read key))
    (h : order.seekCursor cursor forwards operandOf b = .ok (conditions, b')) (hk : e.Knows b') :
    (conditions = [] ∧ order.beyondCursor cursor forwards read = some true) ∨
      ∃ c, conditions = [c] ∧ c.Proper ∧ e.truth c scope = .ok (order.beyondCursor cursor forwards read) := by
  obtain ⟨_, _, h⟩ := Order.seekCursor_eq_ok h
  cases cursor with
  | none => exact .inl ⟨h.1, rfl⟩
  | some cursor =>
    obtain ⟨values, hvalues, rfl, rfl⟩ := h
    obtain ⟨htruth, hproper⟩ := truth_seekKeys ho hk
    refine .inr ⟨_, rfl, hproper, ?_⟩
    rw [Order.beyondCursor]
    simp only [hvalues]
    exact htruth

/-- The condition of the cursors has the truth of lying between them. -/
theorem Evaluation.truth_seek {condition : Condition}
    (ho : ∀ key ∈ options.order.keys, e.operand scope (operandOf key) = .ok (read key))
    (h : options.seek operandOf b = .ok (condition, b')) (hk : e.Knows b') :
    e.truth condition scope = .ok (Truth.and (options.order.beyondCursor options.after true read)
      (options.order.beyondCursor options.before false read)) := by
  obtain ⟨after, b₁, before, hafter, hbefore, rfl⟩ := Options.seek_eq_ok h
  have hk₁ : e.Knows b₁ := hk.of_prefix (Order.seekCursor_eq_ok hbefore).1
  rcases truth_seekCursor ho hafter hk₁ with ⟨rfl, ha⟩ | ⟨c, rfl, hc, ha⟩ <;>
    rcases truth_seekCursor ho hbefore hk with ⟨rfl, hb⟩ | ⟨d, rfl, hd, hb⟩
  · rw [ha, hb]
    show e.truth .always scope = _
    rw [truth]
    rfl
  · rw [ha, Truth.true_and]
    exact truth_and_single hd hb
  · rw [hb, Truth.and_true]
    exact truth_and_single hc ha
  · exact truth_and_pair hc hd ha hb

end Seek

end GraphQuery
