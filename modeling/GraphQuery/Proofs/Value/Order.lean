import GraphQuery.Value

/-!
# The order of values of one kind

Among the nulls and the values of one of the kinds boolean, integer, string and timestamp, `Value.compare` is a linear
order with the nulls last: `Value.OfKind.compare_eq_iff`, `Value.OfKind.compare_swap` and
`Value.OfKind.compare_lt_trans`. Floating-point numbers have no kind here, since an integer compares with them by its
nearest floating-point number.
-/

namespace GraphQuery
namespace Value

/-- The kinds of values that are compared exactly. -/
inductive Kind where
  | bool
  | int
  | string
  | timestamp
deriving DecidableEq

/-- The kind of a value, if it has one of these. -/
def kind? : Value → Option Kind
  | bool _ => some .bool
  | int _ => some .int
  | string _ => some .string
  | timestamp _ => some .timestamp
  | _ => none

/-- Whether a value is null or of a kind. -/
def OfKind (kind : Kind) (value : Value) : Prop := value = .null ∨ value.kind? = some kind

/-! ## Comparisons by kind -/

@[simp] theorem compare_bool (a b : Bool) : (bool a).compare (bool b) = Ord.compare a b := rfl

@[simp] theorem compare_int (a b : Int64) : (int a).compare (int b) = Ord.compare a.toInt b.toInt := rfl

@[simp] theorem compare_string (a b : String) : (string a).compare (string b) = Ord.compare a b := rfl

@[simp] theorem compare_timestamp (a b : Int64) :
    (timestamp a).compare (timestamp b) = Ord.compare a.toInt b.toInt := rfl

@[simp] theorem compare_null_null : null.compare null = .eq := rfl

theorem isNull_eq_true {v : Value} : v.isNull = true ↔ v = .null := by
  cases v <;> simp [isNull]

/-- Nothing comes after a null. -/
theorem compare_null_right {v : Value} (h : v.isNull = false) : v.compare null = .lt := by
  cases v <;> first | rfl | simp [isNull] at h

theorem compare_null_left {v : Value} (h : v.isNull = false) : null.compare v = .gt := by
  cases v <;> first | rfl | simp [isNull] at h

namespace OfKind

variable {kind : Kind} {a b c : Value}

/-- A value of a kind is null or written with the constructor of the kind. -/
theorem cases (h : OfKind kind a) : a = .null ∨ match kind with
    | .bool => ∃ x, a = .bool x
    | .int => ∃ n, a = .int n
    | .string => ∃ s, a = .string s
    | .timestamp => ∃ t, a = .timestamp t := by
  rcases h with rfl | h
  · exact .inl rfl
  · cases kind <;> cases a <;> simp [kind?] at h <;> exact .inr ⟨_, rfl⟩

/-- Only equal values compare equal. -/
theorem compare_eq_iff (ha : OfKind kind a) (hb : OfKind kind b) : a.compare b = .eq ↔ a = b := by
  rcases ha.cases with rfl | ha <;> rcases hb.cases with rfl | hb
  · simp
  · cases kind <;> obtain ⟨_, rfl⟩ := hb <;> exact ⟨nofun, nofun⟩
  · cases kind <;> obtain ⟨_, rfl⟩ := ha <;> exact ⟨nofun, nofun⟩
  · cases kind <;> obtain ⟨x, rfl⟩ := ha <;> obtain ⟨y, rfl⟩ := hb <;>
      simp [Int64.toInt_inj]

/-- Turning a comparison round turns its answer round. -/
theorem compare_swap (ha : OfKind kind a) (hb : OfKind kind b) : b.compare a = (a.compare b).swap := by
  rcases ha.cases with rfl | ha <;> rcases hb.cases with rfl | hb
  · rfl
  · cases kind <;> obtain ⟨_, rfl⟩ := hb <;> rfl
  · cases kind <;> obtain ⟨_, rfl⟩ := ha <;> rfl
  · cases kind <;> obtain ⟨x, rfl⟩ := ha <;> obtain ⟨y, rfl⟩ := hb <;>
      simp only [compare_bool, compare_int, compare_string, compare_timestamp] <;> exact Std.OrientedCmp.eq_swap

theorem compare_lt_trans (ha : OfKind kind a) (hb : OfKind kind b) (hc : OfKind kind c)
    (hab : a.compare b = .lt) (hbc : b.compare c = .lt) : a.compare c = .lt := by
  rcases hb.cases with rfl | hb'
  · -- nothing comes after a null
    rcases hc.cases with rfl | hc
    · simp at hbc
    · cases kind <;> obtain ⟨_, rfl⟩ := hc <;> cases hbc
  rcases ha.cases with rfl | ha
  · cases kind <;> obtain ⟨_, rfl⟩ := hb' <;> cases hab
  rcases hc.cases with rfl | hc
  · cases kind <;> obtain ⟨_, rfl⟩ := ha <;> exact compare_null_right rfl
  · cases kind <;> obtain ⟨x, rfl⟩ := ha <;> obtain ⟨y, rfl⟩ := hb' <;> obtain ⟨z, rfl⟩ := hc <;>
      simp only [compare_bool, compare_int, compare_string, compare_timestamp] at hab hbc ⊢ <;>
      exact Std.TransCmp.lt_trans hab hbc

end OfKind

end Value
end GraphQuery
