import GraphQuery.Proofs.Decimal.Rounding
import GraphQuery.Proofs.Value.Order
import GraphQuery.Schema.Property

/-!
# The order of all values

Values are ordered by rank, and those of one rank by what they hold. Where an integer stands for its nearest
floating-point number this is a preorder (`Value.coarse`), and comparing refines it: two integers compare exactly
(`Value.compare_eq_then`). So values compare equal when they are the same, or an integer and the number nearest to it
(`Value.compare_eq_iff`).

The refinement is seen by integers only. That is why the order is not transitive where two integers meet at one
floating-point number, and why it is transitive everywhere else (`Value.compare_laws`).
-/

namespace GraphQuery
namespace Value

/-! ## Integers as numbers -/

/-- The number that a value of one of the ranks with numbers holds; of an integer it is the nearest one. -/
def number : Value → Int
  | bool b => b.toNat
  | int n => (widen n).orderKey
  | float x => x.orderKey
  | timestamp t => t.toInt
  | _ => 0

/-- The texts that a value holds. -/
def texts : Value → List String
  | string s => [s]
  | strings items => items
  | _ => []

/-- The integers that a list of integers holds. -/
def integers : Value → List Int
  | ints items => items.map Int64.toInt
  | _ => []

/-- The order of values in which an integer stands for its nearest floating-point number. -/
def coarse : Value → Value → Ordering :=
  compareLex (compareOn rank) (compareLex (compareOn number) (compareLex (compareOn texts) (compareOn integers)))

instance : Std.TransCmp coarse :=
  inferInstanceAs (Std.TransCmp (compareLex (compareOn rank)
    (compareLex (compareOn number) (compareLex (compareOn texts) (compareOn integers)))))

/-- The order of integers, which leaves all other values alike. -/
def fine : Value → Value → Ordering
  | int m, int n => compareInts m n
  | _, _ => .eq

section Coarse

variable {a b : Value}

theorem coarse_of_rank (h : a.rank = b.rank) : coarse a b = (Ord.compare a.number b.number).then
    ((Ord.compare a.texts b.texts).then (Ord.compare a.integers b.integers)) := by
  simp [coarse, compareLex, compareOn, h]

theorem coarse_of_rank_ne (h : a.rank ≠ b.rank) : coarse a b = Ord.compare a.rank b.rank := by
  have hne : Ord.compare a.rank b.rank ≠ .eq := fun heq => h (Std.LawfulEqOrd.eq_of_compare heq)
  cases hc : Ord.compare a.rank b.rank <;> simp_all [coarse, compareLex, compareOn]

theorem coarse_eq_iff : coarse a b = .eq ↔
    a.rank = b.rank ∧ a.number = b.number ∧ a.texts = b.texts ∧ a.integers = b.integers := by
  by_cases h : a.rank = b.rank
  · simp [coarse_of_rank h, Ordering.then_eq_eq, h]
  · rw [coarse_of_rank_ne h]
    simp [h]

end Coarse

/-! ## Refinement -/

theorem compareLists_eq {α β : Type} [Ord β] (cmp : α → α → Ordering) (f : α → β)
    (h : ∀ a b, cmp a b = Ord.compare (f a) (f b)) :
    ∀ as bs : List α, compareLists cmp as bs = Ord.compare (as.map f) (bs.map f)
  | [], [] | [], _ :: _ | _ :: _, [] => rfl
  | a :: as, b :: bs => by
    rw [compareLists, compareLists_eq cmp f h as bs, h, List.map_cons, List.map_cons, List.compare_cons_cons]

theorem compare_of_rank_ne {a b : Value} (h : a.rank ≠ b.rank) : a.compare b = Ord.compare a.rank b.rank := by
  cases a <;> cases b <;> first | rfl | exact absurd rfl h

/-- Integers that are in order have nearest numbers in order. -/
theorem then_compareInts (m n : Int64) :
    (Ord.compare (widen m).orderKey (widen n).orderKey).then (compareInts m n) = compareInts m n := by
  rcases lt_trichotomy m.toInt n.toInt with hlt | heq | hgt
  · rw [compareInts, Int.compare_eq_lt.mpr hlt, Ordering.then_eq_lt, and_iff_left rfl]
    rcases lt_or_eq_of_le (Binary64.orderKey_ofInt_le hlt.le) with hkeys | hkeys
    · exact .inl (Int.compare_eq_lt.mpr hkeys)
    · exact .inr (Int.compare_eq_eq.mpr hkeys)
  · simp [Int64.toInt_inj.mp heq]
  · rw [compareInts, Int.compare_eq_gt.mpr hgt, Ordering.then_eq_gt, and_iff_left rfl]
    rcases lt_or_eq_of_le (Binary64.orderKey_ofInt_le hgt.le) with hkeys | hkeys
    · exact .inl (Int.compare_eq_gt.mpr hkeys)
    · exact .inr (Int.compare_eq_eq.mpr hkeys.symm)

/-- Comparing refines the order in which integers stand for their nearest numbers by the order of integers. -/
theorem compare_eq_then (a b : Value) : a.compare b = (coarse a b).then (fine a b) := by
  by_cases hrank : a.rank = b.rank
  · rw [coarse_of_rank hrank]
    cases a <;> cases b <;> simp [rank] at hrank <;> simp only [number, texts, integers, fine, compare]
    case bool.bool a b => cases a <;> cases b <;> rfl
    case int.int m n => simp [then_compareInts]
    case strings.strings as bs => simp [compareLists_eq compareStrings id fun _ _ => rfl]
    case ints.ints as bs => simp [compareLists_eq compareInts Int64.toInt fun _ _ => rfl]
    case string.string s t =>
      have htext : compareStrings s t = Ord.compare s t := rfl
      simp [htext]
    all_goals simp [Binary64.totalCompare, compareInts]
  · rw [compare_of_rank_ne hrank, coarse_of_rank_ne hrank]
    cases a <;> cases b <;> first | exact absurd rfl hrank | rfl

/-! ## Laws -/

section Laws

variable {a b c : Value} {m n : Int64}

theorem fine_swap (a b : Value) : fine b a = (fine a b).swap := by
  cases a <;> cases b <;> try rfl
  case int.int m n => exact (Std.OrientedCmp.eq_swap : Ord.compare n.toInt m.toInt = (Ord.compare m.toInt n.toInt).swap)

/-- Turning a comparison round turns its answer round. -/
theorem compare_swap (a b : Value) : b.compare a = (a.compare b).swap := by
  have hcoarse : coarse b a = (coarse a b).swap := Std.OrientedCmp.eq_swap
  rw [compare_eq_then, compare_eq_then a b, fine_swap, hcoarse, Ordering.swap_then]

theorem fine_eq_gt (h : fine a b = .gt) : ∃ m n : Int64, a = int m ∧ b = int n ∧ n < m := by
  cases a <;> cases b <;> try cases h
  exact ⟨_, _, rfl, rfl, Int64.lt_iff_toInt_lt.mpr (Int.compare_eq_gt.mp h)⟩

/-- At the place of an integer there are the integers with the same nearest number, and that number. -/
theorem coarse_int_eq_iff : coarse (int m) b = .eq ↔ (∃ k, b = int k ∧ widen m = widen k) ∨ b = float (widen m) := by
  rw [coarse_eq_iff]
  constructor
  · rintro ⟨hrank, hnumber, _⟩
    cases b with
    | int k => exact .inl ⟨k, rfl, Binary64.orderKey_injective hnumber⟩
    | float x => exact .inr (by rw [Binary64.orderKey_injective hnumber])
    | _ => exact absurd hrank (by simp [rank])
  · rintro (⟨k, rfl, heq⟩ | rfl)
    · exact ⟨rfl, congrArg Binary64.orderKey heq, rfl, rfl⟩
    · exact ⟨rfl, rfl, rfl, rfl⟩

/-- Values compare equal when they are the same, or an integer and the number nearest to it. -/
theorem compare_eq_iff : a.compare b = .eq ↔
    a = b ∨ ∃ m, a = int m ∧ b = float (widen m) ∨ a = float (widen m) ∧ b = int m := by
  rw [compare_eq_then, Ordering.then_eq_eq]
  constructor
  · rintro ⟨hcoarse, hfine⟩
    obtain ⟨hrank, hnumber, htexts, hintegers⟩ := coarse_eq_iff.mp hcoarse
    cases a <;> cases b <;> simp [rank] at hrank
    case null.null => exact .inl rfl
    case bool.bool a b => cases a <;> cases b <;> first | exact .inl rfl | cases hnumber
    case int.int m n => exact .inl (congrArg int (Int64.toInt_inj.mp (Int.compare_eq_eq.mp hfine)))
    case int.float m x => exact .inr ⟨m, .inl ⟨rfl, congrArg float (Binary64.orderKey_injective hnumber.symm)⟩⟩
    case float.int x n => exact .inr ⟨n, .inr ⟨congrArg float (Binary64.orderKey_injective hnumber), rfl⟩⟩
    case float.float x y => exact .inl (congrArg float (Binary64.orderKey_injective hnumber))
    case string.string s t => exact .inl (congrArg string (List.singleton_inj.mp htexts))
    case timestamp.timestamp s t => exact .inl (congrArg timestamp (Int64.toInt_inj.mp hnumber))
    case strings.strings as bs => exact .inl (congrArg strings htexts)
    case ints.ints as bs =>
      exact .inl (congrArg ints ((List.map_inj_right fun _ _ => Int64.toInt_inj.mp).mp hintegers))
  · rintro (rfl | ⟨m, ⟨rfl, rfl⟩ | ⟨rfl, rfl⟩⟩)
    · refine ⟨Std.ReflCmp.compare_self, ?_⟩
      cases a <;> try rfl
      case int m => exact Int.compare_eq_eq.mpr rfl
    · exact ⟨coarse_int_eq_iff.mpr (.inr rfl), rfl⟩
    · exact ⟨Std.OrientedCmp.eq_comm.mp (coarse_int_eq_iff.mpr (.inr rfl)), rfl⟩

/-- Three values of which the first two are not out of order, nor are the last two, and yet the outer ones are. -/
inductive Torn : Value → Value → Value → Prop
  | mk {m n : Int64} {x : Binary64} : n < m → widen m = x → widen n = x → Torn (int m) (float x) (int n)

theorem le_of_compare_int (h : (int m).compare (int n) ≠ .gt) : m ≤ n :=
  Int64.not_lt.mp fun hlt => h (Int.compare_eq_gt.mpr (Int64.lt_iff_toInt_lt.mp hlt))

/-- Only two integers with one nearest number, and that number between them, keep the order from being transitive. -/
theorem compare_eq_gt_iff (hab : a.compare b ≠ .gt) (hbc : b.compare c ≠ .gt) : a.compare c = .gt ↔ Torn a b c := by
  have hcoarse : ∀ {x y : Value}, x.compare y ≠ .gt → (coarse x y).isLE = true := by
    intro x y h
    rw [compare_eq_then] at h
    exact (Ordering.isLE_then_iff_and.mp (Ordering.ne_gt_iff_isLE.mp h)).1
  have hle : (coarse a c).isLE = true := Std.TransCmp.isLE_trans (hcoarse hab) (hcoarse hbc)
  constructor
  · intro h
    rw [compare_eq_then, Ordering.then_eq_gt] at h
    obtain ⟨hsame, hfine⟩ := h.resolve_left (Ordering.ne_gt_iff_isLE.mpr hle)
    obtain ⟨m, n, rfl, rfl, hlt⟩ := fine_eq_gt hfine
    have hwiden : widen m = widen n := by
      rcases coarse_int_eq_iff.mp hsame with ⟨k, hk, hwiden⟩ | hfloat
      · cases hk
        exact hwiden
      · cases hfloat
    -- the value between the integers shares their place, as they share it
    have hmiddle : coarse (int m) b = .eq := by
      have hback : coarse (int n) (int m) = .eq := Std.OrientedCmp.eq_comm.mp hsame
      refine Std.OrientedCmp.isLE_antisymm (hcoarse hab) ?_
      rw [← Std.TransCmp.congr_right hback]
      exact hcoarse hbc
    rcases coarse_int_eq_iff.mp hmiddle with ⟨k, rfl, _⟩ | rfl
    · have hmn : m ≤ n := Int64.le_trans (le_of_compare_int hab) (le_of_compare_int hbc)
      exact absurd hlt (Int64.not_lt.mpr hmn)
    · exact .mk hlt rfl hwiden.symm
  · rintro ⟨hlt, _, _⟩
    exact Int.compare_eq_gt.mpr (Int64.lt_iff_toInt_lt.mp hlt)

/-- Two values that compare equal, and a third that tells them apart. -/
inductive Parted : Value → Value → Value → Prop
  | int {m n : Int64} {x : Binary64} : m ≠ n → widen m = x → widen n = x → Parted (int m) (float x) (int n)
  | float {m n : Int64} {x : Binary64} : m ≠ n → widen m = x → widen n = x → Parted (float x) (int m) (int n)

/-- An integer and the number nearest to it compare alike with everything but the other integers that this number is
nearest to. -/
theorem compare_int_eq_iff : (int m).compare c = (float (widen m)).compare c ↔
    ¬ ∃ n, c = int n ∧ m ≠ n ∧ widen m = widen n := by
  have hplace : coarse (int m) (float (widen m)) = .eq := coarse_int_eq_iff.mpr (.inr rfl)
  have hcoarse : coarse (int m) c = coarse (float (widen m)) c := Std.TransCmp.congr_left hplace
  have hfloat : fine (float (widen m)) c = .eq := by cases c <;> rfl
  rw [compare_eq_then, compare_eq_then (float _), ← hcoarse, hfloat, Ordering.then_eq]
  cases c with
  | int n =>
    have hsame : coarse (int m) (int n) = .eq ↔ widen m = widen n := by
      simp [coarse_int_eq_iff]
    have hfine : fine (int m) (int n) = .eq ↔ m = n := Int.compare_eq_eq.trans Int64.toInt_inj
    by_cases hwiden : widen m = widen n
    · rw [hsame.mpr hwiden, Ordering.eq_then, hfine]
      simp [hwiden]
    · cases hc : coarse (int m) (int n) with
      | eq => exact absurd (hsame.mp hc) hwiden
      | _ => simp [hwiden]
  | _ => simp [fine]

/-- Values that compare equal compare alike with a third, unless it parts them. -/
theorem compare_eq_compare_iff (h : a.compare b = .eq) : a.compare c = b.compare c ↔ ¬ Parted a b c := by
  rcases compare_eq_iff.mp h with rfl | ⟨m, ⟨rfl, rfl⟩ | ⟨rfl, rfl⟩⟩
  · exact ⟨fun _ => nofun, fun _ => rfl⟩
  · rw [compare_int_eq_iff]
    refine not_congr ⟨?_, ?_⟩
    · rintro ⟨n, rfl, hne, hwiden⟩
      exact .int hne rfl hwiden.symm
    · intro hparted
      cases hparted with
      | int hne _ hwiden => exact ⟨_, rfl, hne, hwiden.symm⟩
  · rw [eq_comm, compare_int_eq_iff]
    refine not_congr ⟨?_, ?_⟩
    · rintro ⟨n, rfl, hne, hwiden⟩
      exact .float hne rfl hwiden.symm
    · intro hparted
      cases hparted with
      | float hne _ hwiden => exact ⟨_, rfl, hne, hwiden.symm⟩

end Laws

/-- Comparing is reflexive and turns round. It is transitive but for two integers out of order with the number nearest
to both between them, and values that compare equal compare alike with every third value but an integer that is told
from one of them and not from the other. Both need integers that one number is nearest to, and one of two such integers
has more than 53 bits. -/
theorem compare_laws (a b c : Value) :
    a.compare a = .eq ∧ b.compare a = (a.compare b).swap ∧
    (a.compare b ≠ .gt → b.compare c ≠ .gt → (a.compare c ≠ .gt ↔ ¬ Torn a b c)) ∧
    (a.compare b = .eq → (a.compare c = b.compare c ↔ ¬ Parted a b c)) ∧
    ∀ m n : Int64, m ≠ n → widen m = widen n → 2 ^ 53 < m.toInt.natAbs ∨ 2 ^ 53 < n.toInt.natAbs := by
  refine ⟨compare_eq_iff.mpr (.inl rfl), compare_swap a b, fun hab hbc => not_congr (compare_eq_gt_iff hab hbc),
    compare_eq_compare_iff, fun m n hne hwiden => ?_⟩
  by_contra hsmall
  rw [not_or, Nat.not_lt, Nat.not_lt] at hsmall
  exact hne (Int64.toInt_inj.mp ((Binary64.ofInt_inj hsmall.1 hsmall.2).mp hwiden))

/-- A property of floating-point numbers may store three values that go round in a circle. -/
theorem compare_laws_odd :
    let odd := int 9007199254740993
    let nearest := float (widen 9007199254740992)
    let even := int 9007199254740992
    (∀ value ∈ [odd, nearest, even], PropertyType.accepts .float value = true) ∧
      odd.compare nearest = .eq ∧ nearest.compare even = .eq ∧ even.compare odd = .lt ∧ Torn odd nearest even := by
  intro odd nearest even
  have hmeet : widen 9007199254740993 = widen 9007199254740992 := by decide +kernel
  have htorn : Torn odd nearest even := .mk (by decide) hmeet rfl
  have hodd : odd.compare nearest = .eq := compare_eq_iff.mpr (.inr ⟨_, .inl ⟨rfl, by rw [hmeet]⟩⟩)
  have heven : nearest.compare even = .eq := compare_eq_iff.mpr (.inr ⟨_, .inr ⟨rfl, rfl⟩⟩)
  obtain ⟨_, _, htrans, _⟩ := compare_laws odd nearest even
  have hgt : odd.compare even = .gt := by
    by_contra hne
    exact (htrans (by rw [hodd]; decide) (by rw [heven]; decide)).mp hne htorn
  exact ⟨by decide, hodd, heven, by rw [compare_swap odd even, hgt]; rfl, htorn⟩

end Value
end GraphQuery
