import GraphQuery.Decimal.Binary64
import Mathlib.Algebra.Order.Ring.Nat
import Mathlib.Tactic.SplitIfs

/-!
# Rounding integers

Rounding an integer to the nearest floating-point number keeps the order of integers (`Binary64.orderKey_ofInt_le`), and
keeps integers of up to 53 bits apart (`Binary64.ofInt_inj`). Above that, neighbours may meet.
-/

namespace GraphQuery
namespace Binary64

/-! ## Counts of units -/

/-- Rounding quotients with one denominator keeps their order. -/
theorem roundHalfEven_le {a b den : Nat} (h : a ≤ b) : roundHalfEven a den ≤ roundHalfEven b den := by
  have hquotient : a / den ≤ b / den := Nat.div_le_div_right h
  unfold roundHalfEven
  rcases Nat.lt_or_eq_of_le hquotient with hlt | heq
  · simp only
    split_ifs <;> omega
  · -- of two ratios with one quotient the greater has the greater remainder
    have hremainder : a % den ≤ b % den := by
      have ha := Nat.div_add_mod a den
      have hb := Nat.div_add_mod b den
      rw [heq] at ha
      omega
    simp only [heq]
    split_ifs <;> omega

/-- An integer in units of its last place, of which there are 53 bits. -/
def unitsOf (n : Nat) : Nat := roundHalfEven (n * 2 ^ (52 - n.log2)) (2 ^ (n.log2 - 52))

/-- The magnitude of an integer: 52 bits of fraction below the exponent. -/
theorem magnitudeOfRatio_one {n : Nat} (hn : n ≠ 0) :
    magnitudeOfRatio n 1 = min ((n.log2 + 1022) * binade + unitsOf n) infinityMagnitude := by
  have hlog : floorLog2Ratio n 1 = n.log2 := by
    have hle : 2 ^ n.log2 ≤ n := Nat.log2_self_le hn
    have hone : Nat.log2 1 = 0 := by decide
    have hnot : belowPowerOfTwo n 1 n.log2 = false := by
      simpa [belowPowerOfTwo, twoPow] using hle
    simp [floorLog2Ratio, hone, hnot]
  have hunit : max ((n.log2 : Int) - 52) (-1074) = (n.log2 : Int) - 52 := by omega
  have hneg : (-((n.log2 : Int) - 52)).toNat = 52 - n.log2 := by omega
  have hpos : ((n.log2 : Int) - 52).toNat = n.log2 - 52 := by omega
  have hexponent : ((n.log2 : Int) - 52 + 1074).toNat = n.log2 + 1022 := by omega
  rw [magnitudeOfRatio, if_neg hn]
  simp only [hlog, hunit, hneg, hpos, hexponent, unitsOf, twoPow, Nat.one_mul]
  rfl

theorem unitsOf_small {n : Nat} (h : n.log2 ≤ 52) : unitsOf n = n * 2 ^ (52 - n.log2) := by
  have hzero : n.log2 - 52 = 0 := by omega
  rw [unitsOf, hzero, roundHalfEven]
  simp [Nat.mod_one]

/-- The leading bit of the units is set. -/
theorem binade_le_unitsOf {n : Nat} (hn : n ≠ 0) : binade ≤ unitsOf n := by
  have hle : 2 ^ n.log2 ≤ n := Nat.log2_self_le hn
  have hexact : roundHalfEven (binade * 2 ^ (n.log2 - 52)) (2 ^ (n.log2 - 52)) = binade := by
    simp [roundHalfEven]
  rw [← hexact, unitsOf]
  refine roundHalfEven_le ?_
  rcases Nat.le_total n.log2 52 with h | h
  · have hzero : n.log2 - 52 = 0 := by omega
    have hsum : n.log2 + (52 - n.log2) = 52 := by omega
    calc binade * 2 ^ (n.log2 - 52) = 2 ^ n.log2 * 2 ^ (52 - n.log2) := by rw [hzero, ← Nat.pow_add, hsum]; rfl
      _ ≤ n * 2 ^ (52 - n.log2) := Nat.mul_le_mul_right _ hle
  · have hzero : 52 - n.log2 = 0 := by omega
    have hsum : 52 + (n.log2 - 52) = n.log2 := by omega
    calc binade * 2 ^ (n.log2 - 52) = 2 ^ n.log2 := by rw [show binade = 2 ^ 52 from rfl, ← Nat.pow_add, hsum]
      _ ≤ n * 2 ^ (52 - n.log2) := by rw [hzero, Nat.pow_zero, Nat.mul_one]; exact hle

/-- Units fill the next binade at most. -/
theorem unitsOf_le (n : Nat) : unitsOf n ≤ 2 * binade := by
  have hlt : n < 2 ^ (n.log2 + 1) := Nat.lt_log2_self
  have hexact : roundHalfEven (2 * binade * 2 ^ (n.log2 - 52)) (2 ^ (n.log2 - 52)) = 2 * binade := by
    simp [roundHalfEven]
  rw [← hexact, unitsOf]
  refine roundHalfEven_le ?_
  rcases Nat.le_total n.log2 52 with h | h
  · have hzero : n.log2 - 52 = 0 := by omega
    have hsum : n.log2 + 1 + (52 - n.log2) = 53 := by omega
    calc n * 2 ^ (52 - n.log2) ≤ 2 ^ (n.log2 + 1) * 2 ^ (52 - n.log2) := Nat.mul_le_mul_right _ hlt.le
      _ = 2 * binade * 2 ^ (n.log2 - 52) := by rw [hzero, ← Nat.pow_add, hsum]; rfl
  · have hzero : 52 - n.log2 = 0 := by omega
    have hsum : 53 + (n.log2 - 52) = n.log2 + 1 := by omega
    calc n * 2 ^ (52 - n.log2) ≤ 2 ^ (n.log2 + 1) := by rw [hzero, Nat.pow_zero, Nat.mul_one]; exact hlt.le
      _ = 2 * binade * 2 ^ (n.log2 - 52) := by rw [show 2 * binade = 2 ^ 53 from rfl, ← Nat.pow_add, hsum]

/-! ## Magnitudes -/

theorem log2_le_log2 {a b : Nat} (ha : a ≠ 0) (h : a ≤ b) : a.log2 ≤ b.log2 := by
  have hle : 2 ^ a.log2 ≤ a := Nat.log2_self_le ha
  have hlt : b < 2 ^ (b.log2 + 1) := Nat.lt_log2_self
  exact Nat.lt_succ_iff.mp ((Nat.pow_lt_pow_iff_right (by decide)).mp (hle.trans_lt (h.trans_lt hlt)))

/-- The magnitude nearest to an integer grows with the integer. -/
theorem magnitudeOfRatio_one_le {a b : Nat} (h : a ≤ b) : magnitudeOfRatio a 1 ≤ magnitudeOfRatio b 1 := by
  by_cases ha : a = 0
  · rw [ha, magnitudeOfRatio, if_pos rfl]
    exact Nat.zero_le _
  have hb : b ≠ 0 := by omega
  rw [magnitudeOfRatio_one ha, magnitudeOfRatio_one hb]
  refine min_le_min_right _ ?_
  rcases Nat.lt_or_eq_of_le (log2_le_log2 ha h) with hlt | heq
  · -- the units of the smaller one reach the next binade at most, where those of the greater one begin
    have hsmall := unitsOf_le a
    have hlarge := binade_le_unitsOf hb
    have hexponent : (a.log2 + 1022) * binade + binade ≤ (b.log2 + 1022) * binade := by
      rw [← Nat.succ_mul]
      exact Nat.mul_le_mul_right _ (by omega)
    generalize binade = size at *
    omega
  · have hunits : unitsOf a ≤ unitsOf b := by
      rw [unitsOf, unitsOf, heq]
      exact roundHalfEven_le (Nat.mul_le_mul_right _ h)
    rw [heq]
    omega

/-- Different integers of up to 53 bits have different magnitudes. -/
theorem magnitudeOfRatio_one_lt {a b : Nat} (h : a < b) (hb : b ≤ 2 ^ 53) :
    magnitudeOfRatio a 1 < magnitudeOfRatio b 1 := by
  have hb0 : b ≠ 0 := by omega
  have hlogb : b.log2 ≤ 53 := Nat.lt_succ_iff.mp ((Nat.log2_lt hb0).mpr (by omega))
  have hfinite : (b.log2 + 1022) * binade + unitsOf b < infinityMagnitude := by
    have hexponent : (b.log2 + 1022) * binade ≤ 1075 * binade := Nat.mul_le_mul_right _ (by omega)
    calc (b.log2 + 1022) * binade + unitsOf b ≤ 1075 * binade + 2 * binade := Nat.add_le_add hexponent (unitsOf_le b)
      _ < infinityMagnitude := by decide
  rw [magnitudeOfRatio_one hb0, Nat.min_eq_left hfinite.le]
  have hlarge := binade_le_unitsOf hb0
  by_cases ha : a = 0
  · have hpos : 0 < binade := by decide
    rw [ha, magnitudeOfRatio, if_pos rfl]
    omega
  rw [magnitudeOfRatio_one ha]
  refine (Nat.min_le_left _ _).trans_lt ?_
  have hloga : a.log2 ≤ 52 := Nat.lt_succ_iff.mp ((Nat.log2_lt ha).mpr (by omega))
  have hpos : 0 < 2 ^ (52 - a.log2) := Nat.two_pow_pos _
  have hexact := unitsOf_small hloga
  rcases Nat.lt_or_eq_of_le (log2_le_log2 ha h.le) with hlt | heq
  · -- the smaller one is exact, so its units do not fill the binade
    have hroom : unitsOf a < 2 * binade := by
      have hsum : a.log2 + 1 + (52 - a.log2) = 53 := by omega
      have hlt : a < 2 ^ (a.log2 + 1) := Nat.lt_log2_self
      calc unitsOf a = a * 2 ^ (52 - a.log2) := hexact
        _ < 2 ^ (a.log2 + 1) * 2 ^ (52 - a.log2) := Nat.mul_lt_mul_of_pos_right hlt hpos
        _ = 2 * binade := by rw [← Nat.pow_add, hsum]; rfl
    have hexponent : (a.log2 + 1022) * binade + binade ≤ (b.log2 + 1022) * binade := by
      rw [← Nat.succ_mul]
      exact Nat.mul_le_mul_right _ (by omega)
    generalize binade = size at *
    omega
  · have hunits : unitsOf a < unitsOf b := by
      rw [hexact, unitsOf_small (heq ▸ hloga), ← heq]
      exact Nat.mul_lt_mul_of_pos_right h hpos
    rw [heq]
    omega

/-! ## Integers -/

theorem orderKey_ofInt (n : Int) : (ofInt n).orderKey =
    if n < 0 then -(magnitudeOfRatio n.natAbs 1 : Int) - 1 else magnitudeOfRatio n.natAbs 1 := by
  simp [ofInt, ofRatio, orderKey]

/-- Rounding keeps the order of integers. -/
theorem orderKey_ofInt_le {m n : Int} (h : m ≤ n) : (ofInt m).orderKey ≤ (ofInt n).orderKey := by
  rw [orderKey_ofInt, orderKey_ofInt]
  split <;> split
  · have hle : magnitudeOfRatio n.natAbs 1 ≤ magnitudeOfRatio m.natAbs 1 := magnitudeOfRatio_one_le (by omega)
    omega
  · omega
  · omega
  · have hle : magnitudeOfRatio m.natAbs 1 ≤ magnitudeOfRatio n.natAbs 1 := magnitudeOfRatio_one_le (by omega)
    omega

/-- Different integers of up to 53 bits are nearest to different numbers. -/
theorem ofInt_inj {m n : Int} (hm : m.natAbs ≤ 2 ^ 53) (hn : n.natAbs ≤ 2 ^ 53) : ofInt m = ofInt n ↔ m = n := by
  refine ⟨fun h => ?_, fun h => by rw [h]⟩
  have hkeys : (ofInt m).orderKey = (ofInt n).orderKey := by rw [h]
  rw [orderKey_ofInt, orderKey_ofInt] at hkeys
  have habs : m.natAbs = n.natAbs := by
    rcases Nat.lt_trichotomy m.natAbs n.natAbs with hlt | heq | hlt
    · have := magnitudeOfRatio_one_lt hlt hn
      split at hkeys <;> split at hkeys <;> omega
    · exact heq
    · have := magnitudeOfRatio_one_lt hlt hm
      split at hkeys <;> split at hkeys <;> omega
  split at hkeys <;> split at hkeys <;> omega

end Binary64
end GraphQuery
