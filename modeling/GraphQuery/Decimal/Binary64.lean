/-!
# Binary floating-point numbers of 64 bits

A `Binary64` is kept as its sign and its magnitude, the 63 bits below the sign read as a number. Magnitudes grow with
the absolute value, so comparing numbers is comparing magnitudes, and rounding a ratio is one division.

* `Binary64.ofRatio` rounds a quotient of naturals to the nearest number, ties to the even neighbour;
* `Binary64.significand` and `Binary64.unitExponent` read a finite number back as `m * 2 ^ q`;
* `Binary64.totalCompare` orders all numbers, the infinities and the NaNs included.
-/

namespace GraphQuery

/-- A floating-point number of the 64-bit binary format: its sign, and the 63 bits below the sign. -/
structure Binary64 where
  /-- Whether the sign bit is set. -/
  negative : Bool
  /-- Exponent field and fraction field together, read as one number. -/
  magnitude : Fin 0x8000000000000000
deriving DecidableEq, Repr, Inhabited

namespace Binary64

/-! ## Parts of a number -/

/-- The magnitude of the infinities; a finite number lies below it and a NaN above it. -/
def infinityMagnitude : Nat := 0x7FF0000000000000

/-- Positive zero. -/
def zero : Binary64 := ⟨false, 0⟩

/-- The infinity of the given sign. -/
def infinity (negative : Bool) : Binary64 := ⟨negative, ⟨infinityMagnitude, by decide⟩⟩

/-- The quiet NaN with an empty payload. -/
def nan : Binary64 := ⟨false, ⟨0x7FF8000000000000, by decide⟩⟩

/-- Neither an infinity nor a NaN. -/
def isFinite (x : Binary64) : Bool := x.magnitude < infinityMagnitude

/-- Not a number. -/
def isNaN (x : Binary64) : Bool := infinityMagnitude < x.magnitude

/-- A zero of either sign. -/
def isZero (x : Binary64) : Bool := x.magnitude.val = 0

/-- The same number with the sign turned. -/
def neg (x : Binary64) : Binary64 := { x with negative := !x.negative }

/-- The number whose 64 bits are those of `bits`. -/
def ofBits (bits : UInt64) : Binary64 :=
  ⟨0x8000000000000000 ≤ bits.toNat, ⟨bits.toNat % 0x8000000000000000, Nat.mod_lt _ (by decide)⟩⟩

/-- The number of magnitudes from one power of two to the next. -/
abbrev binade : Nat := 0x10000000000000

/-- The integer `m` of a finite number `± m * 2 ^ q`. -/
def significand (x : Binary64) : Nat :=
  if x.magnitude.val < binade then x.magnitude.val else x.magnitude.val % binade + binade

/-- The exponent `q` of a finite number `± m * 2 ^ q`. -/
def unitExponent (x : Binary64) : Int :=
  if x.magnitude.val < binade then -1074 else (x.magnitude.val / binade : Nat) - 1075

/-! ## Rounding -/

/-- A power of two. -/
abbrev twoPow (e : Nat) : Nat := Nat.pow 2 e

/-- The quotient of two naturals rounded to the nearest natural; a half goes to the even neighbour. -/
def roundHalfEven (num den : Nat) : Nat :=
  let quotient := num / den
  let remainder := num % den
  if 2 * remainder < den then quotient
  else if 2 * remainder = den then quotient + quotient % 2
  else quotient + 1

/-- Whether `num / den` lies below `2 ^ e`. -/
def belowPowerOfTwo (num den : Nat) (e : Int) : Bool :=
  num * twoPow (-e).toNat < den * twoPow e.toNat

/-- The exponent `e` with `2 ^ e ≤ num / den < 2 ^ (e + 1)`, for positive arguments. -/
def floorLog2Ratio (num den : Nat) : Int :=
  let e : Int := (num.log2 : Int) - den.log2
  if belowPowerOfTwo num den e then e - 1 else e

/-- The magnitude nearest to `num / den`: the ratio is counted in units of the last place, which is `2 ^ (-1074)` at
least, and a count that fills the next binade carries into the exponent by itself. -/
def magnitudeOfRatio (num den : Nat) : Nat :=
  if num = 0 then 0
  else
    let unit := max (floorLog2Ratio num den - 52) (-1074)
    let count := roundHalfEven (num * twoPow (-unit).toNat) (den * twoPow unit.toNat)
    min ((unit + 1074).toNat * binade + count) infinityMagnitude

theorem magnitudeOfRatio_le (num den : Nat) : magnitudeOfRatio num den ≤ infinityMagnitude := by
  unfold magnitudeOfRatio
  split
  · exact Nat.zero_le _
  · exact Nat.min_le_right _ _

/-- The number of the given sign nearest to `num / den`, ties to even; too large a ratio gives the infinity. -/
def ofRatio (negative : Bool) (num den : Nat) : Binary64 :=
  ⟨negative, ⟨magnitudeOfRatio num den, Nat.lt_of_le_of_lt (magnitudeOfRatio_le num den) (by decide)⟩⟩

/-- The number nearest to an integer, ties to even. -/
def ofInt (n : Int) : Binary64 := ofRatio (n < 0) n.natAbs 1

/-- The product of two finite numbers, rounded once. -/
def mul (x y : Binary64) : Binary64 :=
  let exponent := x.unitExponent + y.unitExponent
  ofRatio (x.negative != y.negative) (x.significand * y.significand * twoPow exponent.toNat)
    (twoPow (-exponent).toNat)

/-- The quotient of two finite numbers, the second not zero, rounded once. -/
def div (x y : Binary64) : Binary64 :=
  let exponent := x.unitExponent - y.unitExponent
  ofRatio (x.negative != y.negative) (x.significand * twoPow exponent.toNat)
    (y.significand * twoPow (-exponent).toNat)

/-! ## Order -/

/-- An integer that grows along the total order of all numbers: negative ones below positive ones, and the zeros
apart. -/
def orderKey (x : Binary64) : Int := if x.negative then -(x.magnitude.val : Int) - 1 else x.magnitude.val

/-- The total order of the 64-bit format: `-NaN < -∞ < … < -0 < +0 < … < +∞ < +NaN`. -/
def totalCompare (x y : Binary64) : Ordering := compare x.orderKey y.orderKey

theorem orderKey_injective {x y : Binary64} (h : x.orderKey = y.orderKey) : x = y := by
  obtain ⟨sx, mx⟩ := x
  obtain ⟨sy, my⟩ := y
  cases sx <;> cases sy <;> simp only [orderKey] at h <;> simp only [mk.injEq, Fin.ext_iff] <;> simp at h ⊢ <;> omega

end Binary64

end GraphQuery
