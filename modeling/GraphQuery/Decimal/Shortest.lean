import GraphQuery.Decimal.Binary64

/-!
# Shortest decimals that read back

A decimal `d * 10 ^ k` reads back as a finite number `x` when it lies between the midpoints of `x` and its neighbours;
the midpoints themselves belong to `x` when its significand is even. `Binary64.shortest` takes the coarsest power of
ten with such a multiple, and of two multiples the nearer one; what an exact tie does is left to the caller.
-/

namespace GraphQuery

/-- Which of two equally near decimals is taken. -/
inductive TieRule where
  /-- The one whose last digit is even. -/
  | toEven
  /-- The larger one. -/
  | up
deriving DecidableEq, Repr

namespace Binary64

/-- The absolute value of `x` and the midpoints around it, in quarters of the unit of the last place. -/
structure Interval where
  /-- Midpoint with the number below. -/
  low : Nat
  /-- The number itself. -/
  center : Nat
  /-- Midpoint with the number above. -/
  high : Nat
  /-- Whether the midpoints read back as the number. -/
  closed : Bool

/-- The interval of a finite number; below a power of two the neighbour is nearer by half. -/
def interval (x : Binary64) : Interval :=
  let m := x.significand
  let narrow := m = binade ∧ -1074 < x.unitExponent
  ⟨4 * m - (if narrow then 1 else 2), 4 * m, 4 * m + 2, m % 2 = 0⟩

/-- The multiple of `10 ^ k` that reads back as `x` and is nearest to it, if there is one. -/
def nearestMultiple (x : Binary64) (tie : TieRule) (k : Int) : Option Nat :=
  let i := x.interval
  let quarter := x.unitExponent - 2
  -- `d * 10 ^ k` against `c * 2 ^ quarter` is `d * grid` against `c * scale`
  let grid := Nat.pow 10 k.toNat * twoPow (-quarter).toNat
  let scale := Nat.pow 10 (-k).toNat * twoPow quarter.toNat
  let inside (d : Nat) : Bool :=
    if i.closed then i.low * scale ≤ d * grid && d * grid ≤ i.high * scale
    else i.low * scale < d * grid && d * grid < i.high * scale
  let below := i.center * scale / grid
  let above := below + 1
  match decide (0 < below) && inside below, inside above with
  | false, false => none
  | true, false => some below
  | false, true => some above
  | true, true =>
    let down := i.center * scale - below * grid
    let up := above * grid - i.center * scale
    if down < up then some below
    else if up < down then some above
    else match tie with
      | .up => some above
      | .toEven => some (if below % 2 = 0 then below else above)

/-- A power of ten at or above the leading digit of a positive finite number. -/
def topExponent (x : Binary64) : Int :=
  (x.significand.log2 + x.unitExponent + 1) * 30103 / 100000 + 1

/-- The digits `d` and the exponent `k` of the shortest decimal `d * 10 ^ k` that reads back as the absolute value of
a finite number other than zero. -/
def shortest (x : Binary64) (tie : TieRule) : Nat × Int :=
  let attempt (i : Nat) : Option (Nat × Int) :=
    let k := x.topExponent - i
    (x.nearestMultiple tie k).map (·, k)
  ((List.range 24).findSome? attempt).getD (0, 0)

end Binary64

end GraphQuery
