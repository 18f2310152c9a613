import GraphQuery.Decimal.Shortest

/-!
# Written forms of floating-point numbers

A `FloatLayout` says how the shortest digits of a number are laid out: for which exponents of the leading digit the
point is placed among the digits, how a scientific exponent is signed, and which digits an exact tie gives.
-/

namespace GraphQuery

/-- The layout of the text of a number. -/
structure FloatLayout where
  /-- Least exponent of the leading digit that is written without an exponent. -/
  minPositional : Int
  /-- Greatest exponent of the leading digit that is written without an exponent. -/
  maxPositional : Int
  /-- Whether a positive exponent carries a `+`. -/
  plusSign : Bool
  /-- The digits of an exact tie. -/
  tie : TieRule

namespace FloatLayout

/-- Numbers in JSON text: `0.00001` and `1000000000000000.0` are positional, `1e-6` and `1e+16` are not. -/
def json : FloatLayout := ⟨-5, 15, true, .toEven⟩

/-- Numbers in diagnostics: `0.0001` and `1000000000000000.0` are positional, `1e-5` and `1e16` are not. -/
def diagnostic : FloatLayout := ⟨-4, 15, false, .up⟩

/-- The decimal digits of a natural. -/
def digits (n : Nat) : List Char := Nat.toDigits 10 n

/-- The text of an exponent. -/
def exponentText (layout : FloatLayout) (e : Int) : List Char :=
  if e < 0 then '-' :: digits e.natAbs
  else if layout.plusSign then '+' :: digits e.natAbs
  else digits e.natAbs

/-- The text of `d * 10 ^ k` without a sign; a positional text has a digit on both sides of the point. -/
def decimalText (layout : FloatLayout) (d : Nat) (k : Int) : List Char :=
  let ds := digits d
  let leading : Int := k + ds.length - 1
  if layout.minPositional ≤ leading ∧ leading ≤ layout.maxPositional then
    if 0 ≤ k then ds ++ List.replicate k.toNat '0' ++ ['.', '0']
    else if 0 ≤ leading then ds.take (leading.toNat + 1) ++ '.' :: ds.drop (leading.toNat + 1)
    else '0' :: '.' :: List.replicate (-leading - 1).toNat '0' ++ ds
  else
    let mantissa := match ds with
      | d₀ :: d₁ :: rest => d₀ :: '.' :: d₁ :: rest
      | short => short
    mantissa ++ 'e' :: layout.exponentText leading

/-- The text of a finite number; zeros keep their sign. -/
def text (layout : FloatLayout) (x : Binary64) : List Char :=
  let body :=
    if x.isZero then ['0', '.', '0']
    else
      let (d, k) := x.shortest layout.tie
      layout.decimalText d k
  if x.negative then '-' :: body else body

end FloatLayout

/-- The text of any number in diagnostics. -/
def Binary64.diagnosticText (x : Binary64) : String :=
  if x.isNaN then "NaN"
  else if x.isFinite then String.ofList (FloatLayout.diagnostic.text x)
  else if x.negative then "-inf"
  else "inf"

end GraphQuery
