import GraphQuery.Decimal.Binary64

/-!
# Reading decimal numerals

A numeral without a point and an exponent is an integer when it fits 64 bits, with or without a sign; every other one
is a floating-point number. The digits of the latter are gathered into a 64-bit significand, which is rounded to a
number and then scaled by a power of ten, each step rounded once.

* `Numeral.scan` reads a numeral off the front of a text;
* `Numeral.scale` is the scaling step.
-/

namespace GraphQuery

/-- What a numeral denotes. -/
inductive Numeral where
  /-- An integer from `-2 ^ 63` to `2 ^ 64 - 1`. -/
  | integer (n : Int)
  /-- A finite floating-point number. -/
  | float (x : Binary64)
deriving DecidableEq, Repr

namespace Numeral

/-- The largest significand. -/
def maxSignificand : Nat := 0xFFFFFFFFFFFFFFFF

/-- The value of a decimal digit. -/
def digitValue (c : Char) : Nat := c.toNat - '0'.toNat

/-- The decimal digits at the front of a text, and the rest. -/
def spanDigits (text : List Char) : List Char × List Char := text.span Char.isDigit

/-- Appends digits to a significand while it fits; the digits that no longer fit are returned. -/
def gather : Nat → List Char → Nat × List Char
  | significand, [] => (significand, [])
  | significand, c :: rest =>
    let next := significand * 10 + digitValue c
    if next ≤ maxSignificand then gather next rest else (significand, c :: rest)

/-- The number nearest to `10 ^ e`, for `e` up to 308. -/
def powerOfTen (e : Nat) : Binary64 := Binary64.ofRatio false (Nat.pow 10 e) 1

/-- Multiplies by `10 ^ exponent`, in steps of `10 ^ 308` at most; `none` when the result is too large. Three steps
take every 64-bit significand to zero. -/
def scale : Nat → Binary64 → Int → Option Binary64
  | steps, x, exponent =>
    if exponent.natAbs ≤ 308 then
      if 0 ≤ exponent then
        let y := x.mul (powerOfTen exponent.natAbs)
        if y.isFinite then some y else none
      else some (x.div (powerOfTen exponent.natAbs))
    else if x.isZero then some x
    else if 0 ≤ exponent then none
    else match steps with
      | 0 => some Binary64.zero
      | steps + 1 => scale steps (x.div (powerOfTen 308)) (exponent + 308)

/-- The number `± significand * 10 ^ exponent`. -/
def ofParts (negative : Bool) (significand : Nat) (exponent : Int) : Option Numeral :=
  (scale 3 (Binary64.ofInt significand) exponent).map fun x => .float { x with negative }

/-- Reads an optional exponent: the mark, a sign and one digit at least. -/
def scanExponent : List Char → Option (Option Int × List Char)
  | [] => some (none, [])
  | c :: rest =>
    if c = 'e' ∨ c = 'E' then
      let (negative, unsigned) := match rest with
        | '+' :: r => (false, r)
        | '-' :: r => (true, r)
        | r => (false, r)
      match spanDigits unsigned with
      | ([], _) => none
      | (ds, after) =>
        let e : Int := ds.foldl (fun n d => n * 10 + digitValue d) 0
        some (some (if negative then -e else e), after)
    else some (none, c :: rest)

/-- Reads an optional fraction: the point and one digit at least. -/
def scanFraction : List Char → Option (Option (List Char) × List Char)
  | '.' :: rest =>
    match spanDigits rest with
    | ([], _) => none
    | (ds, after) => some (some ds, after)
  | rest => some (none, rest)

/-- The integer part: a lone zero, or digits that do not start with one. -/
def scanInteger (text : List Char) : Option (List Char × List Char) :=
  match spanDigits text with
  | ([], _) => none
  | ('0' :: _ :: _, _) => none
  | (ds, rest) => some (ds, rest)

/-- An integer numeral: within 64 bits, and not the negative zero. -/
def integer? (negative : Bool) (significand : Nat) : Option Numeral :=
  if !negative then some (.integer significand)
  else if significand = 0 ∨ 0x8000000000000000 < significand then none
  else some (.integer (-significand))

/-- Reads a numeral off the front of a text. -/
def scan (text : List Char) : Option (Numeral × List Char) := do
  let (negative, unsigned) := match text with
    | '-' :: rest => (true, rest)
    | rest => (false, rest)
  let (whole, rest) ← scanInteger unsigned
  let (fraction, rest) ← scanFraction rest
  let (exponent, rest) ← scanExponent rest
  let (significand, dropped) := gather 0 whole
  let plain := if fraction.isNone && exponent.isNone && dropped.isEmpty then integer? negative significand else none
  match plain with
  | some n => return (n, rest)
  | none =>
    let decimals := fraction.getD []
    let (significand, unread) := gather significand decimals
    let point : Int := (dropped.length : Int) - (decimals.length - unread.length : Nat)
    let x ← ofParts negative significand (point + exponent.getD 0)
    return (x, rest)

end Numeral

end GraphQuery
