import Inspection.Decimal.Binary
import Inspection.Text.Numeral

/-!
# Decimal — The fewest digits that read back

A positive number of a format is written with the fewest decimal digits that no other number of
the format is nearer to; among numerals of that length with the nearest one, and of two that are
equally near with the one that a rule for ties names.

* `Format.readsBack`: a numeral lies among the reals that round to a number.
* `Format.shortest`: the numeral chosen for a number.
-/

namespace Inspection.Decimal

/-- `digits · 10^exponent`. -/
structure Digits where
  digits : Nat
  exponent : Int
deriving DecidableEq, Repr

/-- Which of two neighbouring numerals is chosen when both are equally near. -/
inductive Tie where
  | upward
  | toEven
deriving DecidableEq, Repr

namespace Format

/-- `d · 10^e`, as a numerator and a denominator in quarters of a unit. -/
def quarters (f : Format) (d : Digits) : Nat × Nat :=
  (d.digits * Nat.pow 10 d.exponent.toNat * Nat.pow 2 (f.lowest + 2),
    Nat.pow 10 (-d.exponent).toNat)

/-- Below this number the neighbours are nearer than above it: its significand is a power of two
and its spacing is not the least one. -/
def narrowBelow (f : Format) (units : Nat) : Bool :=
  1 < f.spacing units && units == f.spacing units * Nat.pow 2 (f.precision - 1)

/-- The numeral lies among the reals that round to so many units: no farther than halfway to the
neighbours, the ends included when the significand is even. -/
def readsBack (f : Format) (units : Nat) (d : Digits) : Bool :=
  let step := f.spacing units
  let low := 4 * units - (if f.narrowBelow units then step else 2 * step)
  let high := 4 * units + 2 * step
  let (num, den) := f.quarters d
  if units / step % 2 = 0 then low * den ≤ num && num ≤ high * den
  else low * den < num && num < high * den

/-- The value of so many units is below `10^e`, and not below `10^(e-1)`. -/
def magnitude (f : Format) (units : Nat) : Int :=
  (Nat.toDigits 10 (units * Nat.pow 5 f.lowest)).length - f.lowest

/-- The largest multiple of `10^k` that the value does not exceed. -/
def floorAt (f : Format) (units : Nat) (k : Int) : Nat :=
  units * Nat.pow 10 (-k).toNat / (Nat.pow 2 f.lowest * Nat.pow 10 k.toNat)

/-- Of the two multiples of `10^k` around the value those that read back, the nearer one first; of
two that are equally near, the one that the rule for ties names. -/
def hitAt (f : Format) (tie : Tie) (units : Nat) (k : Int) : Option Digits :=
  let below : Digits := ⟨f.floorAt units k, k⟩
  let above : Digits := ⟨f.floorAt units k + 1, k⟩
  match f.readsBack units below, f.readsBack units above with
  | false, false => none
  | true, false => some below
  | false, true => some above
  | true, true =>
    let (numBelow, den) := f.quarters below
    let (numAbove, _) := f.quarters above
    let middle := numBelow + numAbove
    let isBelow := 8 * units * den < middle
      || (8 * units * den == middle && tie = .toEven && below.digits % 2 = 0)
    if isBelow then some below else some above

/-- The exact value of so many units. -/
def exact (f : Format) (units : Nat) : Digits := ⟨units * Nat.pow 5 f.lowest, -f.lowest⟩

/-- Without the zeros at the end of the digits. -/
def strip : Nat → Digits → Digits
  | 0, d => d
  | fuel + 1, d =>
    if d.digits ≠ 0 ∧ d.digits % 10 = 0 then strip fuel ⟨d.digits / 10, d.exponent + 1⟩ else d

/-- The numeral chosen for a positive number of units. -/
def shortest (f : Format) (tie : Tie) (units : Nat) : Digits :=
  let top := f.magnitude units
  let found := (List.range f.precision).findSome? fun n => f.hitAt tie units (top - (n + 1 : Nat))
  let d := found.getD (f.exact units)
  strip d.digits d

end Format

end Inspection.Decimal
