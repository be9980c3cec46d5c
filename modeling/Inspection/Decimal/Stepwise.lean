import Inspection.Decimal.Binary

/-!
# Decimal — Scaling in steps

A reader that scales the digits of a numeral by powers of ten one after the other, and rounds after
each, may miss the nearest number by a little.  This one keeps what it scales in a significand of 64
bits.

* `Scaled.timesTenTo`: a number times a power of ten, a hundred, ten and one places at a time.
* `Format.ofDecimalStepwise?`: the number of a format that `m · 10^e` is read as.
-/

namespace Inspection.Decimal

/-- `significand · 2^exponent`. -/
structure Scaled where
  significand : Nat
  exponent : Int
deriving DecidableEq, Repr

namespace Scaled

/-- How many bits a significand has. -/
def precision : Nat := 64

/-- The number nearest to `num / den`, ties to even. -/
def ofQuotient (num den : Nat) : Scaled :=
  let scaled (e : Int) : Nat × Nat := (num * Nat.pow 2 (-e).toNat, den * Nat.pow 2 e.toNat)
  let low : Int := (bitLength num : Int) - bitLength den - precision
  let (n, d) := scaled low
  let e := if n / d < Nat.pow 2 precision then low else low + 1
  let (n, d) := scaled e
  ⟨nearest n d, e⟩

/-- The number nearest to a product. -/
def mul (a b : Scaled) : Scaled :=
  let p := ofQuotient (a.significand * b.significand) 1
  { p with exponent := p.exponent + a.exponent + b.exponent }

/-- The number nearest to `10^k`. -/
def tenTo (k : Int) : Scaled := ofQuotient (Nat.pow 10 k.toNat) (Nat.pow 10 (-k).toNat)

/-- The number times `10^e`: in steps of a hundred places, then of ten, then of one. -/
def timesTenTo (x : Scaled) (e : Int) : Scaled :=
  let steps (count places : Nat) (x : Scaled) : Scaled :=
    let factor := tenTo (if e < 0 then -(places : Int) else places)
    Nat.repeat (·.mul factor) count x
  let n := e.natAbs
  steps (n % 10) 1 (steps (n % 100 / 10) 10 (steps (n / 100) 100 x))

/-- The units of the nearest number of a format; none if the number is above the largest one. -/
def units? (f : Format) (x : Scaled) : Option Nat :=
  let e := x.exponent + f.lowest
  let num := x.significand * Nat.pow 2 e.toNat
  let den := Nat.pow 2 (-e).toNat
  let largest := Nat.pow 2 (f.top + f.lowest) - Nat.pow 2 (f.top + f.lowest - f.precision)
  if den * largest < num then none else some (f.round num den)

end Scaled

/-- Below this bound a natural number has room for one more digit in 64 bits. -/
def digitRoom : Nat := (0x10000000000000000 - 10) / 10

/-- The number that digits make behind those of `n`, as long as there is room for them, and how many
are left over. -/
def takeDigits : Nat → List Char → Nat × Nat
  | n, [] => (n, 0)
  | n, c :: s =>
    if n < digitRoom then takeDigits (n * 10 + (c.toNat - '0'.toNat)) s else (n, s.length + 1)

/-- `n · 10^e` with the exponent nearer to zero, if `n` stays an integer with room for a digit. -/
def towardZero : Nat → Nat → Int → Nat × Int
  | 0, n, e => (n, e)
  | fuel + 1, n, e =>
    if 0 < e ∧ n ≤ digitRoom then towardZero fuel (n * 10) (e - 1)
    else if e < 0 ∧ n % 10 = 0 then towardZero fuel (n / 10) (e + 1)
    else (n, e)

/-- No format has a number that needs an exponent beyond this. -/
def exponentBound : Int := 20000

/-- The units of the number that `m · 10^e` is read as; none if it is too large for the format. -/
def Format.ofDecimalStepwise? (f : Format) (m : Nat) (e : Int) : Option Nat :=
  if m = 0 then some 0
  else
    let (n, left) := takeDigits 0 (Nat.toDigits 10 m)
    let e := max (-exponentBound) (min exponentBound (e + left))
    let (n, e) := towardZero Scaled.precision n e
    if e = 0 then some (f.round (n * Nat.pow 2 f.lowest) 1)
    else ((Scaled.ofQuotient n 1).timesTenTo e).units? f

end Inspection.Decimal
