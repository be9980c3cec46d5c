/-!
# Decimal — Finite binary numbers

A binary format keeps the numbers `n · 2^(-lowest)` whose significand fits `precision` bits.  Such
a number is represented by the integer `n`, so that comparing two of them compares integers.

* `Format.round`: the nearest number of the format to a quotient of naturals, ties to even.
* `Format.ofDecimal?`: the same for a decimal `m · 10^e`; none if it is too large for the format.
-/

namespace Inspection.Decimal

/-- A binary format. -/
structure Format where
  /-- How many bits a significand has. -/
  precision : Nat
  /-- The least positive number is `2^(-lowest)`. -/
  lowest : Nat
  /-- Every number is below `2^top`. -/
  top : Nat
deriving DecidableEq, Repr

/-- Numbers of 64 bits. -/
def binary64 : Format := ⟨53, 1074, 1024⟩

/-- Numbers of 32 bits. -/
def binary32 : Format := ⟨24, 149, 128⟩

/-- The integer nearest to `num / den`; halfway between two, the even one. -/
def nearest (num den : Nat) : Nat :=
  let below := num / den
  let rest := num % den
  if 2 * rest < den then below
  else if den < 2 * rest then below + 1
  else if below % 2 = 0 then below else below + 1

/-- How many binary digits `n` has. -/
def bitLength (n : Nat) : Nat := if n = 0 then 0 else n.log2 + 1

namespace Format

/-- The distance of `n` units to the next number above. -/
def spacing (f : Format) (n : Nat) : Nat := Nat.pow 2 (bitLength n - f.precision)

/-- The number nearest to `num / den` units. -/
def round (f : Format) (num den : Nat) : Nat :=
  let step := f.spacing (num / den)
  nearest num (den * step) * step

/-- So many units are more than the format holds. -/
def overflows (f : Format) (units : Nat) : Bool := Nat.pow 2 (f.top + f.lowest) ≤ units

/-- The units of the number nearest to `m · 10^e`.  Exponents far outside the format are settled
by the count of digits, so that no power larger than the format's own is ever taken. -/
def ofDecimal? (f : Format) (m : Nat) (e : Int) : Option Nat :=
  let size : Int := (Nat.toDigits 10 m).length + e
  if m = 0 then some 0
  else if (f.top : Int) < size then none
  else if size < -(f.lowest : Int) then some 0
  else
    let units :=
      f.round (m * Nat.pow 10 e.toNat * Nat.pow 2 f.lowest) (Nat.pow 10 (-e).toNat)
    if f.overflows units then none else some units

end Format

end Inspection.Decimal
