import Inspection.Decimal.Binary
import Inspection.Text.Split
import Inspection.Text.Numeral

/-!
# Decimal — Reading numbers

A decimal numeral is an optional sign, digits with an optional point among, before or after them,
and an optional exponent.  The words `inf`, `infinity` and `nan` are read in any case.  No blank,
separator or other base is accepted.

* `Numeral.ofChars?`: the sign, digits and exponent of a text.
* `Reading.ofChars?`: the number of a format that the text denotes.
-/

namespace Inspection.Decimal

/-- `digits · 10^exponent` with a sign. -/
structure Numeral where
  negative : Bool
  digits : Nat
  exponent : Int
deriving DecidableEq, Repr

/-- What a text denotes as a number. -/
inductive Reading where
  | finite (negative : Bool) (units : Nat)
  | infinite (negative : Bool)
  | nan
deriving DecidableEq, Repr

/-- Whether a minus sign stands in front, and the rest. -/
def splitSign : List Char → Bool × List Char
  | '-' :: s => (true, s)
  | '+' :: s => (false, s)
  | s => (false, s)

/-- The exponent after its mark. -/
def exponent? (s : List Char) : Option Int :=
  let (negative, unsigned) := splitSign s
  (Text.ofDigits? unsigned).map fun n => if negative then -(n : Int) else n

/-- The digits before and after the point, of which there is one at least. -/
def significand? (s : List Char) : Option (List Char × List Char) :=
  let (whole, fraction) := (Text.splitFirst? (· == '.') s).getD (s, [])
  if whole.all Char.isDigit && fraction.all Char.isDigit && !(whole ++ fraction).isEmpty then
    some (whole, fraction)
  else none

/-- The numeral without its sign. -/
def Numeral.ofUnsigned? (negative : Bool) (s : List Char) : Option Numeral := do
  let (mantissa, exponent) ← match Text.splitFirst? (fun c => c == 'e' || c == 'E') s with
    | none => some (s, (0 : Int))
    | some (before, after) => (exponent? after).map fun e => (before, e)
  let (whole, fraction) ← significand? mantissa
  some ⟨negative, Nat.ofDigitChars 10 (whole ++ fraction) 0, exponent - fraction.length⟩

/-- The numeral that a text writes. -/
def Numeral.ofChars? (s : List Char) : Option Numeral :=
  let (negative, unsigned) := splitSign s
  Numeral.ofUnsigned? negative unsigned

/-- A word in any ASCII case. -/
def isWord (word : String) (s : List Char) : Bool := s.map Char.toLower == word.toList

/-- The number of the format that the text denotes. -/
def Reading.ofChars? (f : Format) (s : List Char) : Option Reading :=
  let (negative, unsigned) := splitSign s
  if isWord "inf" unsigned || isWord "infinity" unsigned then some (.infinite negative)
  else if isWord "nan" unsigned then some .nan
  else (Numeral.ofUnsigned? negative unsigned).map fun n =>
    match f.ofDecimal? n.digits n.exponent with
    | some units => .finite negative units
    | none => .infinite negative

/-- The units of a finite number, with their sign. -/
def Reading.value? : Reading → Option Int
  | .finite negative units => some (if negative then -(units : Int) else units)
  | _ => none

end Inspection.Decimal
