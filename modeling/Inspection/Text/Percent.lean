import Inspection.Text.Numeral
import Inspection.Text.Octets
import Inspection.Text.Split

/-!
# Text — Percent escapes

Part of a url may be any octets: one that is no plain character is written as `%` and two digits of
base sixteen.  A `%` without two digits behind it stands for itself.

* `percentOctets`: the octets that a text with escapes stands for.
* `assignments`: the names and values of a text such as `a=1&b=2`, as they are written.
-/

namespace Inspection.Text

/-- The octets that a text with escapes stands for. -/
def percentOctets : List Char → List UInt8
  | [] => []
  | '%' :: a :: b :: s =>
    match ofBaseDigits? 16 [a, b] with
    | some n => UInt8.ofNat n :: percentOctets s
    | none => encode "%" ++ percentOctets (a :: b :: s)
  | c :: s => encode (String.singleton c) ++ percentOctets s

/-- The names and values of a text such as `a=1&b=2`; what has no `=` has no value. -/
def assignments (s : List Char) : List (List Char × List Char) :=
  ((splitAll (· == '&') s).filter (!·.isEmpty)).map fun piece =>
    (splitFirst? (· == '=') piece).getD (piece, [])

/-- The text of a name or value of a form, where a plus sign stands for a space. -/
def formText (s : List Char) : String :=
  readLossy (percentOctets (s.map fun c => if c == '+' then ' ' else c))

end Inspection.Text
