import Inspection.Decimal.Reader
import Inspection.Decimal.Shortest

/-!
# Decimal — Writing numbers

The digits of a number are laid out with a point, or with an exponent when a layout sets a limit
to positional notation and the number is outside it.

* `Layout.write`: the text of a reading.
* `plain`: never an exponent, and no point in a whole number.
* `pointed`: a point or an exponent in every finite number.
-/

namespace Inspection.Decimal

/-- The decisions of an output format about numbers. -/
structure Layout where
  /-- The places before the point for which notation is positional: from the first to the second;
  none if it always is. -/
  positional : Option (Int × Int)
  /-- Which digits a number has that lies in the middle of two numerals. -/
  tie : Tie
  /-- Whole numbers end in `.0`. -/
  pointZero : Bool
  infinite : String
  negativeInfinite : String
  nan : String

/-- Positional throughout, a whole number without a point. -/
def plain : Layout where
  positional := none
  tie := .upward
  pointZero := false
  infinite := "inf"
  negativeInfinite := "-inf"
  nan := "NaN"

/-- A point or an exponent in every finite number; an exponent from `1e16` up and below `1e-5`. -/
def pointed : Layout where
  positional := some (-4, 16)
  tie := .toEven
  pointZero := true
  infinite := ".inf"
  negativeInfinite := "-.inf"
  nan := ".nan"

namespace Layout

/-- The digits with a point after `places` of them; zeros fill what is missing. -/
def positionally (l : Layout) (ds : List Char) (places : Int) : List Char :=
  if (ds.length : Int) ≤ places then
    ds ++ List.replicate (places.toNat - ds.length) '0' ++ (if l.pointZero then ['.', '0'] else [])
  else if 0 < places then ds.take places.toNat ++ ['.'] ++ ds.drop places.toNat
  else ['0', '.'] ++ List.replicate (-places).toNat '0' ++ ds

/-- One digit before the point, and an exponent. -/
def scientifically (ds : List Char) (places : Int) : List Char :=
  ds.take 1 ++ (if ds.length ≤ 1 then [] else '.' :: ds.drop 1) ++ ['e']
    ++ Text.signedDigits (places - 1)

/-- The text of a positive number in its chosen digits. -/
def writeDigits (l : Layout) (d : Digits) : List Char :=
  let ds := Text.digits d.digits
  let places := ds.length + d.exponent
  match l.positional with
  | none => l.positionally ds places
  | some (low, high) =>
    if low ≤ places ∧ places ≤ high then l.positionally ds places else scientifically ds places

/-- The text of a number of the format. -/
def write (l : Layout) (f : Format) : Reading → String
  | .nan => l.nan
  | .infinite false => l.infinite
  | .infinite true => l.negativeInfinite
  | .finite negative units =>
    let unsigned :=
      if units = 0 then '0' :: (if l.pointZero then ['.', '0'] else [])
      else l.writeDigits (f.shortest l.tie units)
    String.ofList (if negative then '-' :: unsigned else unsigned)

end Layout

end Inspection.Decimal
