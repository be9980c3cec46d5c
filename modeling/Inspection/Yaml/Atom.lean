import Inspection.Decimal.Layout
import Inspection.Text.Numeral

/-!
# Yaml — What a plain text stands for

A plain scalar is an empty value, a truth value, a number or a text, by its spelling alone.
Integers have an optional sign and may be written in base two, eight or sixteen; digits with zeros
in front are a text.

* `Atom.ofPlain`: what a plain scalar stands for.
-/

namespace Inspection.Yaml

/-- What a plain scalar stands for. -/
inductive Atom where
  | null
  | bool (b : Bool)
  | integer (i : Int)
  | float (r : Decimal.Reading)
  | text
deriving DecidableEq, Repr

namespace Atom

/-- The spellings of an empty value. -/
def nulls : List String := ["null", "Null", "NULL", "~"]

/-- The truth value that a text spells. -/
def bool? (s : String) : Option Bool :=
  if ["true", "True", "TRUE"].contains s then some true
  else if ["false", "False", "FALSE"].contains s then some false
  else none

/-- Digits with a zero in front, after an optional sign. -/
def isZeroPadded (s : List Char) : Bool :=
  let unsigned := (Decimal.splitSign s).2
  1 < unsigned.length && unsigned.head? == some '0' && unsigned.all Char.isDigit

/-- The number after the mark of a base, or in plain digits. -/
def natural? (s : List Char) : Option Nat :=
  match s with
  | '0' :: 'x' :: rest => Text.ofBaseDigits? 16 rest
  | '0' :: 'o' :: rest => Text.ofBaseDigits? 8 rest
  | '0' :: 'b' :: rest => Text.ofBaseDigits? 2 rest
  | _ => Text.ofDigits? s

/-- One more than the largest integer of 128 bits. -/
def integerBound : Nat := 0x80000000000000000000000000000000

/-- An integer of at most 128 bits; a positive one needs no bit for its sign. -/
def integer? (s : List Char) : Option Int :=
  if isZeroPadded s then none
  else match s with
    | '-' :: rest => ((natural? rest).filter (· ≤ integerBound)).map fun n => -(n : Int)
    | '+' :: rest => ((natural? rest).filter (· < 2 * integerBound)).map Int.ofNat
    | _ => ((natural? s).filter (· < 2 * integerBound)).map Int.ofNat

/-- A number that is not an integer, or too large to be one. -/
def float? (s : List Char) : Option Decimal.Reading :=
  let text := String.ofList s
  let words (sign : String) (word : String) : List String :=
    [sign ++ "." ++ word, sign ++ "." ++ word.capitalize, sign ++ "." ++ word.toUpper]
  if (words "" "inf" ++ words "+" "inf").contains text then some (.infinite false)
  else if (words "-" "inf").contains text then some (.infinite true)
  else if [".nan", ".NaN", ".NAN"].contains text then some .nan
  else
    match Decimal.Reading.ofChars? Decimal.binary64 s with
    | some (.finite negative units) => some (.finite negative units)
    | _ => none

/-- What a plain scalar stands for. -/
def ofPlain (s : String) : Atom :=
  if s.isEmpty || nulls.contains s then .null
  else match bool? s with
    | some b => .bool b
    | none =>
      match integer? s.toList with
      | some i => .integer i
      | none =>
        if isZeroPadded s.toList then .text
        else match float? s.toList with
          | some r => .float r
          | none => .text

end Atom

end Inspection.Yaml
