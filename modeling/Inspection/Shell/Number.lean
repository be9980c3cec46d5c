import Inspection.Shell.Octets
import Inspection.Text.Numeral

/-!
# Shell — Numbers

Numbers have 64 bits.  A numeral is read as far as it goes; its base follows from its first digits
where it may be any.

* `leading`: the number that a text starts with, and what follows it.
* `integer?`: the number that a whole text is.
* `wrap`: an integer cut to 64 bits.
-/

namespace Inspection.Shell

/-- A number read from a text. -/
structure Leading where
  /-- The number that the numeral means. -/
  exact : Int
  rest : List Char
deriving DecidableEq, Repr

/-- A blank before or after a numeral. -/
def isNumberBlank (c : Char) : Bool := c == ' ' || ('\t' ≤ c && c ≤ '\r')

/-- A digit of the base. -/
def isDigitOf (base : Nat) (c : Char) : Bool := (Text.hexDigit? c).any (· < base)

/-- The number that digits of a base denote. -/
def ofDigits (base : Nat) (ds : List Char) : Nat :=
  ds.foldl (fun n c => n * base + (Text.hexDigit? c).getD 0) 0

/-- The base of a numeral, and how many characters only tell it. -/
def baseOf (anyBase : Bool) (s : List Char) : Nat × Nat :=
  match s with
  | '0' :: x :: d :: _ =>
    if !anyBase then (10, 0)
    else if (x == 'x' || x == 'X') && isDigitOf 16 d then (16, 2)
    else if (x == 'b' || x == 'B') && isDigitOf 2 d then (2, 2)
    else (8, 0)
  | '0' :: _ => if anyBase then (8, 0) else (10, 0)
  | _ => (10, 0)

/-- The integer of 64 bits that comes nearest. -/
def clamp (i : Int) : Int :=
  let bound : Int := Text.signedBound
  max (-bound) (min i (bound - 1))

/-- The number, within 64 bits. -/
def Leading.value (l : Leading) : Int := clamp l.exact

/-- The numeral means a number beyond 64 bits. -/
def Leading.isCut (l : Leading) : Bool := l.value != l.exact

/-- The number that a text starts with, behind blanks; none if there is no digit. -/
def leading (anyBase : Bool) (s : List Char) : Option Leading :=
  let s := s.dropWhile isNumberBlank
  let (isNegative, s) := match s with
    | '-' :: rest => (true, rest)
    | '+' :: rest => (false, rest)
    | _ => (false, s)
  let (base, skipped) := baseOf anyBase s
  let ds := (s.drop skipped).takeWhile (isDigitOf base)
  if ds.isEmpty then none
  else
    let n : Int := ofDigits base ds
    some { exact := if isNegative then -n else n, rest := s.drop (skipped + ds.length) }

/-- The number that a whole text is, with blanks around it. -/
def integer? (s : List Char) : Option Int :=
  match leading false s with
  | some l => if l.isCut || !(l.rest.all isNumberBlank) then none else some l.value
  | none => none

/-- A number that counts things or tells an exit code. -/
def count? (s : String) : Option Nat :=
  match integer? s.toList with
  | some i => if 0 ≤ i && i < 0x80000000 then some i.toNat else none
  | none => none

/-- An integer cut to 64 bits. -/
def wrap (i : Int) : Int :=
  let bound : Int := Text.signedBound
  (i + bound) % (Text.unsignedBound : Int) - bound

/-- The bits of an integer, as a natural number. -/
def bits (i : Int) : Nat := (i % (Text.unsignedBound : Int)).toNat

/-- The integer with these bits. -/
def ofBits (n : Nat) : Int := wrap n

end Inspection.Shell
