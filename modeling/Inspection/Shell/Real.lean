import Inspection.Decimal.Reader
import Inspection.Decimal.Shortest
import Inspection.Shell.Number

/-!
# Shell — Reals

The reals that `printf` reads and prints are those of a binary format.

* `leadingReal`: the real that a text starts with.
* `realDigits`: a real by a conversion.
-/

namespace Inspection.Shell

/-! ### Printing -/

/-- The format of reals. -/
def realFormat : Decimal.Format := Decimal.binary64

/-- The units that make one. -/
def unitsOfOne : Nat := Nat.pow 2 realFormat.lowest

/-- Digits with a point before the last `places` of them. -/
def pointed (isPointed : Bool) (places : Nat) (digits : List Char) : List Char :=
  let whole := digits.take (digits.length - places)
  if places == 0 && !isPointed then whole else whole ++ '.' :: digits.drop (digits.length - places)

/-- A real with so many digits behind its point. -/
def fixedReal (isPointed : Bool) (places units : Nat) : List Char :=
  let n := Decimal.nearest (units * Nat.pow 10 places) unitsOfOne
  pointed isPointed places (Text.digitsPadded (places + 1) n)

/-- The digits of a real and its exponent, one digit standing before the point. -/
def significant (places units : Nat) : List Char × Int :=
  if units == 0 then (List.replicate (places + 1) '0', 0)
  else
    let e := realFormat.magnitude units - 1
    let shift : Int := places - e
    let n := Decimal.nearest (units * Nat.pow 10 shift.toNat)
      (unitsOfOne * Nat.pow 10 (-shift).toNat)
    let digits := Text.digits n
    if digits.length > places + 1 then (digits.dropLast, e + 1) else (digits, e)

/-- An exponent behind its mark. -/
def exponentText (e : Int) : List Char :=
  'e' :: (if e < 0 then '-' else '+') :: Text.digitsPadded 2 e.natAbs

/-- The digits of a real without zeros behind the point. -/
def withoutZeros (s : List Char) : List Char :=
  if s.contains '.' then
    let kept := (s.reverse.dropWhile (· == '0')).reverse
    if kept.getLast? == some '.' then kept.dropLast else kept
  else s

/-- How many hexadecimal digits a real has behind its point. -/
def hexPlaces : Nat := (realFormat.precision - 1) / 4

/-- A real in hexadecimal digits with a power of two, behind its mark; those that are less than the
others have a zero before the point. -/
def hexReal (isPointed : Bool) (precision : Option Nat) (units : Nat) : List Char :=
  let scale := Decimal.bitLength units - realFormat.precision
  let significand := units / Nat.pow 2 scale
  let exponent : Int := if units == 0 then 0
    else (scale : Int) + (realFormat.precision - 1) - realFormat.lowest
  let digits (places n : Nat) : List Char :=
    let ds := Nat.toDigits 16 n
    List.replicate (places + 1 - ds.length) '0' ++ ds
  let shown := match precision with
    | none => withoutZeros (pointed true hexPlaces (digits hexPlaces significand))
    | some places =>
      let kept := min places hexPlaces
      let rounded := Decimal.nearest significand (Nat.pow 16 (hexPlaces - kept))
      pointed false kept (digits kept rounded) ++ List.replicate (places - kept) '0'
  let point := if isPointed && !shown.contains '.' then ['.'] else []
  shown ++ point ++ 'p' :: (if exponent < 0 then '-' else '+') :: Text.digits exponent.natAbs

/-- A real by a conversion in small letters. -/
def realDigits (conversion : Char) (isPointed : Bool) (precision : Option Nat) (units : Nat) :
    List Char :=
  let places := precision.getD 6
  match conversion with
  | 'a' => hexReal isPointed precision units
  | 'f' => fixedReal isPointed places units
  | 'e' =>
    let (digits, e) := significant places units
    pointed isPointed places digits ++ exponentText e
  | _ =>
    let count := max places 1
    let (digits, e) := significant (count - 1) units
    let trim (s : List Char) : List Char := if isPointed then s else withoutZeros s
    if e < -4 || (count : Int) ≤ e then
      trim (pointed isPointed (count - 1) digits) ++ exponentText e
    else trim (fixedReal isPointed (((count : Int) - 1 - e).toNat) units)

/-! ### Reading -/

/-- How large a real is. -/
inductive Size where
  | finite (units : Nat)
  | infinite
  | nan
deriving DecidableEq, Repr

/-- A real. -/
structure Real where
  isNegative : Bool
  size : Size
  /-- It is not what has been read, which is too large or too small for the format. -/
  isOutOfRange : Bool := false
deriving DecidableEq, Repr

/-- The real that the format has for a value, the units for which are known to be exact or not;
there are none if it is too large. -/
def Real.ofUnits (isNegative : Bool) (isExact : Nat → Bool) : Option Nat → Real
  | none => { isNegative, size := .infinite, isOutOfRange := true }
  | some units =>
    let isTiny := Decimal.bitLength units < realFormat.precision
    { isNegative, size := .finite units, isOutOfRange := isTiny && !isExact units }

/-- The real nearest to `m · 10^e`. -/
def Real.ofDecimal (isNegative : Bool) (m : Nat) (e : Int) : Real :=
  let isExact (units : Nat) : Bool :=
    if units == 0 then m == 0
    else m * Nat.pow 10 e.toNat * Nat.pow 2 realFormat.lowest == units * Nat.pow 10 (-e).toNat
  .ofUnits isNegative isExact (realFormat.ofDecimal? m e)

/-- The real nearest to `m · 2^e`. -/
def Real.ofBinary (isNegative : Bool) (m : Nat) (e : Int) : Real :=
  let size : Int := Decimal.bitLength m + e
  let shift : Int := e + realFormat.lowest
  let units : Option Nat :=
    if m == 0 || size < -(realFormat.lowest : Int) then some 0
    else if (realFormat.top : Int) < size then none
    else
      let n := realFormat.round (m * Nat.pow 2 shift.toNat) (Nat.pow 2 (-shift).toNat)
      if realFormat.overflows n then none else some n
  let isExact (units : Nat) : Bool :=
    if units == 0 then m == 0 else m * Nat.pow 2 shift.toNat == units * Nat.pow 2 (-shift).toNat
  .ofUnits isNegative isExact units

/-- Digits with a point among them, those before and those behind it, and the rest. -/
def pointedDigits (isDigit : Char → Bool) (s : List Char) : List Char × List Char × List Char :=
  let whole := s.takeWhile isDigit
  match s.drop whole.length with
  | '.' :: rest =>
    let fraction := rest.takeWhile isDigit
    (whole, fraction, rest.drop fraction.length)
  | rest => (whole, [], rest)

/-- The exponent behind a mark, and the rest; none if no digit follows. -/
def leadingExponent (isMark : Char → Bool) (s : List Char) : Int × List Char :=
  match s with
  | c :: more =>
    let (isSmall, digits) := Decimal.splitSign more
    let ds := digits.takeWhile Char.isDigit
    if isMark c && !ds.isEmpty then
      let n : Int := ofDigits 10 ds
      (if isSmall then -n else n, digits.drop ds.length)
    else (0, s)
  | [] => (0, s)

/-- The real that a text behind the mark of a hexadecimal one starts with. -/
def leadingHex (isNegative : Bool) (s : List Char) : Option (Real × List Char) :=
  let (whole, fraction, rest) := pointedDigits (isDigitOf 16) s
  if (whole ++ fraction).isEmpty then none
  else
    let (e, rest) := leadingExponent (fun c => c == 'p' || c == 'P') rest
    some (.ofBinary isNegative (ofDigits 16 (whole ++ fraction)) (e - 4 * fraction.length), rest)

/-- The real that decimal digits at the start of a text are. -/
def leadingDecimal (isNegative : Bool) (s : List Char) : Option (Real × List Char) :=
  let (whole, fraction, rest) := pointedDigits Char.isDigit s
  if (whole ++ fraction).isEmpty then none
  else
    let (e, rest) := leadingExponent (fun c => c == 'e' || c == 'E') rest
    some (.ofDecimal isNegative (ofDigits 10 (whole ++ fraction)) (e - fraction.length), rest)

/-- What follows a word for no number, which letters and digits in brackets may belong to. -/
def afterNan (s : List Char) : List Char :=
  match s with
  | '(' :: inner =>
    let kept := inner.takeWhile fun c => c.isAlphanum || c == '_'
    match inner.drop kept.length with
    | ')' :: rest => rest
    | _ => s
  | _ => s

/-- The real that a text starts with, and what follows; none if there is no digit. -/
def leadingReal (s : List Char) : Option (Real × List Char) :=
  let (isNegative, s) := Decimal.splitSign (s.dropWhile isNumberBlank)
  let starts (word : String) : Bool :=
    s.length ≥ word.length && Decimal.isWord word (s.take word.length)
  if starts "infinity" then some ({ isNegative, size := .infinite }, s.drop 8)
  else if starts "inf" then some ({ isNegative, size := .infinite }, s.drop 3)
  else if starts "nan" then some ({ isNegative, size := .nan }, afterNan (s.drop 3))
  else
    let hex := match s with
      | '0' :: x :: rest => if x == 'x' || x == 'X' then leadingHex isNegative rest else none
      | _ => none
    hex.orElse fun _ => leadingDecimal isNegative s

end Inspection.Shell
