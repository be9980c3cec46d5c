import Inspection.Shell.Print
import Inspection.Shell.Programs.Basic

/-!
# Shell — Programs that count

* `seq`: numbers in a row.
* `sleep`: lets time pass.
* `milliseconds?`: the time that a text means.
-/

namespace Inspection.Shell.Program

/-! ### Rows of numbers -/

/-- A number that a row starts with, ends with or goes on by. -/
structure Term where
  /-- The number without a point, and how many digits are behind that; none if it has no end. -/
  value : Option (Int × Nat)
  isNegative : Bool := false
  /-- How many columns it takes. -/
  width : Nat
  /-- How many digits are shown behind the point; none if that depends on the number. -/
  places : Option Nat

/-- The number in so many places behind the point. -/
def scaledTo (places : Nat) (value : Int × Nat) : Int :=
  value.1 * (Nat.pow 10 (places - value.2) : Nat)

/-- A number by its sign, digits and powers of two and ten. -/
def decimalOf (isNegative : Bool) (digits : Nat) (twos tens : Int) : Int × Nat :=
  let n := digits * Nat.pow 2 twos.toNat * Nat.pow 5 (-twos).toNat * Nat.pow 10 tens.toNat
  (if isNegative then -(n : Int) else n, (-twos).toNat + (-tens).toNat)

/-- The value of a number that a text is. -/
def termValue? (s : List Char) : Option (Option (Int × Nat) × Bool) :=
  let (isNegative, s) := Decimal.splitSign (s.dropWhile isNumberBlank)
  if Decimal.isWord "inf" s || Decimal.isWord "infinity" s then some (none, isNegative)
  else
    let isHex := ["0x", "0X"].contains (String.ofList (s.take 2))
    let (whole, fraction, rest) :=
      if isHex then pointedDigits (isDigitOf 16) (s.drop 2) else pointedDigits Char.isDigit s
    let isMark (c : Char) : Bool :=
      if isHex then c == 'p' || c == 'P' else c == 'e' || c == 'E'
    let (e, rest) := leadingExponent isMark rest
    if (whole ++ fraction).isEmpty || !rest.isEmpty || 10000 < e.natAbs then none
    else
      let n := ofDigits (if isHex then 16 else 10) (whole ++ fraction)
      let value := if isHex then decimalOf isNegative n (e - 4 * fraction.length) 0
        else decimalOf isNegative n 0 (e - fraction.length)
      some (some value, isNegative)

/-- The number that an operand is. -/
def Term.read? (text : String) : Option Term :=
  let s := text.toList.dropWhile fun c => isNumberBlank c || c == '+'
  (termValue? s).map fun (value, isNegative) =>
    let before := s.takeWhile (· != '.')
    let hasPoint := s.contains '.'
    let isHex := s.any fun c => c == 'x' || c == 'X'
    let isExponent (c : Char) : Bool := c == 'e' || c == 'E'
    if isHex || value.isNone then
      let places := if hasPoint || s.contains 'p' then none else some 0
      { value, isNegative, width := 0, places }
    else
      let mantissa := s.takeWhile (!isExponent ·)
      let fraction := ((mantissa.drop before.length).drop 1).length
      let places := if hasPoint then fraction else 0
      let pointWidth : Int :=
        if !hasPoint then 0
        else if fraction == 0 then -1
        else if before.getLast?.any Char.isDigit then 0 else 1
      let width : Int := mantissa.length + pointWidth
      let e : Int := (leadingExponent isExponent (s.drop mantissa.length)).1
      let isPlain := !s.any isExponent
      let shown : Int := places
      if isPlain then { value, isNegative, width := width.toNat, places := some places }
      else if e < 0 then
        let undone : Int := if !hasPoint || fraction == 0 then 1 else 0
        { value, isNegative, width := (width + undone - e).toNat, places := some (shown - e).toNat }
      else
        let left := shown - min shown e
        let undone : Int := if hasPoint && left == 0 && fraction != 0 then 1 else 0
        { value, isNegative, width := (width - undone + (e - min (fraction : Int) e)).toNat
          places := some left.toNat }

/-- How numbers of a row are shown. -/
inductive RowFormat where
  /-- With so many digits behind the point, in so many columns. -/
  | fixed (places width : Nat)
  | directive (before : List Char) (d : Directive) (behind : List Char)

/-- A number with so many digits behind its point, by the digits behind its own. -/
def fixedTerm (places width : Nat) (value : Int × Nat) : List Char :=
  let (n, own) := value
  let digits := if own ≤ places then n.natAbs * Nat.pow 10 (places - own)
    else Decimal.nearest n.natAbs (Nat.pow 10 (own - places))
  let sign := if n < 0 then ['-'] else []
  let body := pointed false places (Text.digitsPadded (places + 1) digits)
  sign ++ List.replicate (width - sign.length - body.length) '0' ++ body

/-- A number of a row as it is shown. -/
def RowFormat.show (f : RowFormat) (value : Int × Nat) : List Char :=
  match f with
  | .fixed places width => fixedTerm places width value
  | .directive before d behind =>
    before ++ d.real (.ofDecimal (value.1 < 0) value.1.natAbs (-(value.2 : Int))) ++ behind

/-- The start of a format up to its directive, and what stands behind that mark. -/
def beforeDirective : List Char → Option (List Char × List Char)
  | [] => none
  | ['%'] => some ([], [])
  | '%' :: '%' :: s => (beforeDirective s).map fun (before, rest) => ('%' :: before, rest)
  | '%' :: s => some ([], s)
  | c :: s => (beforeDirective s).map fun (before, rest) => (c :: before, rest)

/-- The end of a format behind its directive; none if there is another directive. -/
def behindDirective : List Char → Option (List Char)
  | [] => some []
  | '%' :: '%' :: s => (behindDirective s).map ('%' :: ·)
  | '%' :: _ => none
  | c :: s => (behindDirective s).map (c :: ·)

/-- The format of a row that an option tells. -/
def RowFormat.read (text : String) : Except String RowFormat :=
  let wrong (what : String) : Except String RowFormat :=
    .error ("format " ++ named text ++ " " ++ what)
  match beforeDirective text.toList with
  | none => wrong "has no % directive"
  | some (before, s) =>
    let flags := s.takeWhile ['-', '+', '#', '0', ' ', '\''].contains
    let rest := s.drop flags.length
    let width := rest.takeWhile Char.isDigit
    let rest := rest.drop width.length
    let (precision, rest) := match rest with
      | '.' :: more =>
        let ds := more.takeWhile Char.isDigit
        (some (ofDigits 10 ds), more.drop ds.length)
      | _ => (none, rest)
    let rest := if rest.head? == some 'L' then rest.tail else rest
    match rest with
    | [] => wrong "ends in %"
    | conversion :: rest =>
      if !(['e', 'f', 'g', 'a', 'E', 'F', 'G', 'A'].contains conversion) then
        wrong ("has unknown %" ++ String.singleton conversion ++ " directive")
      else match behindDirective rest with
      | none => wrong "has too many % directives"
      | some behind =>
        .ok (.directive before { flags, width := ofDigits 10 width, precision, conversion } behind)

/-- How numbers of a row are shown unless a format tells it. -/
def usualFormat (isWide : Bool) (first step last : Term) : RowFormat :=
  match first.places, step.places, last.places with
  | some p, some q, some l =>
    let places := max p q
    let point (own : Nat) : Nat := if own == 0 && places != 0 then 1 else 0
    let firstWidth := first.width + (places - p) + point p
    let lastWidth := last.width + places + point l - l - (if l != 0 && places == 0 then 1 else 0)
    .fixed places (if isWide then max firstWidth lastWidth else 0)
  | _, _, _ => .directive [] { conversion := 'g' } []

/-- How many numbers of a row without an end are shown where a part of them is enough. -/
def endlessCount : Nat := 20000

/-- Shows a row of numbers. -/
def showRow (f : RowFormat) (separator : List Char) (first step last : Term) : Action Unit := do
  let places := [first, step, last].foldl (fun n t => max n ((t.value.map (·.2)).getD 0)) 0
  match first.value.map (scaledTo places), step.value.map (scaledTo places) with
  | some a, some s =>
    let terms (count : Nat) : List (List Char) :=
      (List.range count).map fun (i : Nat) => f.show (a + s * (i : Int), places)
    match last.value.map (scaledTo places) with
    | some l =>
      let count := if (0 < s && l < a) || (s < 0 && a < l) then 0 else (l - a) / s + 1
      let shown := terms count.toNat
      if !shown.isEmpty then print (Text.joinWith separator shown ++ ['\n'])
    | none =>
      if last.isNegative != (s < 0 : Bool) then return ()
      else match (← get).channels.lookup 1 with
      | some (.sink id) =>
        if id < 3 then stop .endless
        print (Text.joinWith separator (terms endlessCount))
      | _ => stop .endless
  | _, _ => return ()

/-- Shows numbers in a row. -/
def seq : Program :=
  let names := [("equal-width", 'w'), ("format", 'f'), ("separator", 's')]
  withOptions
    { flags := ['w'], valued := ['f', 's'], names, stopsAtOperand := true, takesNegative := true }
    fun c => do
    let wrong := c.operands.find? fun s => (Term.read? s).isNone
    let isNan (s : String) : Bool := Decimal.isWord "nan" (Decimal.splitSign s.toList).2
    let one : Term := { value := some (1, 0), width := 1, places := some 0 }
    let format ← match c.value? 'f' with
      | some text => pure ((RowFormat.read text).map some)
      | none => pure (.ok none)
    let run (first step last : Term) : Action Unit := do
      match format with
      | .error message => tell message
      | .ok format =>
        if format.isSome && c.has 'w' then
          misuse "format string may not be specified when printing equal width strings"
        else
          showRow (format.getD (usualFormat (c.has 'w') first step last))
            ((c.value? 's').getD "\n").toList first step last
    match c.operands[3]?, wrong with
    | some extra, _ => extraOperand extra
    | none, some s =>
      if isNan s then misuse ("invalid 'not-a-number' argument: " ++ named s)
      else misuse ("invalid floating point argument: " ++ named s)
    | none, none =>
      match c.operands.filterMap Term.read? with
      | [] => missingOperand
      | [last] => run one one last
      | [first, last] => run first one last
      | first :: step :: last :: _ =>
        if step.value.any (·.1 == 0) then
          misuse ("invalid Zero increment value: " ++ named ((c.operands[1]?).getD ""))
        else run first step last

/-! ### Time -/

/-- The milliseconds that an interval means, rounded up; none if it has no end. -/
def milliseconds? (s : String) : Option (Option Nat) :=
  let (body, unit) := match s.toList.getLast? with
    | some 's' => (s.toList.dropLast, 1)
    | some 'm' => (s.toList.dropLast, 60)
    | some 'h' => (s.toList.dropLast, 3600)
    | some 'd' => (s.toList.dropLast, 86400)
    | _ => (s.toList, 1)
  if Decimal.isWord "inf" body || Decimal.isWord "infinity" body then some none
  else (Decimal.Numeral.ofChars? body).bind fun n =>
    if n.negative && n.digits != 0 then none
    else if n.exponent > 15 then some none
    else
      let den := Nat.pow 10 (-(n.exponent + 3)).toNat
      some (some ((n.digits * unit * Nat.pow 10 (n.exponent + 3).toNat + den - 1) / den))

/-- The message about a text that means no time. -/
def noInterval (s : String) : String := "invalid time interval " ++ named s

/-- Lets time pass. -/
def sleep : Program := withOptions {} fun c => do
  let wrong := c.operands.filter fun s => (milliseconds? s).isNone
  if c.operands.isEmpty then missingOperand
  else if !wrong.isEmpty then
    wrong.dropLast.forM fun s => tell (noInterval s)
    misuse (noInterval (wrong.getLastD ""))
  else
    match (c.operands.filterMap milliseconds?).mapM id with
    | none => stop .endless
    | some ts => modifyWorld fun w => { w with elapsed := ts.foldl (· + ·) w.elapsed }

end Inspection.Shell.Program
