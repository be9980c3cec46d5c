import Inspection.Shell.Escape
import Inspection.Shell.Real
import Inspection.Shell.State

/-!
# Shell — Printing

`echo` prints its arguments, `printf` prints them by a format.

* `echo`, `printf`: what the two do with their arguments.
* `Directive.integer`, `Directive.real`: a number by a directive of a format.
-/

namespace Inspection.Shell

/-- Prints the arguments with blanks between them. -/
def echo (args : List String) : Action Unit := do
  let (isBare, args) := match args with
    | "-n" :: rest => (true, rest)
    | _ => (false, args)
  let (s, goesOn) := Escape.text (" ".intercalate args)
  print (if isBare || !goesOn then s else s ++ ['\n'])
  setStatus 0

/-! ### Directives -/

/-- A part of a format that an argument is printed by. -/
structure Directive where
  flags : List Char := []
  width : Nat := 0
  precision : Option Nat := none
  conversion : Char
deriving DecidableEq, Repr

namespace Directive

/-- A flag is set. -/
def has (d : Directive) (flag : Char) : Bool := d.flags.contains flag

/-- A text in the width of the directive. -/
def pad (d : Directive) (s : List Char) : List Char :=
  let blanks := List.replicate (d.width - s.length) ' '
  if d.has '-' then s ++ blanks else blanks ++ s

/-- A number in the width of the directive; zeros may go between what stands in front and the
digits. -/
def padNumber (d : Directive) (mayFill : Bool) (front digits : List Char) : List Char :=
  if d.has '0' && !d.has '-' && mayFill then
    front ++ List.replicate (d.width - (front ++ digits).length) '0' ++ digits
  else d.pad (front ++ digits)

/-- The sign in front of a number. -/
def sign (d : Directive) (isNegative : Bool) : List Char :=
  if isNegative then ['-']
  else if d.has '+' then ['+']
  else if d.has ' ' then [' ']
  else []

/-- The base of the numerals of a conversion. -/
def base (d : Directive) : Nat :=
  if d.conversion == 'o' then 8
  else if d.conversion == 'x' || d.conversion == 'X' then 16
  else 10

/-- An integer by the directive. -/
def integer (d : Directive) (i : Int) : List Char :=
  let n := i.natAbs
  let digits := if n == 0 && d.precision == some 0 then [] else Nat.toDigits d.base n
  let digits := if d.conversion == 'X' then digits.map Char.toUpper else digits
  let digits := List.replicate (d.precision.getD 1 - digits.length) '0' ++ digits
  let marks := if !d.has '#' then []
    else if d.base == 16 && n != 0 then ['0', d.conversion]
    else if d.base == 8 && digits.head? != some '0' then ['0']
    else []
  let isSigned := d.conversion == 'd' || d.conversion == 'i'
  d.padNumber d.precision.isNone (if isSigned then d.sign (i < 0) else marks) digits

/-- A text by the directive, which may cut it. -/
def string (d : Directive) (s : List Char) : List Char :=
  d.pad (match d.precision with
    | some n => s.take n
    | none => s)

/-- A real by the directive. -/
def real (d : Directive) (r : Real) : List Char :=
  let sign := d.sign r.isNegative
  let s := match r.size with
    | .finite units =>
      let conversion := d.conversion.toLower
      let front := if conversion == 'a' then sign ++ ['0', 'x'] else sign
      d.padNumber true front (realDigits conversion (d.has '#') d.precision units)
    | .infinite => d.pad (sign ++ "inf".toList)
    | .nan => d.pad (sign ++ "nan".toList)
  if d.conversion.isUpper then s.map Char.toUpper else s

end Directive

/-! ### Formats -/

/-- Prints with arguments that are taken one after another. -/
abbrev Printer := StateT (List String) Action

/-- The next argument. -/
def nextArgument : Printer (Option String) := do
  match ← get with
  | [] => return none
  | s :: rest =>
    set rest
    return some s

/-- Complains of an argument; printing goes on. -/
def blame (s message : String) : Printer Unit := (refuse 1 (s ++ ": " ++ message) : Action Unit)

/-- Complains if a number ends before its argument. -/
def checkRest (s : String) (rest : List Char) : Printer Unit :=
  if rest.isEmpty then return () else blame s "not completely converted"

/-- The next argument as an integer; none counts as zero. -/
def integerArgument (isSigned : Bool) : Printer Int := do
  match ← nextArgument with
  | none => return 0
  | some s =>
    match s.toList with
    | [] => return 0
    | c :: rest =>
      if c == '\'' || c == '"' then return ((rest.head?.map Char.toNat).getD 0 : Nat)
      else match leading true s.toList with
        | none =>
          blame s "expected numeric value"
          return 0
        | some l =>
          let bound : Int := Text.unsignedBound
          let isCut := if isSigned then l.isCut else l.exact.natAbs ≥ Text.unsignedBound
          if l.rest.isEmpty && isCut then blame s "Numerical result out of range"
          checkRest s l.rest
          if isSigned then return l.value
          else return if isCut then bound - 1 else l.exact % bound

/-- The next argument as a real; none counts as zero. -/
def realArgument : Printer Real := do
  let whole (n : Nat) : Real := { isNegative := false, size := .finite (n * unitsOfOne) }
  match ← nextArgument with
  | none => return whole 0
  | some s =>
    match s.toList with
    | [] => return whole 0
    | c :: rest =>
      if c == '\'' || c == '"' then return whole ((rest.head?.map Char.toNat).getD 0)
      else match leadingReal s.toList with
        | none =>
          blame s "expected numeric value"
          return whole 0
        | some (r, after) =>
          if after.isEmpty && r.isOutOfRange then blame s "Numerical result out of range"
          checkRest s after
          return r

/-- A number in a directive, which may be an argument; none if nothing stands there. -/
def directiveNumber (s : List Char) : Printer (Option Int × List Char) := do
  if s.head? == some '*' then return (some (← integerArgument true), s.tail)
  else
    let ds := s.takeWhile Char.isDigit
    return (if ds.isEmpty then none else some (ofDigits 10 ds), s.drop ds.length)

/-- Prints the next argument by a directive. -/
def convert (d : Directive) (written : List Char) : Printer Unit := do
  let put (s : List Char) : Printer Unit := (print s : Action Unit)
  match d.conversion with
  | 'b' =>
    let (s, goesOn) := Escape.text ((← nextArgument).getD "")
    put (d.string s)
    if !goesOn then (stop .back : Action Unit)
  | 'c' => put (d.pad [(((← nextArgument).getD "").toList.head?).getD '\x00'])
  | 's' => put (d.string ((← nextArgument).getD "").toList)
  | 'd' | 'i' => put (d.integer (← integerArgument true))
  | 'o' | 'u' | 'x' | 'X' => put (d.integer (← integerArgument false))
  | 'a' | 'A' | 'e' | 'E' | 'f' | 'F' | 'g' | 'G' => put (d.real (← realArgument))
  | _ => (fail (String.ofList written ++ ": invalid directive") : Action Unit)

/-- Prints a directive, read from behind its first character; what follows it. -/
def directive (s : List Char) : Printer (List Char) := do
  let flags := s.takeWhile ['#', '-', '+', ' ', '0'].contains
  let (width, rest) ← directiveNumber (s.drop flags.length)
  let (precision, rest) ← if rest.head? == some '.' then do
      let (p, rest) ← directiveNumber rest.tail
      pure (some (p.getD 0), rest)
    else pure (none, rest)
  match rest with
  | [] => (fail "missing format character" : Action (List Char))
  | conversion :: rest =>
    let width := width.getD 0
    let d : Directive :=
      { flags := if width < 0 then '-' :: flags else flags
        width := width.natAbs
        precision := precision.bind fun p => if p < 0 then none else some p.toNat
        conversion }
    convert d ('%' :: s.take (s.length - rest.length))
    return rest

/-- Prints a format once. -/
def formatOnce : Nat → List Char → Printer Unit
  | 0, _ => return ()
  | _ + 1, [] => return ()
  | fuel + 1, '%' :: '%' :: s => do
    (print ['%'] : Action Unit)
    formatOnce fuel s
  | fuel + 1, '%' :: s => do
    let rest ← directive s
    formatOnce fuel rest
  | fuel + 1, '\\' :: s => do
    let (c, rest) := Escape.one s
    (print [c] : Action Unit)
    formatOnce fuel rest
  | fuel + 1, c :: s => do
    (print [c] : Action Unit)
    formatOnce fuel s

/-- Prints a format until no argument is left. -/
def formatAll (f : List Char) : Nat → Printer Unit
  | 0 => return ()
  | fuel + 1 => do
    let before := (← get).length
    formatOnce (f.length + 1) f
    let left := (← get).length
    if left != 0 && left != before then formatAll f fuel

/-- Prints its arguments by a format. -/
def printf (args : List String) : Action Unit := do
  setStatus 0
  let args ← match args with
    | "--" :: rest => pure rest
    | first :: _ =>
      if first.startsWith "-" && first != "-" then
        fail ("Illegal option -" ++ String.ofList (first.toList.drop 1 |>.take 1))
      else pure args
    | [] => pure args
  match args with
  | [] => fail "usage: printf format [arg ...]"
  | f :: args => do
    let all : Action Unit := do
      let _ ← (formatAll f.toList (args.length + 1)).run args
    fun st => match all st with
      | (.error .back, st) => (.ok (), st)
      | other => other

end Inspection.Shell
