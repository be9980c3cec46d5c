import Inspection.Shell.Octets

/-!
# Shell — Calls of programs

The arguments of a program are options and operands.  An option is a letter behind a dash, or a name
behind two of them, of which its start is enough as long as no other option starts so.

* `Options.read`: the call that arguments are, or what is wrong with them.
* `named`, `quotedName`, `inShellQuotes`: an argument as messages tell it.
-/

namespace Inspection.Shell.Program

/-- What options a program has. -/
structure Options where
  /-- The letters of those without a value. -/
  flags : List Char := []
  /-- The letters of those with a value. -/
  valued : List Char := []
  /-- The letters of those whose value may be missing, and is otherwise in the same argument. -/
  loose : List Char := []
  /-- Names, and the letters of the options that they mean; an option that has only a name has a
  letter that no argument can hold. -/
  names : List (String × Char) := []
  /-- The exit code for arguments that are not understood. -/
  fault : Nat := 1
  /-- No option follows an operand. -/
  stopsAtOperand : Bool := false
  /-- A number behind a dash is an operand. -/
  takesNegative : Bool := false

/-- A call of a program: the letters of its options with their values, and its operands. -/
structure Call where
  options : List (Char × String) := []
  operands : List String := []
deriving DecidableEq, Repr

namespace Call

/-- The option is given. -/
def has (c : Call) (letter : Char) : Bool := c.options.any (·.1 == letter)

/-- The value of an option, the last one if it is given more than once. -/
def value? (c : Call) (letter : Char) : Option String := c.options.reverse.lookup letter

/-- The last one of some options that is given. -/
def last? (c : Call) (letters : List Char) : Option Char :=
  ((c.options.map (·.1)).filter letters.contains).getLast?

end Call

namespace Options

/-- The letters of the options that tell about a program. -/
def telling : List (String × Char) := [("help", 'η'), ("version", 'ν')]

/-- The options that the letters of an argument are; the value of the last one may be the next
argument. -/
def readLetters (o : Options) : List Char → List String →
    Except String (List (Char × String) × List String)
  | [], rest => .ok ([], rest)
  | c :: s, rest =>
    if o.valued.contains c then
      match s, rest with
      | [], value :: rest => .ok ([(c, value)], rest)
      | [], [] => .error ("option requires an argument -- '" ++ String.singleton c ++ "'")
      | s, rest => .ok ([(c, String.ofList s)], rest)
    else if o.loose.contains c then .ok ([(c, String.ofList s)], rest)
    else if o.flags.contains c then
      (o.readLetters s rest).map fun (os, rest) => ((c, "") :: os, rest)
    else .error ("invalid option -- '" ++ String.singleton c ++ "'")

/-- The option that the start of a name means. -/
def find (o : Options) (whole start : String) : Except String (String × Char) :=
  let all := o.names ++ telling
  match all.find? (·.1 == start), all.filter (·.1.startsWith start) with
  | some found, _ => .ok found
  | none, [] => .error ("unrecognized option '" ++ whole ++ "'")
  | none, first :: others =>
    if others.all (·.2 == first.2) then .ok first
    else
      let named := (first :: others).map fun (name, _) => " '--" ++ name ++ "'"
      .error ("option '" ++ whole ++ "' is ambiguous; possibilities:" ++ String.join named)

/-- The option that a name behind two dashes means. -/
def readName (o : Options) (whole : String) (rest : List String) :
    Except String ((Char × String) × List String) := do
  let text := whole.toList.drop 2
  let start := text.takeWhile (· != '=')
  let value := (text.drop start.length).tail
  let isGiven := text.contains '='
  let (name, letter) ← o.find whole (String.ofList start)
  if isGiven then
    if o.valued.contains letter || o.loose.contains letter then
      return ((letter, String.ofList value), rest)
    else throw ("option '--" ++ name ++ "' doesn't allow an argument")
  else if o.valued.contains letter then
    match rest with
    | value :: rest => return ((letter, value), rest)
    | [] => throw ("option '--" ++ name ++ "' requires an argument")
  else return ((letter, ""), rest)

/-- The call that arguments are, or what is wrong with them. -/
def read (o : Options) : Nat → List String → Except String Call
  | 0, _ => .ok {}
  | _ + 1, [] => .ok {}
  | fuel + 1, a :: rest =>
    match a.toList with
    | ['-', '-'] => .ok { operands := rest }
    | '-' :: '-' :: _ => do
      let (option, rest) ← o.readName a rest
      let call ← o.read fuel rest
      return { call with options := option :: call.options }
    | '-' :: c :: s => do
      if o.takesNegative && (c == '.' || c.isDigit) then return { operands := a :: rest }
      else
        let (os, rest) ← o.readLetters (c :: s) rest
        let call ← o.read fuel rest
        return { call with options := os ++ call.options }
    | _ => do
      if o.stopsAtOperand then return { operands := a :: rest }
      else
        let call ← o.read fuel rest
        return { call with operands := a :: call.operands }

end Options

/-! ### Arguments in messages -/

/-- A character that can be told as it is. -/
def isVisible (c : Char) : Bool := ' ' ≤ c && c ≤ '~'

/-- The escape of a character that cannot be told as it is. -/
def escape (c : Char) : List Char :=
  match [('\x07', 'a'), ('\x08', 'b'), ('\x0c', 'f'), ('\n', 'n'), ('\r', 'r'), ('\t', 't'),
      ('\x0b', 'v')].lookup c with
  | some letter => ['\\', letter]
  | none =>
    let ds := Nat.toDigits 8 c.toNat
    '\\' :: List.replicate (3 - ds.length) '0' ++ ds

/-- An argument between quotes, with escapes. -/
def named (s : String) : String :=
  let told (c : Char) : List Char :=
    if c == '\'' || c == '\\' then ['\\', c] else if isVisible c then [c] else escape c
  "'" ++ String.ofList (s.toList.flatMap told) ++ "'"

/-- The inside of an argument as a shell would read it between quotes: characters that cannot be
told stand apart, each run of them in quotes of its own kind. -/
def shellInside : Bool → List Char → List Char
  | isApart, [] => if isApart then ['\''] else []
  | isApart, c :: s =>
    if isVisible c then
      let back := if isApart then ['\'', '\''] else []
      let told := if c == '\'' then ['\'', '\\', '\'', '\''] else [c]
      back ++ told ++ shellInside false s
    else
      let apart := if isApart then [] else ['\'', '$', '\'']
      apart ++ escape c ++ shellInside true s

/-- A character that a shell reads as it is between double quotes too. -/
def isPlainInQuotes (isFirst : Bool) (c : Char) : Bool :=
  c.isAlphanum || [' ', '\'', '%', '+', ',', '-', '.', '/', ':', ']', '_'].contains c
    || (isFirst && (c == '#' || c == '~'))

/-- An argument as a shell would read it, in quotes. -/
def inShellQuotes (s : String) : String :=
  let cs := s.toList
  let isPlain := (cs.zipIdx).all fun (c, i) => isPlainInQuotes (i == 0) c
  if cs.contains '\'' && isPlain then "\"" ++ s ++ "\""
  else
    let inside := shellInside false cs
    let whole := if cs.getLast?.any (!isVisible ·) then inside else inside ++ ['\'']
    "'" ++ String.ofList whole

/-- An argument as a shell would read it, in quotes only if it needs them or a colon would
mislead. -/
def quotedName (s : String) : String :=
  let isPlain (c : Char) (i : Nat) : Bool :=
    c.isAlphanum || ['%', '+', ',', '-', '.', '/', ']', '_', '@'].contains c
      || (i != 0 && (c == '#' || c == '~')) || ((c == '\x7b' || c == '\x7d') && s.length != 1)
  if !s.isEmpty && (s.toList.zipIdx).all fun (c, i) => isPlain c i then s else inShellQuotes s

end Inspection.Shell.Program
