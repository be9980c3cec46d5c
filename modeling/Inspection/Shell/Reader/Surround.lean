import Inspection.Shell.Reader.Basic

/-!
# Shell — What parts of a script stand within

What a character means depends on the quotes and braces around it.

* `Surround`: the quotes and braces around a part of a word.
* `separator?`, `redirectMark`: the marks between words.
* `splitBody`: the lines of a text below a command.
-/

namespace Inspection.Shell.Reader

/-! ### What parts of words stand within -/

/-- How characters are read. -/
inductive Manner where
  | bare
  | quoted
  /-- In a text below a command. -/
  | body
  | sum
deriving DecidableEq, Repr

/-- What a part of a word stands within. -/
structure Surround where
  manner : Manner
  /-- Between the braces of a parameter. -/
  inBraces : Bool := false
  /-- Between quotes within those braces, the parameter being quoted itself. -/
  inQuotes : Bool := false
  /-- In a line that ends a text below a command, in which nothing is replaced. -/
  isStop : Bool := false

namespace Surround

/-- What is read here is quoted. -/
def isQuoted (w : Surround) : Bool := w.manner != .bare

/-- The character ends what is read here. -/
def endsAt (w : Surround) (c : Char) : Bool :=
  if w.inQuotes then c == '"'
  else if w.inBraces then c == '\x7d'
  else match w.manner with
    | .bare => [' ', '\t', '\n', ';', '&', '|', '(', ')', '<', '>'].contains c
    | .quoted => c == '"'
    | .body | .sum => false

/-- A backslash takes away the meaning of the character. -/
def isEscapable (w : Surround) (c : Char) : Bool :=
  match w.manner with
  | .bare => true
  | m => ['\\', '\x60', '$'].contains c || (c == '"' && !(m == .body && !w.inBraces))
    || (c == '\x7d' && w.inBraces)

/-- What is wrong if the script ends here. -/
def unfinished? (w : Surround) : Option String :=
  match w.manner with
  | .sum => some "Missing '))'"
  | .quoted => some "Unterminated quoted string"
  | .bare | .body => if w.inBraces then some "Missing '\x7d'" else none

/-- What stands between the braces of a parameter here. -/
def braces (w : Surround) : Surround :=
  { manner := if w.manner == .sum then .quoted else w.manner, inBraces := true }

end Surround

/-- What an operator that hangs on a parameter's being set makes of it. -/
def useOf? (emptyToo : Bool) (w : Word) : Char → Option Use
  | '-' => some (.orElse emptyToo w)
  | '=' => some (.orAssign emptyToo w)
  | '?' => some (.orFail emptyToo w)
  | '+' => some (.ifSet emptyToo w)
  | _ => none

/-- The characters that name a parameter by themselves. -/
def isSpecialName (c : Char) : Bool :=
  ['!', '#', '$', '*', '-', '?', '@'].contains c || c.isDigit

/-- The parts between two quotes; the mark that keeps an empty text is missing where the arguments
alone stand there, of which there may be none. -/
def quotedParts (w : Word) : Word :=
  match w with
  | [.parameter _ ['@'] .value] => w
  | _ => .text true [] :: w

/-- The descriptor that a redirection behind a word is about; none if the word is a word. -/
def descriptor? (w : Word) : Option (Option Nat) :=
  match w with
  | [] => some none
  | [.text false [c]] => if c.isDigit then some (some (c.toNat - '0'.toNat)) else none
  | _ => none

/-- The mark of a redirection. -/
def redirectMark : Reader String := do
  if ← accept '>' then
    if ← accept '>' then return ">>"
    else if ← accept '|' then return ">|"
    else if ← accept '&' then return ">&"
    else return ">"
  else
    skip
    if ← accept '<' then
      if ← accept '-' then return "<<-" else return "<<"
    else if ← accept '&' then return "<&"
    else if ← accept '>' then return "<>"
    else return "<"

/-- The mark that separates commands and starts with the character. -/
def separator? (c : Char) : Option (Reader Token) :=
  let double (c : Char) (one two : String) : Reader Token := do
    skip
    if ← accept c then return .mark two else return .mark one
  match c with
  | '\n' => some do
    skip
    return .newline
  | '&' => some (double '&' "&" "&&")
  | '|' => some (double '|' "|" "||")
  | ';' => some (double ';' ";" ";;")
  | '(' => some do
    skip
    return .mark "("
  | ')' => some do
    skip
    return .mark ")"
  | _ => none

/-! ### Texts below commands -/

/-- How many lines end in a text. -/
def countLines (s : List Char) : Nat := (s.filter (· == '\n')).length

/-- A line and what follows it. -/
def splitLine (s : List Char) : List Char × List Char :=
  let line := s.takeWhile (· != '\n')
  (line, s.drop (line.length + 1))

/-- The line is joined to the next one: it ends in a backslash that is not escaped. -/
def isJoined (line : List Char) : Bool := (line.reverse.takeWhile (· == '\\')).length % 2 == 1

/-- The lines up to the one that ends a text, and what follows that line. -/
def splitBody (a : Awaited) : Nat → Bool → List Char → List Char × List Char
  | 0, _, s => ([], s)
  | fuel + 1, joins, s =>
    if s.isEmpty then ([], [])
    else
      let (line, rest) := splitLine s
      let line := if a.noTabs && !joins then line.dropWhile (· == '\t') else line
      if line == a.stop && !joins then ([], rest)
      else
        let (body, rest) := splitBody a fuel (!a.isLiteral && isJoined line) rest
        let isWhole := line.length < s.length
        (if isWhole || !rest.isEmpty || !body.isEmpty then line ++ '\n' :: body else line, rest)

end Inspection.Shell.Reader
