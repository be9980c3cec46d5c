import Inspection.Shell.Reader.Token

/-!
# Shell — What is left of a script

A reader takes characters from the rest of a script.  It counts the lines and knows the texts below
commands that are still to come.

* `Reading`: a script that has been read in part.
* `Reader.insertAlias`: the text of an alias takes the place of a word.
-/

namespace Inspection.Shell

/-- A text below a command that is still to be read. -/
structure Awaited where
  id : Nat
  /-- The line that ends the text. -/
  stop : List Char
  /-- Tabs at the start of its lines do not count. -/
  noTabs : Bool
  /-- Nothing is replaced in the text. -/
  isLiteral : Bool

/-- The text of an alias, put in front of the rest of a script. -/
structure Insertion where
  name : String
  /-- How many characters stand behind the text. -/
  behind : Nat
  /-- The text ends in a blank, so that the word behind it may be an alias too. -/
  endsInBlank : Bool

/-- A script that has been read in part. -/
structure Reading where
  rest : List Char
  line : Nat := 1
  /-- A token that has been read too early. -/
  ahead : Option Token := none
  awaited : List Awaited := []
  /-- The texts below commands, by their numbers. -/
  bodies : List (Nat × Word) := []
  /-- How many texts below commands there are, those awaited being counted. -/
  bodyCount : Nat := 0
  /-- How many lines end behind the rest, of which no more is to be read. -/
  linesBehind : Nat := 0
  /-- The texts that stand for words where a command may start. -/
  aliases : List (String × String) := []
  /-- The texts of that kind that are being read. -/
  insertions : List Insertion := []

/-- Reads a part of a script. -/
abbrev Reader := StateT Reading (Except SyntaxError)

namespace Reader

/-- The script cannot be read on. -/
def fail {α : Type} (message : String) : Reader α := fun r => .error ⟨r.line, message⟩

/-- The script ends too early. -/
def failAtEnd {α : Type} (message : String) : Reader α := fun r =>
  .error ⟨r.line + r.linesBehind, message⟩

/-- The token cannot stand here. -/
def unexpected {α : Type} (t : Token) : Reader α := fail (t.describe ++ " unexpected")

/-- The token cannot stand here, since another one has to. -/
def unexpectedFor {α : Type} (expected t : Token) : Reader α :=
  fail (t.describe ++ " unexpected (expecting " ++ expected.describe ++ ")")

/-- The token is to be read again. -/
def pushBack (t : Token) : Reader Unit := modify fun r => { r with ahead := some t }

/-! ### Characters -/

/-- Passes over a character. -/
def skip : Reader Unit := modify fun r =>
  { r with rest := r.rest.tail, line := if r.rest.head? == some '\n' then r.line + 1 else r.line }

/-- Passes over a character that ends no line, whichever it is. -/
def skipPlain : Reader Unit := modify fun r => { r with rest := r.rest.tail }

/-- The rest behind joined lines: a backslash at the end of a line joins the next one to it. -/
def joined : List Char → Nat → List Char × Nat
  | '\\' :: '\n' :: s, line => joined s (line + 1)
  | s, line => (s, line)

/-- The next character as it stands. -/
def peekRaw : Reader (Option Char) := do return (← get).rest.head?

/-- The next character. -/
def peek : Reader (Option Char) := do
  modify fun r =>
    let (rest, line) := joined r.rest r.line
    { r with rest, line }
  peekRaw

/-- Passes over the next character if it is this one. -/
def accept (c : Char) : Reader Bool := do
  if (← peek) == some c then
    skip
    return true
  else return false

/-- Reads characters as long as they are of a kind. -/
def takeWhile (isKind : Char → Bool) : Nat → List Char → Reader (List Char)
  | 0, taken => return taken.reverse
  | fuel + 1, taken => do
    match ← peek with
    | some c =>
      if isKind c then
        skip
        takeWhile isKind fuel (c :: taken)
      else return taken.reverse
    | none => return taken.reverse

/-- As many steps as there are characters left. -/
def measure : Reader Nat := do return (← get).rest.length + 1

/-- Reads a text between single quotes, from behind the first one. -/
def singleQuoted : Reader (List Char) := do
  let r ← get
  let text := r.rest.takeWhile (· != '\'')
  let lines := (text.filter (· == '\n')).length
  set { r with rest := r.rest.drop (text.length + 1), line := r.line + lines }
  if text.length < r.rest.length then return text else fail "Unterminated quoted string"

/-- Passes over blanks and a comment. -/
def skipBlanks : Reader Unit := do
  let _ ← takeWhile isBlankOctet (← measure) []
  if (← peek) == some '#' then
    modify fun r => { r with rest := r.rest.dropWhile (· != '\n') }

/-- Reads a script between backward quotes, from behind the first one.  Backslashes are taken away
before some characters. -/
def backquoted (inQuotes : Bool) : Nat → List Char → Reader (List Char)
  | 0, _ => fail "EOF in backquote substitution"
  | fuel + 1, taken => do
    match ← peek with
    | none => fail "EOF in backquote substitution"
    | some '\x60' =>
      skip
      return taken.reverse
    | some '\\' =>
      skip
      match ← peekRaw with
      | none => backquoted inQuotes fuel ('\\' :: taken)
      | some c =>
        skip
        let isTaken := ['\\', '\x60', '$'].contains c || (inQuotes && c == '"')
        backquoted inQuotes fuel (if isTaken then c :: taken else c :: '\\' :: taken)
    | some c =>
      skip
      backquoted inQuotes fuel (c :: taken)

/-! ### Aliases -/

/-- Passes over blanks in front of a token, unless one has been read too early; whether that leaves
the text of an alias that ends in a blank. -/
def passInsertions : Reader Bool := do
  let r ← get
  if r.insertions.isEmpty || r.ahead.isSome then return false
  else
    let before := r.rest.length
    skipBlanks
    let after := (← get).rest.length
    return r.insertions.any fun i => i.endsInBlank && i.behind < before && after ≤ i.behind

/-- Puts the text of an alias in front of what is left, if the word is one and its text is not being
read already. -/
def insertAlias (w : Word) : Reader Bool := do
  let r ← get
  if r.aliases.isEmpty then return false
  else
    let behind := r.rest.length
    let active := r.insertions.filter (·.behind ≤ behind)
    match w.bare?.map String.ofList with
    | none => return false
    | some name =>
      match r.aliases.lookup name with
      | none => return false
      | some text =>
        if active.any (·.name == name) then return false
        else
          let i : Insertion :=
            { name, behind, endsInBlank := text.toList.getLast?.any isBlankOctet }
          set { r with
            rest := text.toList ++ r.rest
            insertions := if text.isEmpty then active else i :: active }
          return true

end Reader

end Inspection.Shell
