import Inspection.Data.Basic
import Inspection.Yaml.Atom
import Inspection.Yaml.Cursor

/-!
# Data — YAML

A tree is written in block form, the items of a list not indented against the name of their field.
A text is written plain when it reads back as that text, over several lines when it holds a line
feed, and else in quotes.

* `YamlForm.scalar`: the text of a scalar.
* `YamlForm.write`: the text of a tree.
-/

namespace Inspection.YamlForm

open Yaml (isBreak)

/-- The character may stand for itself. -/
def isPrintable (c : Char) : Bool :=
  let n := c.toNat
  c == '\n' || (0x20 ≤ n && n ≤ 0x7E)
    || (0xA0 ≤ n && n != 0xFEFF && n != 0xFFFE && n != 0xFFFF)

/-- A blank, a break, or the end of the text. -/
def isGap (c : Option Char) : Bool := c.all fun c => c == ' ' || c == '\t' || isBreak c

/-- Every character with the ones before and after it. -/
def withNeighbours (before : Option Char) : List Char → List (Option Char × Char × Option Char)
  | [] => []
  | c :: s => (before, c, s.head?) :: withNeighbours (some c) s

/-- The character means something else where it stands in a plain text. -/
def isIndicator : Option Char × Char × Option Char → Bool
  | (none, c, after) =>
    "#,[]\x7b\x7d&*!|>'\"%@`".toList.contains c
      || ((c == '?' || c == ':' || c == '-') && isGap after)
  | (some before, c, after) =>
    (c == ':' && isGap after) || (c == '#' && isGap (some before))

/-- A text starts like the marker of a document. -/
def startsLikeMarker (s : List Char) : Bool :=
  s.take 3 == ['-', '-', '-'] || s.take 3 == ['.', '.', '.']

/-- A space comes right after a break. -/
def hasBreakSpace (s : List Char) : Bool :=
  (withNeighbours none s).any fun (before, c, _) => c == ' ' && before.any isBreak

/-- A break comes right after a space. -/
def hasSpaceBreak (s : List Char) : Bool :=
  (withNeighbours none s).any fun (before, c, _) => isBreak c && before == some ' '

/-- An end of the text is a space or a break. -/
def hasOuterGap (s : List Char) : Bool :=
  let isOuter (c : Char) : Bool := c == ' ' || isBreak c
  s.head?.any isOuter || s.getLast?.any isOuter

/-- The text can only be written with escapes. -/
def needsEscapes (s : List Char) : Bool := !s.all isPrintable || hasSpaceBreak s

/-- The text can be written plain. -/
def allowsPlain (s : List Char) : Bool :=
  !(needsEscapes s || hasOuterGap s || s.any isBreak || startsLikeMarker s
    || (withNeighbours none s).any isIndicator)

/-- The text would be read back as something else, or nearly so. -/
def isAmbiguous (s : String) : Bool :=
  Yaml.Atom.ofPlain s != .text || Yaml.Atom.isZeroPadded s.toList

/-- How a text is written. -/
inductive Style where
  | plain
  | singleQuoted
  | doubleQuoted
  | literal
deriving DecidableEq, Repr

/-- The style of a text. -/
def styleOf (text : String) : Style :=
  let s := text.toList
  if s.contains '\n' then
    if needsEscapes s || s.getLast? == some ' ' then .doubleQuoted else .literal
  else if !isAmbiguous text && allowsPlain s then .plain
  else if needsEscapes s || hasBreakSpace s then .doubleQuoted
  else .singleQuoted

/-- An escaped character. -/
def escape (c : Char) : List Char :=
  let numbered (mark : Char) (width : Nat) : List Char :=
    let ds := (Text.hexDigits c.toNat).map Char.toUpper
    '\\' :: mark :: (List.replicate (width - ds.length) '0' ++ ds)
  match c with
  | '\x00' => ['\\', '0']
  | '\x07' => ['\\', 'a']
  | '\x08' => ['\\', 'b']
  | '\t' => ['\\', 't']
  | '\n' => ['\\', 'n']
  | '\x0b' => ['\\', 'v']
  | '\x0c' => ['\\', 'f']
  | '\r' => ['\\', 'r']
  | '\x1b' => ['\\', 'e']
  | '"' => ['\\', '"']
  | '\\' => ['\\', '\\']
  | '\u0085' => ['\\', 'N']
  | '\u2028' => ['\\', 'L']
  | '\u2029' => ['\\', 'P']
  | _ =>
    if c.toNat ≤ 0xFF then numbered 'x' 2
    else if c.toNat ≤ 0xFFFF then numbered 'u' 4
    else numbered 'U' 8

/-- The text in double quotes. -/
def doubleQuoted (s : List Char) : List Char :=
  ['"'] ++ s.flatMap (fun c =>
    if !isPrintable c || isBreak c || c == '"' || c == '\\' then escape c else [c]) ++ ['"']

/-- Breaks are kept, and the line after them starts at the indentation. -/
def indentLines (indent : Nat) (atStart : Bool) : List Char → List Char
  | [] => []
  | c :: s =>
    if isBreak c then c :: indentLines indent true s
    else
      (if atStart then List.replicate indent ' ' else []) ++ c :: indentLines indent false s

/-- The text in single quotes. -/
def singleQuoted (indent : Nat) (s : List Char) : List Char :=
  let inner := s.flatMap fun c => if c == '\'' then ['\'', '\''] else [c]
  let tail := if s.getLast?.any isBreak then List.replicate indent ' ' else []
  ['\''] ++ indentLines indent false inner ++ tail ++ ['\'']

/-- The mark of a text over several lines: whether its first line says its indentation itself, and
what becomes of the breaks at its end. -/
def literalHeader (s : List Char) : List Char :=
  let hint := if s.head?.any (fun c => c == ' ' || isBreak c) then ['2'] else []
  let chomping := match s.reverse with
    | [] => ['-']
    | [last] => if isBreak last then ['+'] else ['-']
    | last :: before :: _ =>
      if !isBreak last then ['-'] else if isBreak before then ['+'] else []
  ['|'] ++ hint ++ chomping

/-- A scalar and the break after it, its further lines at the indentation. -/
def scalar (indent : Nat) (text : String) : List Char :=
  let s := text.toList
  match styleOf text with
  | .plain => s ++ ['\n']
  | .singleQuoted => singleQuoted indent s ++ ['\n']
  | .doubleQuoted => doubleQuoted s ++ ['\n']
  | .literal =>
    literalHeader s ++ ['\n'] ++ indentLines indent true s
      ++ (if s.getLast?.any isBreak then [] else ['\n'])

mutual

/-- What stands after the name of a field, up to the end of its last line. -/
def writeValue (indent : Nat) : Data → List Char
  | .nat n => ' ' :: Text.digits n ++ ['\n']
  | .bool b => ' ' :: (if b then "true\n" else "false\n").toList
  | .text s => ' ' :: scalar (indent + 2) s
  | .list [] => " []\n".toList
  | .list (item :: rest) => '\n' :: writeItems indent true (item :: rest)
  | .record [] => " \x7b\x7d\n".toList
  | .record (field :: rest) => '\n' :: writeFields (indent + 2) true (field :: rest)

/-- The items of a list; the first one may stand where the line has already been started. -/
def writeItems (indent : Nat) (hasMargin : Bool) : List Data → List Char
  | [] => []
  | item :: rest =>
    (if hasMargin then List.replicate indent ' ' else []) ++ ['-'] ++ writeItem indent item
      ++ writeItems indent true rest

/-- What stands after the dash of an item. -/
def writeItem (indent : Nat) : Data → List Char
  | .record (field :: rest) => ' ' :: writeFields (indent + 2) false (field :: rest)
  | .list (item :: rest) => ' ' :: writeItems (indent + 2) false (item :: rest)
  | .nat n => ' ' :: Text.digits n ++ ['\n']
  | .bool b => ' ' :: (if b then "true\n" else "false\n").toList
  | .text s => ' ' :: scalar (indent + 2) s
  | .list [] => " []\n".toList
  | .record [] => " \x7b\x7d\n".toList

/-- The fields of a record; the first one may stand where the line has already been started. -/
def writeFields (indent : Nat) (hasMargin : Bool) : List (String × Data) → List Char
  | [] => []
  | (name, value) :: rest =>
    (if hasMargin then List.replicate indent ' ' else []) ++ name.toList ++ [':']
      ++ writeValue indent value ++ writeFields indent true rest

end

/-- The text of a record. -/
def write : Data → String
  | .record fields => String.ofList (writeFields 0 true fields)
  | other => String.ofList ((writeItem 0 other).drop 1)

end Inspection.YamlForm
