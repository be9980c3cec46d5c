import Inspection.Data.Basic
import Inspection.Text.Numeral

/-!
# Data — JSON

Every item and field stands on a line of its own, two columns right of what holds it; what holds
nothing stays on one line.

* `Json.write`: the text of a tree.
-/

namespace Inspection.Json

/-- A character inside quotes.  Only quotes, backslashes and control characters are escaped. -/
def quotedChar (c : Char) : List Char :=
  match c with
  | '"' => ['\\', '"']
  | '\\' => ['\\', '\\']
  | '\x08' => ['\\', 'b']
  | '\x0c' => ['\\', 'f']
  | '\n' => ['\\', 'n']
  | '\r' => ['\\', 'r']
  | '\t' => ['\\', 't']
  | _ =>
    if c.toNat < 0x20 then
      let ds := Text.hexDigits c.toNat
      ['\\', 'u'] ++ List.replicate (4 - ds.length) '0' ++ ds
    else [c]

/-- A text in quotes. -/
def quoted (s : String) : String :=
  String.ofList (['"'] ++ s.toList.flatMap quotedChar ++ ['"'])

/-- The start of a line at a depth. -/
def margin (depth : Nat) : String := String.ofList (List.replicate (2 * depth) ' ')

/-- Lines between two brackets. -/
def enclose (opening closing : String) (depth : Nat) (lines : List String) : String :=
  if lines.isEmpty then opening ++ closing
  else
    opening ++ "\n" ++ ",\n".intercalate (lines.map (margin (depth + 1) ++ ·)) ++ "\n"
      ++ margin depth ++ closing

mutual

/-- The text of a tree at a depth. -/
def writeAt (depth : Nat) : Data → String
  | .nat n => Text.natText n
  | .bool b => if b then "true" else "false"
  | .text s => quoted s
  | .list items => enclose "[" "]" depth (writeItems (depth + 1) items)
  | .record fields => enclose "\x7b" "\x7d" depth (writeFields (depth + 1) fields)

/-- The items of a list. -/
def writeItems (depth : Nat) : List Data → List String
  | [] => []
  | d :: rest => writeAt depth d :: writeItems depth rest

/-- The fields of a record. -/
def writeFields (depth : Nat) : List (String × Data) → List String
  | [] => []
  | (name, d) :: rest => (quoted name ++ ": " ++ writeAt depth d) :: writeFields depth rest

end

/-- The text of a tree. -/
def write (d : Data) : String := writeAt 0 d

end Inspection.Json
