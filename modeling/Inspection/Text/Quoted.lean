import Inspection.Text.Numeral
import Inspection.Text.Printable

/-!
# Text — Quoted texts in messages

Messages that show a text as data put it in double quotes.  Quotes, backslashes and line ends are
escaped by a letter, a character that cannot be shown as itself by its code point.
-/

namespace Inspection.Text

/-- One character inside the quotes. -/
def quotedChar (c : Char) : List Char :=
  match c with
  | '\x00' => ['\\', '0']
  | '\t' => ['\\', 't']
  | '\r' => ['\\', 'r']
  | '\n' => ['\\', 'n']
  | '"' => ['\\', '"']
  | '\\' => ['\\', '\\']
  | _ =>
    if isPrintable c && !isExtender c then [c]
    else ['\\', 'u', '\x7b'] ++ hexDigits c.toNat ++ ['\x7d']

/-- The text in double quotes. -/
def quoted (s : String) : String :=
  String.ofList (['"'] ++ s.toList.flatMap quotedChar ++ ['"'])

end Inspection.Text
