/-!
# View — Markup

The characters that have a meaning in markup are written by name.
-/

namespace Inspection.Markup

/-- A character as markup holds it. -/
def escapeChar (c : Char) : List Char :=
  match c with
  | '&' => "&amp;".toList
  | '<' => "&lt;".toList
  | '>' => "&gt;".toList
  | '"' => "&quot;".toList
  | '\'' => "&#39;".toList
  | _ => [c]

/-- A text as markup holds it. -/
def escapeChars (s : List Char) : List Char := s.flatMap escapeChar

/-- A text as markup holds it. -/
def escape (s : String) : String := String.ofList (escapeChars s.toList)

end Inspection.Markup
