/-!
# Yaml — Cursor

A cursor is the rest of a text with the place where it starts: the count of octets read, the line,
and the column, which counts characters.  A break is a line feed, a carriage return (with a line
feed after it the two are one break), a next-line character, or a line or paragraph separator.
-/

namespace Inspection.Yaml

/-- The rest of a text and where it starts. -/
structure Cursor where
  rest : List Char
  index : Nat := 0
  line : Nat := 0
  column : Nat := 0

/-- The character ends a line. -/
def isBreak (c : Char) : Bool :=
  c == '\n' || c == '\r' || c == '\u0085' || c == '\u2028' || c == '\u2029'

/-- A space or a tab. -/
def isSpace (c : Char) : Bool := c == ' ' || c == '\t'

/-- A letter, a digit, a dash or an underscore, of ASCII. -/
def isWordChar (c : Char) : Bool := c.isAlphanum || c == '-' || c == '_'

/-- The text is at its end, at a break, or at a space or tab. -/
def atGap : List Char → Bool
  | [] => true
  | c :: _ => isSpace c || isBreak c

/-- The text is at its end or at a break. -/
def atLineEnd : List Char → Bool
  | [] => true
  | c :: _ => isBreak c

/-- The character that marks the encoding where a line starts; elsewhere it is one like any. -/
def byteOrderMark : Char := '\uFEFF'

/-- Characters that may stand in a document: no control character but tab and the breaks. -/
def isAllowed (c : Char) : Bool :=
  let n := c.toNat
  n == 0x09 || n == 0x0A || n == 0x0D || (0x20 ≤ n && n ≤ 0x7E) || n == 0x85
    || (0xA0 ≤ n && n ≤ 0xD7FF) || (0xE000 ≤ n && n ≤ 0xFFFD) || 0x10000 ≤ n

namespace Cursor

/-- The cursor at the start of a text. -/
def ofText (s : String) : Cursor := { rest := s.toList }

/-- How many octets some characters take. -/
def octetCount (s : List Char) : Nat := s.foldl (fun n d => n + d.utf8Size) 0

/-- Past the next `n` characters, none of which is a break. -/
def skip (c : Cursor) (n : Nat) : Cursor :=
  { c with
    rest := c.rest.drop n
    index := c.index + octetCount (c.rest.take n)
    column := c.column + n }

/-- Past the break that comes next. -/
def skipBreak (c : Cursor) : Cursor :=
  match c.rest with
  | '\r' :: '\n' :: rest => { rest, index := c.index + 2, line := c.line + 1, column := 0 }
  | d :: rest => { rest, index := c.index + d.utf8Size, line := c.line + 1, column := 0 }
  | [] => c

/-- How the break that comes next is kept in a scalar: as a line feed, unless it is a line or
paragraph separator. -/
def breakText (c : Cursor) : List Char :=
  match c.rest with
  | '\u2028' :: _ => ['\u2028']
  | '\u2029' :: _ => ['\u2029']
  | d :: _ => if isBreak d then ['\n'] else []
  | [] => []

/-- The characters that come next and satisfy `p`. -/
def run (c : Cursor) (p : Char → Bool) : List Char := c.rest.takeWhile p

/-- Past the characters that satisfy `p`, none of which is a break. -/
def skipWhile (c : Cursor) (p : Char → Bool) : Cursor := c.skip (c.run p).length

/-- The next character is `d`. -/
def isAt (c : Cursor) (d : Char) : Bool := c.rest.head? == some d

/-- The three characters `d` stand at the start of a line, with a gap after them. -/
def atMarker (c : Cursor) (d : Char) : Bool :=
  c.column == 0 && c.rest.take 3 == [d, d, d] && atGap (c.rest.drop 3)

/-- A marker of a document's start or end comes next. -/
def atDocumentMarker (c : Cursor) : Bool := c.atMarker '-' || c.atMarker '.'

end Cursor

end Inspection.Yaml
