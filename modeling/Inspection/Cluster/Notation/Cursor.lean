import Inspection.Cluster.Notation.Fault

/-!
# Cluster — Cursor of the notation

A cursor is the rest of a text with the place where it starts.  A break is a line feed, a carriage
return, or the two in this order; all are read alike.  The margin of a line is the blanks before
its first character that is none: a cursor knows whether it stands there.

* `Cursor.toLineEnd`: past blanks and a comment, which needs a blank in front of it.
-/

namespace Inspection.Cluster.Notation

/-- The rest of a text and where it starts. -/
structure Cursor where
  rest : List Char
  place : Place := {}
  /-- Only blanks stand between here and the start of the line. -/
  inMargin : Bool := true

/-- The character ends a line. -/
def isBreak (c : Char) : Bool := c == '\n' || c == '\r'

/-- A space or a tab. -/
def isBlank (c : Char) : Bool := c == ' ' || c == '\t'

/-- A letter, a digit, a dash or an underscore, of ASCII. -/
def isWordChar (c : Char) : Bool := c.isAlphanum || c == '-' || c == '_'

/-- A bracket, a brace or a comma: the marks of collections between brackets. -/
def isFlowMark (c : Char) : Bool :=
  c == ',' || c == '[' || c == ']' || c == '\x7b' || c == '\x7d'

/-- The text is at its end or at a break. -/
def atLineEnd : List Char → Bool
  | [] => true
  | c :: _ => isBreak c

/-- The text is at its end, at a break or at a blank. -/
def atGap : List Char → Bool
  | [] => true
  | c :: _ => isBlank c || isBreak c

/-- The text starts with the marker of a document's start or end. -/
def atMarker (s : List Char) : Bool :=
  (s.take 3 == ['-', '-', '-'] || s.take 3 == ['.', '.', '.']) && atGap (s.drop 3)

namespace Cursor

/-- The cursor at the start of a text, which ends at its first NUL. -/
def ofText (s : String) : Cursor := { rest := s.toList.takeWhile (· != '\x00') }

/-- The column of the cursor. -/
def column (c : Cursor) : Int := c.place.column

/-- A fault at the cursor. -/
def fault (c : Cursor) (cause : Cause) : Fault := ⟨c.place, cause⟩

/-- The next character is `d`. -/
def isAt (c : Cursor) (d : Char) : Bool := c.rest.head? == some d

/-- Past the next `n` characters of one line. -/
def forward (c : Cursor) (n : Nat) : Cursor :=
  { c with
    rest := c.rest.drop n
    place := { c.place with index := c.place.index + n, column := c.place.column + n } }

/-- Past the next `n` characters, which are no breaks and leave the margin. -/
def skip (c : Cursor) (n : Nat) : Cursor :=
  if n = 0 then c else { c.forward n with inMargin := false }

/-- The characters that come next and satisfy `p`. -/
def run (c : Cursor) (p : Char → Bool) : List Char := c.rest.takeWhile p

/-- Past the blanks that come next. -/
def skipBlanks (c : Cursor) : Cursor := c.forward (c.run isBlank).length

/-- Past the rest of the line. -/
def skipLine (c : Cursor) : Cursor := c.skip (c.run (!isBreak ·)).length

/-- Past the break that comes next. -/
def skipBreak (c : Cursor) : Cursor :=
  let past (n : Nat) : Cursor :=
    { rest := c.rest.drop n, place := ⟨c.place.index + n, c.place.line + 1, 0⟩ }
  match c.rest with
  | '\r' :: '\n' :: _ => past 2
  | d :: _ => if isBreak d then past 1 else c
  | [] => c

/-- Past the blanks and the comment that come next. -/
def toLineEnd (c : Cursor) : Except Fault Cursor :=
  let after := c.skipBlanks
  if !after.isAt '#' then .ok after
  else if after.place = c.place then .error (c.fault .gluedComment)
  else .ok after.skipLine

end Cursor

end Inspection.Cluster.Notation
