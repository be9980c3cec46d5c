import Inspection.Cluster.Notation.Cursor
import Inspection.Text.Numeral
import Inspection.Yaml.Scalar

/-!
# Cluster — The text of a scalar

The ways to write a scalar.  In plain and quoted scalars a gap that holds breaks is folded: a single
break becomes a space, and of several the first is dropped.

* `plainScalar`, `quotedScalar`, `blockScalar`: the text of a scalar and the cursor after it.
-/

namespace Inspection.Cluster.Notation

/-- The white space between two pieces of a plain or quoted scalar. -/
structure Gap where
  /-- Spaces and tabs, as long as no break has been seen. -/
  blanks : List Char := []
  /-- A break has been seen that is folded. -/
  folded : Bool := false
  /-- How many breaks have been seen besides. -/
  more : Nat := 0
  /-- A break has been seen, or one was escaped. -/
  broken : Bool := false

/-- What a gap stands for. -/
def Gap.text (g : Gap) : List Char :=
  if !g.broken then g.blanks
  else if g.folded && g.more = 0 then [' ']
  else List.replicate g.more '\n'

/-- The gap with one more break. -/
def Gap.addBreak (g : Gap) : Gap :=
  if g.broken then { g with more := g.more + 1 }
  else { g with blanks := [], folded := true, broken := true }

/-- Reads the gap that comes next; `onTab` is what happens at a tab in the margin left of a column.
A comment read there leaves the margin, and the break after it counts as a first one. -/
def readGap (column : Int) (onTab : Cursor → Except Fault Cursor) :
    Nat → Gap → Cursor → Except Fault (Gap × Cursor)
  | 0, g, c => .ok (g, c)
  | fuel + 1, g, c =>
    match c.rest with
    | [] => .ok (g, c)
    | d :: _ =>
      if isBlank d then
        if !g.broken then
          readGap column onTab fuel { g with blanks := g.blanks ++ [d] } (c.forward 1)
        else if d == '\t' && c.column < column then do
          let after ← onTab c
          readGap column onTab fuel (if after.inMargin then g else { g with broken := false }) after
        else readGap column onTab fuel g (c.forward 1)
      else if isBreak d then readGap column onTab fuel g.addBreak c.skipBreak
      else .ok (g, c)

/-! ### Plain scalars -/

/-- The piece of a plain scalar up to a gap or a mark that ends it. -/
def plainPiece (inFlow : Bool) : List Char → List Char
  | [] => []
  | c :: s =>
    let ends :=
      isBlank c || isBreak c || (inFlow && isFlowMark c)
        || (c == ':' && (atGap s || (inFlow && s.head?.any isFlowMark)))
    if ends then [] else c :: plainPiece inFlow s

/-- A tab in the margin of a plain scalar may stand on an empty line only. -/
def tabInPlain (start : Place) (c : Cursor) : Except Fault Cursor := do
  let c ← c.toLineEnd
  if atLineEnd c.rest then return c else throw ⟨start, .plainTab⟩

/-- Reads pieces and the gaps between them. -/
def plainPieces (inFlow : Bool) (column : Int) (start : Place) :
    Nat → List Char → Gap → Cursor → Except Fault (List Char × Cursor)
  | 0, text, _, c => .ok (text, c)
  | fuel + 1, text, g, c =>
    if (c.inMargin && atMarker c.rest) || c.isAt '#' then .ok (text, c)
    else if inFlow && c.isAt '-' && (c.rest.drop 1).head?.any isFlowMark then
      .error (c.fault .plainDash)
    else do
      let piece := plainPiece inFlow c.rest
      let text := if piece.isEmpty then text else text ++ g.text ++ piece
      let c := c.skip piece.length
      if c.rest.isEmpty || !atGap c.rest then return (text, c)
      else
        let (g, c) ← readGap column (tabInPlain start) (c.rest.length + 1) {} c
        if !inFlow && c.column < column then return (text, c)
        else plainPieces inFlow column start fuel text g c

/-- A plain scalar that stands right of a column. -/
def plainScalar (inFlow : Bool) (indent : Int) (c : Cursor) : Except Fault (String × Cursor) :=
  if inFlow && c.column ≤ indent then .error (c.fault .plainInFlow)
  else do
    let (text, after) ←
      plainPieces inFlow (indent + 1) c.place (c.rest.length + 1) [] {} c
    if text.isEmpty then throw (c.fault .plainEmpty) else return (String.ofList text, after)

/-! ### Quoted scalars -/

/-- The character that an escape stands for, after the backslash, and the length of the escape. -/
def escapeAt : List Char → Except Cause (Char × Nat)
  | [] => .error .escapeLetter
  | c :: s =>
    match Yaml.escaped? c, Yaml.escapeDigits? c with
    | some d, _ => .ok (d, 1)
    | none, some n =>
      let digits := s.take n
      if digits.length < n || !digits.all (Text.hexDigit? · |>.isSome) then .error .escapeDigits
      else match Yaml.codePoint? digits with
        | some d => .ok (d, n + 1)
        | none => .error .escapeCode
    | none, none => .error .escapeLetter

/-- Reads a piece of a quoted scalar up to a gap, an escaped break or the closing quote; says
whether it ends with an escaped break. -/
def quotedPiece (quote : Char) (start : Place) : Nat → List Char → Cursor →
    Except Fault (List Char × Bool × Cursor)
  | 0, text, c => .ok (text, false, c)
  | fuel + 1, text, c =>
    match c.rest with
    | [] => .ok (text, false, c)
    | d :: s =>
      if isBlank d || isBreak d then .ok (text, false, c)
      else if quote == '\'' && d == quote && s.head? == some quote then
        quotedPiece quote start fuel (text ++ [quote]) (c.skip 2)
      else if d == quote then .ok (text, false, c)
      else if quote == '"' && d == '\\' then
        if s.head?.any isBreak then .ok (text, true, (c.skip 1).skipBreak)
        else match escapeAt s with
          | .ok (e, n) => quotedPiece quote start fuel (text ++ [e]) (c.skip (n + 1))
          | .error cause => .error ⟨start, cause⟩
      else quotedPiece quote start fuel (text ++ [d]) (c.skip 1)

/-- Reads pieces and the gaps between them up to the closing quote. -/
def quotedPieces (quote : Char) (indent : Int) (start : Place) :
    Nat → List Char → Cursor → Except Fault (List Char × Cursor)
  | 0, _, c => .error (c.fault .quotedEnd)
  | fuel + 1, text, c =>
    if c.place.column = 0 && atMarker c.rest then .error ⟨start, .quotedMarker⟩
    else if c.rest.isEmpty then .error ⟨start, .quotedEnd⟩
    else if c.column < indent then .error ⟨start, .quotedIndentation⟩
    else do
      let (piece, broken, c) ← quotedPiece quote start (c.rest.length + 1) [] c
      if c.isAt quote then return (text ++ piece, c.skip 1)
      else
        let (g, c) ← readGap indent (fun c => .error (c.fault .quotedTab))
          (c.rest.length + 1) { broken } c
        quotedPieces quote indent start fuel (text ++ piece ++ g.text) c

/-- What may follow a quoted scalar that starts at a place: the end of the line, a colon, and inside
a flow collection its marks.  Outside, a colon only on the line where the scalar started. -/
def mayFollowQuoted (inFlow : Bool) (start : Place) (c : Cursor) : Bool :=
  atLineEnd c.rest
    || (inFlow && [',', '\x7d', ']'].any c.isAt)
    || (c.isAt ':' && (inFlow || start.line = c.place.line))

/-- A quoted scalar, the cursor being at its opening quote. -/
def quotedScalar (quote : Char) (inFlow : Bool) (indent : Int) (c : Cursor) :
    Except Fault (String × Cursor) := do
  let (text, after) ← quotedPieces quote indent c.place (c.rest.length + 1) [] (c.skip 1)
  let after ← after.toLineEnd
  if mayFollowQuoted inFlow c.place after then return (String.ofList text, after)
  else throw (after.fault .quotedTrail)

/-! ### Block scalars -/

/-- Reads the empty lines that come next, and the spaces of the line after them up to a column;
counts the lines. -/
def emptyLines (column : Nat) : Nat → Nat → Cursor → Nat × Cursor
  | 0, count, c => (count, c)
  | fuel + 1, count, c =>
    let c := c.forward (min (c.run (· == ' ')).length (column - c.place.column))
    if !c.rest.isEmpty && atLineEnd c.rest then emptyLines column fuel (count + 1) c.skipBreak
    else (count, c)

/-- Reads the empty lines that come next, and all spaces of the line after them; counts the lines
and finds the widest column. -/
def firstLines : Nat → Nat → Nat → Cursor → Nat × Nat × Cursor
  | 0, count, widest, c => (count, widest, c)
  | fuel + 1, count, widest, c =>
    let c := c.forward (c.run (· == ' ')).length
    let widest := max widest c.place.column
    if !c.rest.isEmpty && atLineEnd c.rest then firstLines fuel (count + 1) widest c.skipBreak
    else (count, widest, c)

/-- The breaks that stand between what has been read of a block scalar and its next line. -/
structure Pause where
  /-- The break that ends the last line. -/
  ended : Bool := false
  /-- The empty lines after it. -/
  empty : Nat := 0
  /-- The last line starts with a blank. -/
  blankStart : Bool := false

/-- What the breaks stand for, the next line starting with a blank or not. -/
def Pause.text (p : Pause) (folded blank : Bool) : List Char :=
  if folded && p.ended && !p.blankStart && !blank then
    if p.empty = 0 then [' '] else List.replicate p.empty '\n'
  else List.replicate (p.empty + if p.ended then 1 else 0) '\n'

/-- Reads the lines of a block scalar, which all start at a column. -/
def blockLines (folded : Bool) (column : Nat) :
    Nat → List Char → Pause → Cursor → List Char × Pause × Cursor
  | 0, text, p, c => (text, p, c)
  | fuel + 1, text, p, c =>
    let closed := column = 0 && c.rest.take 3 == ['.', '.', '.'] && atGap (c.rest.drop 3)
    if c.place.column ≠ column || c.rest.isEmpty || closed then (text, p, c)
    else
      let blank := c.rest.head?.any isBlank
      let line := c.run (!isBreak ·)
      let text := text ++ p.text folded blank ++ line
      let c := c.skip line.length
      if c.rest.isEmpty then (text, { blankStart := blank }, c)
      else
        let (empty, c) := emptyLines column (c.rest.length + 1) 0 c.skipBreak
        blockLines folded column fuel text { ended := true, empty, blankStart := blank } c

/-- What the breaks at the end of a block scalar stand for; a text that ends within a line that is
indented has a break there. -/
def Pause.ending (p : Pause) (chomping : Yaml.Chomping) (column : Nat) (c : Cursor) : List Char :=
  let last := List.replicate (if p.ended then 1 else 0) '\n'
  let inside := if c.rest.isEmpty && max column 1 ≤ c.place.column then ['\n'] else []
  match chomping with
  | .strip => []
  | .clip => last ++ inside
  | .keep => last ++ inside ++ List.replicate p.empty '\n'

/-- What a block scalar without lines stands for: the break of its header and the empty lines. -/
def emptyBlock (chomping : Yaml.Chomping) (headerEnds : Bool) (empty : Nat) : List Char :=
  if !headerEnds then []
  else match chomping with
    | .strip => []
    | .clip => ['\n']
    | .keep => List.replicate (max empty 1) '\n'

/-- The marks after the `|` or `>`, how breaks at the end are treated and the indentation, in either
order, and how many there are; none if the indentation is zero. -/
def blockHeader? (s : List Char) : Option (Yaml.Chomping × Nat × Nat) :=
  let chomping? : Option Char → Option Yaml.Chomping
    | some '+' => some .keep
    | some '-' => some .strip
    | _ => none
  let digit? (c : Option Char) : Option Nat :=
    (c.filter Char.isDigit).map fun c => c.toNat - '0'.toNat
  let (chomping, width, count) :=
    match chomping? s.head?, digit? s.head? with
    | some chomping, _ => (chomping, digit? (s.drop 1).head?, 1)
    | none, some n =>
      match chomping? (s.drop 1).head? with
      | some chomping => (chomping, some n, 1)
      | none => (.clip, some n, 0)
    | none, none => (.clip, none, 0)
  match width with
  | some 0 => none
  | some n => some (chomping, n, count + 1)
  | none => some (chomping, 0, count)

/-- A block scalar, the cursor being at its `|` or `>`, right of a column; its place is that of its
first line, if it has lines. -/
def blockScalar (folded : Bool) (indent : Int) (start : Cursor) :
    Except Fault (String × Place × Cursor) := do
  let c := start.skip 1
  let some (chomping, width, count) := blockHeader? c.rest | throw (start.fault .blockZero)
  let c ← (c.skip count).toLineEnd
  if !atLineEnd c.rest then throw (start.fault .blockHeader)
  let headerEnds := !c.rest.isEmpty
  let c := c.skipBreak
  if c.isAt '\t' then throw (start.fault .blockTab)
  let fuel := c.rest.length + 1
  let (empty, column, c) :=
    if 0 < width then
      let column := indent.toNat + width
      let (empty, c) := emptyLines column fuel 0 c
      (empty, column, c)
    else
      let (empty, widest, c) := firstLines fuel 0 0 c
      (empty, max widest (indent + 1).toNat, c)
  if c.rest.isEmpty then
    return (String.ofList (emptyBlock chomping headerEnds empty), start.place, c)
  else if c.place.column < column && indent < c.column then throw (c.fault .blockIndentation)
  else
    let (text, p, after) := blockLines folded column fuel [] { empty } c
    return (String.ofList (text ++ p.ending chomping column after), c.place, after)

end Inspection.Cluster.Notation
