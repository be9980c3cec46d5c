import Inspection.Yaml.Cursor
import Inspection.Yaml.Token
import Inspection.Text.Numeral
import Inspection.Text.Octets
import Inspection.Text.Split

/-!
# Yaml — The text of a scalar

The five ways to write a scalar.  In plain and quoted scalars a gap that holds breaks is folded: a
single break becomes a space, and of several the first is dropped.

* `plainScalar`, `quotedScalar`, `blockScalar`: the text of a scalar and the cursor after it.
-/

namespace Inspection.Yaml

/-- The white space between two pieces of a plain or quoted scalar. -/
structure Gap where
  /-- Spaces and tabs, as long as no break has been seen. -/
  blanks : List Char := []
  /-- The first break. -/
  first : List Char := []
  /-- The breaks after the first. -/
  more : List Char := []
  /-- A break has been seen, or one was escaped. -/
  broken : Bool := false

/-- What a gap stands for. -/
def Gap.text (g : Gap) : List Char :=
  if !g.broken then g.blanks
  else if g.first == ['\n'] then (if g.more.isEmpty then [' '] else g.more)
  else g.first ++ g.more

/-- The gap with the break that comes next. -/
def Gap.addBreak (g : Gap) (c : Cursor) : Gap :=
  if g.broken then { g with more := g.more ++ c.breakText }
  else { g with blanks := [], first := c.breakText, broken := true }

/-- Reads the gap that comes next.  With `indent`, a tab that stands left of it after a break is a
fault. -/
def readGap (indent : Option Int) : Nat → Gap → Cursor → Except Fault (Gap × Cursor)
  | 0, g, c => .ok (g, c)
  | fuel + 1, g, c =>
    match c.rest with
    | [] => .ok (g, c)
    | d :: _ =>
      if isSpace d then
        if g.broken && d == '\t' && indent.any ((c.column : Int) < ·) then .error .indentation
        else readGap indent fuel
          (if g.broken then g else { g with blanks := g.blanks ++ [d] }) (c.skip 1)
      else if isBreak d then readGap indent fuel (g.addBreak c) c.skipBreak
      else .ok (g, c)

/-! ### Plain scalars -/

/-- The character ends a plain scalar inside a flow collection. -/
def isFlowIndicator (c : Char) : Bool :=
  c == ',' || c == '[' || c == ']' || c == '{' || c == '}'

/-- The piece of a plain scalar up to a gap or an indicator that ends it. -/
def plainPiece (inFlow : Bool) : List Char → Except Fault (List Char)
  | [] => .ok []
  | c :: s =>
    if isSpace c || isBreak c then .ok []
    else if inFlow && c == ':' && s.head?.any (fun d => isFlowIndicator d || d == '?') then
      .error (.expected "a value after ':'")
    else if (c == ':' && atGap s) || (inFlow && isFlowIndicator c) then .ok []
    else (plainPiece inFlow s).map (c :: ·)

/-- Reads pieces and the gaps between them; says whether the last gap held a break. -/
def plainPieces (inFlow : Bool) (indent : Int) :
    Nat → List Char → Gap → Cursor → Except Fault (List Char × Bool × Cursor)
  | 0, text, g, c => .ok (text, g.broken, c)
  | fuel + 1, text, g, c =>
    if c.atDocumentMarker || c.isAt '#' then .ok (text, g.broken, c)
    else do
      let piece ← plainPiece inFlow c.rest
      let text := if piece.isEmpty then text else text ++ g.text ++ piece
      let broken := if piece.isEmpty then g.broken else false
      let c := c.skip piece.length
      if !atGap c.rest || c.rest.isEmpty then .ok (text, broken, c)
      else
        let (g, c) ← readGap (some indent) c.rest.length {} c
        if !inFlow && (c.column : Int) < indent then .ok (text, g.broken, c)
        else plainPieces inFlow indent fuel text g c

/-- A plain scalar: its text, whether a break follows it before the next token, and the cursor
there. -/
def plainScalar (inFlow : Bool) (indent : Int) (c : Cursor) :
    Except Fault (String × Bool × Cursor) :=
  (plainPieces inFlow (indent + 1) (c.rest.length + 1) [] {} c).map
    fun (text, broken, c) => (String.ofList text, broken, c)

/-! ### Quoted scalars -/

/-- The character that a one-letter escape stands for. -/
def escaped? : Char → Option Char
  | '0' => some '\x00'
  | 'a' => some '\x07'
  | 'b' => some '\x08'
  | 't' => some '\t'
  | '\t' => some '\t'
  | 'n' => some '\n'
  | 'v' => some '\x0b'
  | 'f' => some '\x0c'
  | 'r' => some '\r'
  | 'e' => some '\x1b'
  | ' ' => some ' '
  | '"' => some '"'
  | '/' => some '/'
  | '\\' => some '\\'
  | 'N' => some '\u0085'
  | '_' => some '\u00a0'
  | 'L' => some '\u2028'
  | 'P' => some '\u2029'
  | _ => none

/-- How many hexadecimal digits follow the letter of an escape. -/
def escapeDigits? : Char → Option Nat
  | 'x' => some 2
  | 'u' => some 4
  | 'U' => some 8
  | _ => none

/-- The code point that a text of hexadecimal digits names; a surrogate or a number beyond the last
code point is none. -/
def codePoint? (ds : List Char) : Option Char := do
  let n ← Text.ofBaseDigits? 16 ds
  if n.isValidChar then some (Char.ofNat n) else none

/-- The character that an escape stands for, after the backslash, and the length of the escape. -/
def escapeAt? : List Char → Option (Char × Nat)
  | [] => none
  | c :: s =>
    match escaped? c, escapeDigits? c with
    | some d, _ => some (d, 1)
    | none, some n =>
      if (s.take n).length = n then (codePoint? (s.take n)).map fun d => (d, n + 1) else none
    | none, none => none

/-- How a piece of a quoted scalar ends. -/
inductive PieceEnd where
  | quote
  | gap
  | escapedBreak

/-- The piece of a quoted scalar up to a gap, an escaped break or the closing quote. -/
def quotedPiece (single : Bool) : Nat → List Char → Cursor →
    Except Fault (List Char × PieceEnd × Cursor)
  | 0, text, c => .ok (text, .gap, c)
  | fuel + 1, text, c =>
    match c.rest with
    | [] => .ok (text, .gap, c)
    | d :: s =>
      if isSpace d || isBreak d then .ok (text, .gap, c)
      else if single && d == '\'' && s.head? == some '\'' then
        quotedPiece single fuel (text ++ ['\'']) (c.skip 2)
      else if d == (if single then '\'' else '"') then .ok (text, .quote, c)
      else if !single && d == '\\' && !s.isEmpty && atLineEnd s then
        .ok (text, .escapedBreak, (c.skip 1).skipBreak)
      else if !single && d == '\\' then
        match escapeAt? s with
        | some (e, n) => quotedPiece single fuel (text ++ [e]) (c.skip (n + 1))
        | none => .error .escape
      else quotedPiece single fuel (text ++ [d]) (c.skip 1)

/-- Reads pieces and the gaps between them up to the closing quote. -/
def quotedPieces (single : Bool) : Nat → List Char → Cursor → Except Fault (List Char × Cursor)
  | 0, _, _ => .error (.unclosed "quoted scalar")
  | fuel + 1, text, c =>
    if c.atDocumentMarker then .error (.unclosed "document")
    else if c.rest.isEmpty then .error (.unclosed "quoted scalar")
    else do
      let (piece, ending, c) ← quotedPiece single (c.rest.length + 1) [] c
      match ending with
      | .quote => .ok (text ++ piece, c.skip 1)
      | .gap | .escapedBreak =>
        let broken := match ending with
          | .escapedBreak => true
          | _ => false
        if c.isAt (if single then '\'' else '"') then .ok (text ++ piece, c.skip 1)
        else
          let (g, c) ← readGap none c.rest.length { broken } c
          quotedPieces single fuel (text ++ piece ++ g.text) c

/-- A quoted scalar, the cursor being at its opening quote. -/
def quotedScalar (single : Bool) (c : Cursor) : Except Fault (String × Cursor) :=
  (quotedPieces single (c.rest.length + 1) [] (c.skip 1)).map
    fun (text, c) => (String.ofList text, c)

/-! ### Block scalars -/

/-- What happens to the breaks at the end of a block scalar. -/
inductive Chomping where
  | strip
  | clip
  | keep
deriving DecidableEq

/-- Reads the empty lines that come next.  With `indent` zero, the indentation is the widest of
their columns and of the first line that is not empty, but at least `floor`. -/
def emptyLines (floor : Nat) : Nat → Nat → Nat → List Char → Cursor →
    Except Fault (List Char × Nat × Cursor)
  | 0, indent, _, breaks, c => .ok (breaks, indent, c)
  | fuel + 1, indent, widest, breaks, c =>
    let spaces := (c.run (· == ' ')).length
    let c := c.skip (if indent = 0 then spaces else min spaces (indent - c.column))
    let widest := max widest c.column
    if (indent = 0 || c.column < indent) && c.isAt '\t' then .error .indentation
    else if !c.rest.isEmpty && atLineEnd c.rest then
      emptyLines floor fuel indent widest (breaks ++ c.breakText) c.skipBreak
    else .ok (breaks, if indent = 0 then max widest floor else indent, c)

/-- Reads the lines of a block scalar.  `ending` is the break after the last line, `breaks` those of
the empty lines after it, `blankStart` whether the last line started with a space or tab. -/
def blockLines (folded : Bool) (indent : Nat) : Nat → List Char → List Char → List Char → Bool →
    Cursor → Except Fault (List Char × List Char × List Char × Cursor)
  | 0, text, ending, breaks, _, c => .ok (text, ending, breaks, c)
  | fuel + 1, text, ending, breaks, blankStart, c =>
    if c.column = indent ∧ c.rest ≠ [] then do
      let blank := c.rest.head?.any isSpace
      let joint :=
        if folded && ending == ['\n'] && !blankStart && !blank then
          (if breaks.isEmpty then [' '] else [])
        else ending
      let line := c.run (fun d => !isBreak d)
      let c := c.skip line.length
      let ending := c.breakText
      let (more, _, c) ← emptyLines indent (c.rest.length + 1) indent 0 [] c.skipBreak
      blockLines folded indent fuel (text ++ joint ++ breaks ++ line) ending more blank c
    else .ok (text, ending, breaks, c)

/-- The indicators after the `|` or `>`: chomping and indentation, in either order. -/
def blockHeader (s : List Char) : Except Fault (Chomping × Nat × Nat) :=
  let chomping? : Char → Option Chomping
    | '+' => some .keep
    | '-' => some .strip
    | _ => none
  let width? (c : Char) : Option Nat := if c.isDigit then some (c.toNat - '0'.toNat) else none
  let widthAfter (chomping : Chomping) (read : Nat) (s : List Char) :=
    match s.head?.bind width? with
    | some 0 => .error .blockHeader
    | some n => .ok (chomping, n, read + 1)
    | none => .ok (chomping, 0, read)
  match s.head?.bind chomping?, s.head?.bind width? with
  | some chomping, _ => widthAfter chomping 1 (s.drop 1)
  | none, some 0 => .error .blockHeader
  | none, some n =>
    match (s.drop 1).head?.bind chomping? with
    | some chomping => .ok (chomping, n, 2)
    | none => .ok (.clip, n, 1)
  | none, none => .ok (.clip, 0, 0)

/-- A block scalar, the cursor being at its `|` or `>`; `indent` is that of the collection around
it. -/
def blockScalar (folded : Bool) (indent : Int) (c : Cursor) : Except Fault (String × Cursor) := do
  let c := c.skip 1
  let (chomping, width, read) ← blockHeader c.rest
  let c := (c.skip read).skipWhile isSpace
  let c := if c.isAt '#' then c.skipWhile (fun d => !isBreak d) else c
  if !atLineEnd c.rest then .error .blockHeader
  else
    let floor := max 1 (indent + 1).toNat
    let own := if width = 0 then 0 else indent.toNat + width
    let fuel := c.rest.length + 1
    let (breaks, own, c) ← emptyLines floor fuel own 0 [] c.skipBreak
    let (text, ending, breaks, c) ← blockLines folded own fuel [] [] breaks false c
    let text := if chomping = .strip then text else text ++ ending
    let text := if chomping = .keep then text ++ breaks else text
    .ok (String.ofList text, c)

end Inspection.Yaml
