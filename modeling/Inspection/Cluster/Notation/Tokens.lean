import Inspection.Cluster.Notation.Scalar
import Inspection.Cluster.Notation.Tag

/-!
# Cluster — Tokens of the notation

Reads the tokens of a text.  A key is known by the colon after it, so places where a key may have
started are remembered until a colon shows that it was one; a token is settled once no such place
is left before it.  Block collections are told by their columns: a value, and an entry whose node is
on another line, must stand one column right of its collection, which is a level of its own.

* `Tokens.ofText`: the settled tokens of a text, and what ends them.
-/

namespace Inspection.Cluster.Notation

/-- A place where a key may have started. -/
structure KeyPlace where
  place : Place
  /-- Nothing but a key can stand here. -/
  required : Bool
  /-- How many tokens were read before it. -/
  before : Nat

/-- A level that has been left for one further inside. -/
structure Level where
  column : Int
  /-- The level inside is a block collection; else it only keeps what follows right of one. -/
  toBlock : Bool

/-- Tokens read so far, and what later ones depend on. -/
structure Scan where
  cursor : Cursor
  tokens : Array (Place × Yaml.Token) := #[]
  /-- How many tokens are settled. -/
  settled : Nat := 0
  /-- The column of the innermost level. -/
  indent : Int := -1
  /-- The levels around it. -/
  levels : List Level := []
  /-- A key may start here. -/
  keyAllowed : Bool := true
  /-- The place of a possible key in the innermost collection. -/
  key : Option KeyPlace := none
  /-- The same for the collections around it, one for each open flow collection. -/
  outerKeys : List (Option KeyPlace) := []
  /-- Where a colon may stand right behind a key that is quoted or a collection. -/
  colonAt : Nat := 0
  /-- Keys belong to a flow mapping that has been opened. -/
  inMapping : Bool := false
  /-- The last colon has opened a mapping of one key, which is still open. -/
  inPair : Bool := false

namespace Scan

/-- Inside a flow collection. -/
def inFlow (s : Scan) : Bool := !s.outerKeys.isEmpty

/-- A fault at the cursor. -/
def fault (s : Scan) (cause : Cause) : Fault := s.cursor.fault cause

/-- With one more token. -/
def push (s : Scan) (place : Place) (t : Yaml.Token) : Scan :=
  { s with tokens := s.tokens.push (place, t) }

/-- With one more token behind the first `before`. -/
def insert (s : Scan) (before : Nat) (place : Place) (t : Yaml.Token) : Scan :=
  { s with tokens := s.tokens.insertIdxIfInBounds before (place, t) }

/-- With the cursor moved on. -/
def goTo (s : Scan) (c : Cursor) : Scan := { s with cursor := c }

/-! ### Levels -/

/-- The innermost level is that of a block collection. -/
def onBlock (s : Scan) : Bool := s.levels.head?.any (·.toBlock)

/-- Opens a block collection at a column right of the innermost level, which gives way to it if it
is none; its token goes behind the first `before` tokens. -/
def openBlock (s : Scan) (place : Place) (before : Nat) (t : Yaml.Token) : Scan :=
  if s.inFlow then s
  else
    let column : Int := place.column
    let s :=
      match s.levels with
      | ⟨around, false⟩ :: levels =>
        if s.indent ≤ column then { s with indent := around, levels } else s
      | _ => s
    if s.indent < column then
      { s.insert before place t with levels := ⟨s.indent, true⟩ :: s.levels, indent := column }
    else s

/-- Lets what follows stand right of the block collection only. -/
def openInside (s : Scan) : Scan :=
  if !s.inFlow && s.onBlock then
    { s with levels := ⟨s.indent, false⟩ :: s.levels, indent := s.indent + 1 }
  else s

/-- Closes the levels right of a column, and with them their block collections. -/
def closeLevels (s : Scan) (column : Int) : Scan :=
  if s.inFlow then s else go s.levels s
where
  /-- Closes them from the innermost outwards. -/
  go : List Level → Scan → Scan
    | [], s => s
    | ⟨around, toBlock⟩ :: levels, s =>
      if s.indent ≤ column then s
      else
        let s := if toBlock then s.push s.cursor.place .blockEnd else s
        go levels { s with indent := around, levels }

/-- Gives up the levels inside the innermost block collection. -/
def dropInside (s : Scan) : Scan := go s.levels s
where
  /-- Gives them up from the innermost outwards. -/
  go : List Level → Scan → Scan
    | ⟨around, false⟩ :: levels, s => go levels { s with indent := around, levels }
    | _, s => s

/-! ### Keys -/

/-- Gives up the possible key of the innermost collection. -/
def dropKey (s : Scan) : Except Fault Scan :=
  if s.key.any (·.required) then .error (s.fault .keyExpected) else .ok { s with key := none }

/-- Notes that a key may start here. -/
def noteKey (s : Scan) : Scan :=
  if s.keyAllowed then
    let required := !s.inFlow && s.indent == s.cursor.column && s.onBlock
    { s with key := some { place := s.cursor.place, required, before := s.tokens.size } }
  else s

/-- The longest distance of a colon from the start of its key. -/
def longestKey : Nat := 1024

/-- Gives up a key that cannot reach the cursor: outside flow collections it may not reach over a
line, nor too far. -/
def dropStaleKey (s : Scan) : Except Fault Scan :=
  let stale (k : KeyPlace) : Bool :=
    k.place.line < s.cursor.place.line || k.place.index + longestKey < s.cursor.place.index
  match s.key with
  | none => .ok s
  | some k =>
    if s.inFlow || !stale k then .ok s
    else if k.required then .error (s.fault .keyWithoutColon)
    else .ok { s with key := none }

/-- Settles the tokens before the first possible key. -/
def settle (s : Scan) : Scan :=
  let places := (s.key :: s.outerKeys).filterMap fun k => k.map (·.before)
  { s with settled := places.foldl min s.tokens.size }

/-! ### Between tokens -/

/-- Skips blanks, comments and breaks up to the next token.  Inside a block collection a tab in the
margin may stand left of its column only on an empty line. -/
def skipGap : Nat → Scan → Except Fault Scan
  | 0, s => .ok s
  | fuel + 1, s =>
    let c := s.cursor
    match c.rest with
    | [] => .ok s
    | d :: _ =>
      if d == '\t' && !s.levels.isEmpty && c.inMargin && c.column < s.indent then do
        let c ← c.toLineEnd
        if atLineEnd c.rest then skipGap fuel (s.goTo c) else throw (c.fault .tabIndentation)
      else if isBlank d then skipGap fuel (s.goTo (c.forward 1))
      else if isBreak d then
        skipGap fuel { s with cursor := c.skipBreak, keyAllowed := s.keyAllowed || !s.inFlow }
      else if d == '#' then skipGap fuel (s.goTo c.skipLine)
      else .ok s

/-- Skips spaces, comments and breaks after the question mark of a key, at least one of them
white. -/
def skipKeyGap (start : Cursor) : Nat → Scan → Except Fault Scan
  | 0, s => .ok s
  | fuel + 1, s =>
    let c := s.cursor
    match c.rest with
    | d :: _ =>
      if d == ' ' then skipKeyGap start fuel (s.goTo (c.forward 1))
      else if isBreak d then
        skipKeyGap start fuel
          { s with cursor := c.skipBreak, keyAllowed := s.keyAllowed || !s.inFlow }
      else if d == '#' then skipKeyGap start fuel (s.goTo c.skipLine)
      else finish s c
    | [] => finish s c
where
  /-- The gap is not empty, and no tab ends it. -/
  finish (s : Scan) (c : Cursor) : Except Fault Scan :=
    if c.place = start.place then .error (c.fault .markWithoutGap)
    else if c.isAt '\t' then .error (c.fault .tabAfterMark)
    else .ok s

/-- Skips what may follow a mark on its line. -/
def toLineEnd (s : Scan) : Except Fault Scan := s.cursor.toLineEnd.map s.goTo

/-! ### Flow collections -/

/-- How deep flow collections may be nested. -/
def deepestFlow : Nat := 255

/-- The start of a flow collection. -/
def openFlow (s : Scan) (isMapping : Bool) : Except Fault Scan := do
  let start := s.cursor.place
  let s := s.noteKey.openInside
  if deepestFlow ≤ s.outerKeys.length then throw (s.fault .tooDeep)
  let s := { s with key := none, outerKeys := s.key :: s.outerKeys, keyAllowed := true }
  let s := if isMapping then { s with inMapping := true } else s
  let s ← (s.goTo (s.cursor.skip 1)).toLineEnd
  return s.push start (if isMapping then .flowMappingStart else .flowSequenceStart)

/-- Closes the mapping of one key that the last colon has opened. -/
def closePair (s : Scan) : Scan :=
  if s.inPair then
    { s.push s.cursor.place .flowMappingEnd with inMapping := false, inPair := false }
  else s

/-- The end of a flow collection. -/
def closeFlow (s : Scan) (isMapping : Bool) : Except Fault Scan := do
  let s ← s.dropKey
  let s := match s.outerKeys with
    | [] => s
    | key :: outerKeys => { s with key, outerKeys }
  let s := { s with keyAllowed := false }.closePair
  let start := s.cursor.place
  let s ← (s.goTo (s.cursor.skip 1)).toLineEnd
  let s := if s.inFlow then { s with colonAt := s.cursor.place.index } else s
  return s.push start (if isMapping then .flowMappingEnd else .flowSequenceEnd)

/-- The comma of a flow collection. -/
def flowEntry (s : Scan) : Except Fault Scan := do
  let s := { ← s.dropKey with keyAllowed := true }.closePair
  let start := s.cursor.place
  let s ← (s.goTo (s.cursor.skip 1)).toLineEnd
  return s.push start .flowEntry

/-! ### Keys, values and entries -/

/-- The dash of a block sequence. -/
def blockEntry (s : Scan) : Except Fault Scan := do
  if s.inFlow then throw (s.fault .entryInFlow)
  if !s.keyAllowed then throw (s.fault .misplacedEntry)
  let start := s.cursor.place
  if let some (place, t) := s.tokens.back? then
    let isProperty := match t with
      | .anchor _ | .tag .. => true
      | _ => false
    if isProperty && s.settled < s.tokens.size && place.column = 0 && start.column = 0
        && -1 < s.indent then
      throw ⟨place, .anchorIndentation⟩
  let s := s.openBlock start s.tokens.size .blockSequenceStart
  let dash := s.cursor.skip 1
  let c ← dash.toLineEnd
  let tabbed := (dash.run isBlank).contains '\t'
  if tabbed && c.isAt '-' && atGap (c.rest.drop 1) then throw (c.fault .tabAfterDash)
  let s := s.goTo c
  let s := if c.rest.head?.any fun d => isBreak d || isFlowMark d then s.openInside else s
  let s ← s.dropKey
  return { s.push s.cursor.place .blockEntry with keyAllowed := true }

/-- The question mark of a key. -/
def explicitKey (s : Scan) : Except Fault Scan := do
  if !s.inFlow && !s.keyAllowed then throw (s.fault .misplacedKey)
  let start := s.cursor.place
  let s :=
    if s.inFlow then { s with inMapping := true }
    else s.openBlock start s.tokens.size .blockMappingStart
  let s := { ← s.dropKey with keyAllowed := !s.inFlow }
  let c := s.cursor.skip 1
  let s ← skipKeyGap c (c.rest.length + 1) (s.goTo c)
  return s.push start .key

/-- The colon of a value: if a key was possible, it was one.  In a flow collection it opens a
mapping of one key, unless keys belong to a flow mapping already. -/
def value (s : Scan) : Except Fault Scan := do
  let start := s.cursor.place
  let isPair := s.inFlow && !s.inMapping
  let s := { s with inPair := isPair }
  let c := s.cursor.skip 1
  let c ←
    if c.isAt '\t' then do
      let after ← c.toLineEnd
      if !(c.run isBlank).contains ' ' && after.rest.head?.any isWordChar then
        throw (after.fault .tabAfterColon)
      pure after
    else pure c
  let s := s.goTo c
  match s.key with
  | some k =>
    let s := s.insert k.before k.place .key
    if isPair && k.place.line < start.line then throw ⟨start, .brokenKey⟩
    let s := if isPair then s.insert k.before c.place .flowMappingStart else s
    let s := (s.openBlock k.place k.before .blockMappingStart).openInside
    return { s.push start .value with key := none, keyAllowed := false }
  | none =>
    let s := if isPair then s.push c.place .flowMappingStart else s
    if !s.inFlow && !s.keyAllowed then throw ⟨start, .misplacedValue⟩
    let s := (s.openBlock start s.tokens.size .blockMappingStart).openInside
    return { s.push start .value with keyAllowed := !s.inFlow }

/-! ### Nodes -/

/-- An anchor, alias or tag: a key may start with it. -/
def property (s : Scan) (read : Cursor → Except Fault (Yaml.Token × Cursor)) :
    Except Fault Scan := do
  let start := s.cursor.place
  let s := s.noteKey
  let (t, c) ← read s.cursor
  return { (s.push start t).goTo c with keyAllowed := false }

/-- A plain scalar: a key may follow it where a line starts. -/
def plain (s : Scan) : Except Fault Scan := do
  let start := s.cursor.place
  let s := s.noteKey.dropInside
  let (text, c) ← plainScalar s.inFlow s.indent s.cursor
  return { (s.push start (.scalar text .plain)).goTo c with keyAllowed := c.inMargin }

/-- A quoted scalar: in a flow collection a colon may stand right behind it. -/
def quoted (s : Scan) (quote : Char) : Except Fault Scan := do
  let start := s.cursor.place
  let s := { s.noteKey with keyAllowed := false }
  let (text, c) ← quotedScalar quote s.inFlow s.indent s.cursor
  let s ← skipGap (c.rest.length + 1) (s.goTo c)
  let style : Yaml.ScalarStyle := if quote = '"' then .doubleQuoted else .singleQuoted
  return { s.push start (.scalar text style) with colonAt := s.cursor.place.index }

/-- A block scalar. -/
def block (s : Scan) (folded : Bool) : Except Fault Scan := do
  let s := s.noteKey.dropInside
  let (text, start, c) ← blockScalar folded s.indent s.cursor
  let style : Yaml.ScalarStyle := if folded then .folded else .literal
  return { (s.push start (.scalar text style)).goTo c with keyAllowed := true }

/-- A marker of a document's start or end, or a directive: it closes everything before it. -/
def marker (s : Scan) (read : Cursor → Except Fault (Yaml.Token × Cursor)) :
    Except Fault Scan := do
  let start := s.cursor.place
  let s := { ← (s.closeLevels (-1)).dropKey with keyAllowed := false }
  let (t, c) ← read s.cursor
  return (s.push start t).goTo c

/-- The marker of a document's end, behind which nothing stands on its line. -/
def documentEnd (c : Cursor) : Except Fault (Yaml.Token × Cursor) := do
  let c ← (c.skip 3).toLineEnd
  if atLineEnd c.rest then return (.documentEnd, c) else throw (c.fault .afterDocument)

/-! ### Tokens -/

/-- Reads the token that starts with `d`. -/
def token (s : Scan) (d : Char) (next : List Char) : Except Fault Scan :=
  let c := s.cursor
  let gap := atGap next
  let adjacent := next.head?.any isFlowMark || c.place.index = s.colonAt
  if c.place.column = 0 && d == '%' then s.marker directive
  else if c.place.column = 0 && atMarker c.rest then
    if d == '-' then s.marker fun c => .ok (.documentStart, c.skip 3) else s.marker documentEnd
  else if c.column < s.indent then .error (s.fault .indentation)
  else if d == '[' then s.openFlow false
  else if d == '\x7b' then s.openFlow true
  else if d == ']' then s.closeFlow false
  else if d == '\x7d' then s.closeFlow true
  else if d == ',' then s.flowEntry
  else if d == '-' && gap then s.blockEntry
  else if d == '?' && gap then s.explicitKey
  else if d == ':' && (gap || (s.inFlow && adjacent)) then s.value
  else if d == '*' then s.property fun c => (anchorName c).map fun (n, c) => (.alias n, c)
  else if d == '&' then s.property fun c => (anchorName c).map fun (n, c) => (.anchor n, c)
  else if d == '!' then s.property (tag s.inFlow)
  else if d == '|' && !s.inFlow then s.block false
  else if d == '>' && !s.inFlow then s.block true
  else if d == '\'' || d == '"' then s.quoted d
  else if d == '%' || d == '@' || d == '\x60' then .error (s.fault (.character d))
  else s.plain

/-- The end of the text: no possible key may be required, and the place is one in the margin. -/
def finish (s : Scan) : Except Fault Scan :=
  let p := s.cursor.place
  let s := if p.column = 0 then s
    else s.goTo { s.cursor with place := { p with line := p.line + 1, column := 0 } }
  if (s.key :: s.outerKeys).any fun k => k.any (·.required) then .error (s.fault .keyExpected)
  else
    let s := { s with key := none, outerKeys := s.outerKeys.map fun _ => none }
    .ok (s.closeLevels (-1))

end Scan

/-- The tokens of a text: those that are settled, and the place where the text ends or a fault. -/
structure Tokens where
  settled : List (Place × Yaml.Token)
  ending : Except Fault Place

namespace Tokens

/-- Reads on up to the end of the text. -/
def ofScan : Nat → Scan → Tokens
  | 0, s => ⟨s.tokens.toList, .ok s.cursor.place⟩
  | fuel + 1, s =>
    let s := s.settle
    let failed (f : Fault) : Tokens := ⟨s.tokens.toList.take s.settled, .error f⟩
    let next : Except Fault (Scan × Bool) := do
      let s ← Scan.skipGap (s.cursor.rest.length + 1) s
      let s ← s.dropStaleKey
      let s := s.closeLevels s.cursor.column
      match s.cursor.rest with
      | [] => return (← s.finish, true)
      | d :: rest =>
        let s ← s.token d rest
        return (← s.dropStaleKey, false)
    match next with
    | .error f => failed f
    | .ok (s, true) => ⟨s.tokens.toList, .ok s.cursor.place⟩
    | .ok (s, false) => ofScan fuel s

/-- The tokens of a text. -/
def ofText (text : String) : Tokens :=
  let cursor := Cursor.ofText text
  ofScan (cursor.rest.length + 1) { cursor }

end Tokens

end Inspection.Cluster.Notation
