import Inspection.Yaml.Scalar

/-!
# Yaml — The tokens of a text

Tokens are read from left to right.  Two things are only known later than they are written: that a
node is a key (by the colon after it), and that a collection has ended (by the column of what comes
next).  So the place of every node that may turn out to be a key is kept, one for each flow
collection that is open, and the columns of the block collections that are open are kept on a stack.

* `tokens`: the tokens of a text.
-/

namespace Inspection.Yaml

/-- A place where a key may have started. -/
structure KeyPlace where
  /-- Nothing but a key can stand here. -/
  required : Bool
  /-- How many tokens were read before it. -/
  before : Nat
  line : Nat
  index : Nat
  column : Nat

/-- Tokens read so far, and what later ones depend on. -/
structure Scan where
  cursor : Cursor
  tokens : Array Token := #[]
  /-- The column of the innermost block collection. -/
  indent : Int := -1
  /-- The columns of the block collections around it. -/
  outer : List Int := []
  /-- A key may start here. -/
  keyAllowed : Bool := true
  /-- The place of a possible key in the innermost collection. -/
  key : Option KeyPlace := none
  /-- The same for the collections around it, one for each open flow collection. -/
  outerKeys : List (Option KeyPlace) := []

namespace Scan

/-- Inside a flow collection. -/
def inFlow (s : Scan) : Bool := !s.outerKeys.isEmpty

/-- With one more token. -/
def push (s : Scan) (t : Token) : Scan := { s with tokens := s.tokens.push t }

/-- With the cursor moved on. -/
def goTo (s : Scan) (c : Cursor) : Scan := { s with cursor := c }

/-- With a token that takes `n` characters. -/
def pushOver (s : Scan) (n : Nat) (t : Token) : Scan := (s.push t).goTo (s.cursor.skip n)

/-- Opens a block collection at a column right of the innermost one; its token goes behind the first
`before` tokens. -/
def openBlock (s : Scan) (column : Nat) (before : Nat) (t : Token) : Scan :=
  if s.inFlow || (column : Int) ≤ s.indent then s
  else
    { s with
      outer := s.indent :: s.outer
      indent := column
      tokens := s.tokens.insertIdxIfInBounds before t }

/-- Closes the block collections right of a column. -/
def closeBlocks (s : Scan) (column : Int) : Scan :=
  if s.inFlow then s else go s.outer s
where
  /-- Closes them from the innermost outwards. -/
  go : List Int → Scan → Scan
    | [], s => s
    | around :: outer, s =>
      if s.indent ≤ column then s
      else go outer { s.push .blockEnd with indent := around, outer }

/-- Gives up the possible key of the innermost collection. -/
def dropKey (s : Scan) : Except Fault Scan :=
  if s.key.any (·.required) then .error .missingColon else .ok { s with key := none }

/-- Notes that a key may start here. -/
def noteKey (s : Scan) : Except Fault Scan :=
  if s.keyAllowed then do
    let c := s.cursor
    let place : KeyPlace :=
      { required := !s.inFlow && s.indent == c.column, before := s.tokens.size,
        line := c.line, index := c.index, column := c.column }
    let s ← s.dropKey
    return { s with key := some place }
  else .ok s

/-- The longest distance of a colon from the start of its key, in octets. -/
def longestKey : Nat := 1024

/-- A key may not reach over a line, nor too far. -/
def KeyPlace.isStale (k : KeyPlace) (c : Cursor) : Bool :=
  k.line < c.line || k.index + longestKey < c.index

/-- Gives up the keys that cannot reach the cursor. -/
def dropStaleKeys (s : Scan) : Except Fault Scan :=
  let stale (k : KeyPlace) := KeyPlace.isStale k s.cursor
  if (s.key :: s.outerKeys).any fun k => k.any fun k => stale k && k.required then
    .error .missingColon
  else
    let keep (k : Option KeyPlace) := k.filter fun k => !stale k
    .ok { s with key := keep s.key, outerKeys := s.outerKeys.map keep }

/-! ### Between tokens -/

/-- Skips blanks, comments and breaks up to the next token, and where a line starts the mark of the
encoding. -/
def skipGap : Nat → Scan → Scan
  | 0, s => s
  | fuel + 1, s =>
    let marked := s.cursor.column = 0 && s.cursor.isAt byteOrderMark
    let c := if marked then s.cursor.skip 1 else s.cursor
    let tabs := s.inFlow || !s.keyAllowed
    let c := c.skipWhile fun d => d == ' ' || (tabs && d == '\t')
    let c := if c.isAt '#' then c.skipWhile (fun d => !isBreak d) else c
    if !c.rest.isEmpty && atLineEnd c.rest then
      skipGap fuel { s with cursor := c.skipBreak, keyAllowed := s.keyAllowed || !s.inFlow }
    else s.goTo c

/-! ### Directives, tags and anchors -/

/-- One number of a version directive. -/
def versionPart (c : Cursor) : Except Fault (Nat × Cursor) :=
  let ds := c.run Char.isDigit
  if ds.length ≤ 9 then
    match Text.ofDigits? ds with
    | some n => .ok (n, c.skip ds.length)
    | none => .error .directive
  else .error .directive

/-- The handle of a tag: `!`, `!!` or `!name!`. -/
def tagHandle (inDirective : Bool) (c : Cursor) : Except Fault (List Char × Cursor) :=
  if !c.isAt '!' then .error .tagName
  else
    let word := (c.skip 1).run isWordChar
    let after := c.skip (1 + word.length)
    if after.isAt '!' then .ok ('!' :: word ++ ['!'], after.skip 1)
    else if inDirective && !word.isEmpty then .error .tagName
    else .ok ('!' :: word, after)

/-- The character may stand in the name of a tag; in a whole one also commas and brackets. -/
def isTagChar (whole : Bool) (c : Char) : Bool :=
  isWordChar c || ";/?:@&=+$.%!~*'()".toList.contains c || (whole && ",[]".toList.contains c)

/-- The octets of a character written as `%` and two digits each. -/
def escapedOctets : Nat → List Char → Except Fault (List UInt8)
  | 0, _ => .ok []
  | n + 1, s =>
    match s with
    | '%' :: a :: b :: rest =>
      match Text.ofBaseDigits? 16 [a, b] with
      | some o => (escapedOctets n rest).map (UInt8.ofNat o :: ·)
      | none => .error .tagName
    | _ => .error .tagName

/-- How many octets a character has that starts with this one. -/
def octetCount? (o : UInt8) : Option Nat :=
  if o < 0x80 then some 1
  else if o < 0xC0 then none
  else if o < 0xE0 then some 2
  else if o < 0xF0 then some 3
  else if o < 0xF8 then some 4
  else none

/-- The octets of the name of a tag and the cursor after it. -/
def tagOctets (whole : Bool) : Nat → Cursor → Except Fault (List UInt8 × Cursor)
  | 0, c => .ok ([], c)
  | fuel + 1, c =>
    match c.rest with
    | [] => .ok ([], c)
    | d :: _ =>
      if d == '%' then do
        let first ← escapedOctets 1 c.rest
        match first.head?.bind octetCount? with
        | none => .error .tagName
        | some n => do
          let octets ← escapedOctets n c.rest
          let trailing (o : UInt8) : Bool := 0x80 ≤ o && o < 0xC0
          if !(octets.drop 1).all trailing then .error .tagName
          else
            let (more, c) ← tagOctets whole fuel (c.skip (3 * n))
            return (octets ++ more, c)
      else if isTagChar whole d then do
        let (more, c) ← tagOctets whole fuel (c.skip 1)
        return (Text.encode (String.singleton d) ++ more, c)
      else .ok ([], c)

/-- The name of a tag and the cursor after it; `head` stands before it, with a mark in front. -/
def tagName (whole : Bool) (head : List Char) (c : Cursor) :
    Except Fault (List UInt8 × Cursor) := do
  let (octets, after) ← tagOctets whole (c.rest.length + 1) c
  if octets.isEmpty && head.isEmpty then .error .tagName
  else return (Text.encode (String.ofList (head.drop 1)) ++ octets, after)

/-- The rest of a directive's line. -/
def directiveEnd (c : Cursor) : Except Fault Cursor :=
  let c := c.skipWhile isSpace
  let c := if c.isAt '#' then c.skipWhile (fun d => !isBreak d) else c
  if atLineEnd c.rest then .ok c.skipBreak else .error .directive

/-- A directive, the cursor being at its `%`. -/
def directive (c : Cursor) : Except Fault (Token × Cursor) := do
  let c := c.skip 1
  let name := c.run isWordChar
  let c := c.skip name.length
  if name.isEmpty || !atGap c.rest then .error .directive
  else if name = "YAML".toList then
    let (major, c) ← versionPart (c.skipWhile isSpace)
    if !c.isAt '.' then .error .directive
    else
      let (minor, c) ← versionPart (c.skip 1)
      let c ← directiveEnd c
      return (.version major minor, c)
  else if name = "TAG".toList then
    let (handle, c) ← tagHandle true (c.skipWhile isSpace)
    if !c.rest.head?.any isSpace then .error .directive
    else
      let (stands, c) ← tagName true [] (c.skipWhile isSpace)
      if !atGap c.rest then .error .directive
      else
        let c ← directiveEnd c
        return (.tagHandle (String.ofList handle) stands, c)
  else .error .directive

/-- The octets of a tag that is nothing but its mark. -/
def bareTag : List UInt8 := Text.encode "!"

/-- A tag, the cursor being at its `!`.  A name that is empty, or ends where it starts, makes it a
mark alone. -/
def tag (inFlow : Bool) (c : Cursor) : Except Fault (Token × Cursor) := do
  let (t, c) ←
    if (c.rest.drop 1).head? = some '<' then do
      let (whole, c) ← tagName true [] (c.skip 2)
      if c.isAt '>' then pure (Token.tag "" whole, c.skip 1) else .error .tagName
    else do
      let (handle, c) ← tagHandle false c
      if 1 < handle.length && handle.getLast? = some '!' then do
        let (suffix, c) ← tagName false [] c
        pure (Token.tag (String.ofList handle) suffix, c)
      else do
        let (suffix, c) ← tagName false handle c
        let isBare := suffix.head?.all (· == 0)
        pure (if isBare then Token.tag "" bareTag else Token.tag "!" suffix, c)
  if atGap c.rest || (inFlow && c.isAt ',') then return (t, c) else .error .tagName

/-- The name of an anchor or alias, the cursor being at its `&` or `*`. -/
def anchorName (c : Cursor) : Except Fault (String × Cursor) :=
  let name := (c.skip 1).run isWordChar
  let after := c.skip (1 + name.length)
  let ends := atGap after.rest || after.rest.head?.any fun d => "?:,]\x7d%@`".toList.contains d
  if name.isEmpty || !ends then .error .anchorName else .ok (String.ofList name, after)

/-! ### Tokens -/

/-- The start of a flow collection. -/
def openFlow (s : Scan) (t : Token) : Except Fault Scan := do
  let s ← s.noteKey
  return { s.pushOver 1 t with keyAllowed := true, key := none, outerKeys := s.key :: s.outerKeys }

/-- The end of a flow collection. -/
def closeFlow (s : Scan) (t : Token) : Except Fault Scan := do
  let s ← s.dropKey
  let s := match s.outerKeys with
    | [] => s
    | key :: outerKeys => { s with key, outerKeys }
  return { s.pushOver 1 t with keyAllowed := false }

/-- The dash of a block sequence. -/
def blockEntry (s : Scan) : Except Fault Scan :=
  if !s.inFlow && !s.keyAllowed then .error (.misplaced "block sequence entries")
  else do
    let s := s.openBlock s.cursor.column s.tokens.size .blockSequenceStart
    let s ← s.dropKey
    return { s.pushOver 1 .blockEntry with keyAllowed := true }

/-- The question mark of a key. -/
def explicitKey (s : Scan) : Except Fault Scan :=
  if !s.inFlow && !s.keyAllowed then .error (.misplaced "mapping keys")
  else do
    let s := s.openBlock s.cursor.column s.tokens.size .blockMappingStart
    let s ← s.dropKey
    return { s.pushOver 1 .key with keyAllowed := !s.inFlow }

/-- The colon of a value: if a key was possible, it was one. -/
def value (s : Scan) : Except Fault Scan :=
  match s.key with
  | some k =>
    let s := { s with tokens := s.tokens.insertIdxIfInBounds k.before .key }
    let s := s.openBlock k.column k.before .blockMappingStart
    .ok { s.pushOver 1 .value with key := none, keyAllowed := false }
  | none =>
    if !s.inFlow && !s.keyAllowed then .error (.misplaced "mapping values")
    else
      let s := s.openBlock s.cursor.column s.tokens.size .blockMappingStart
      .ok { s.pushOver 1 .value with keyAllowed := !s.inFlow }

/-- A node's property or a scalar: a key may start with it. -/
def node (s : Scan) (read : Cursor → Except Fault (Token × Cursor)) : Except Fault Scan := do
  let s ← s.noteKey
  let (t, c) ← read s.cursor
  return { (s.push t).goTo c with keyAllowed := false }

/-- A plain scalar: a key may follow it where a line starts. -/
def plain (s : Scan) : Except Fault Scan := do
  let s ← s.noteKey
  let (text, broken, c) ← plainScalar s.inFlow s.indent s.cursor
  return { (s.push (.scalar text .plain)).goTo c with keyAllowed := broken }

/-- A block scalar. -/
def block (s : Scan) (folded : Bool) : Except Fault Scan := do
  let s ← s.dropKey
  let (text, c) ← blockScalar folded s.indent s.cursor
  let style := if folded then ScalarStyle.folded else .literal
  return { (s.push (.scalar text style)).goTo c with keyAllowed := true }

/-- A quoted scalar. -/
def quoted (s : Scan) (single : Bool) : Except Fault Scan :=
  s.node fun c =>
    (quotedScalar single c).map fun (text, c) =>
      (.scalar text (if single then .singleQuoted else .doubleQuoted), c)

/-- A marker of a document's start or end, or a directive: it closes everything before it. -/
def marker (s : Scan) (read : Cursor → Except Fault (Token × Cursor)) : Except Fault Scan := do
  let s ← (s.closeBlocks (-1)).dropKey
  let (t, c) ← read s.cursor
  return { (s.push t).goTo c with keyAllowed := false }

/-- The characters that start no plain scalar. -/
def isIndicator (c : Char) : Bool :=
  "-?:,[]\x7b\x7d#&*!|>'\"%@`".toList.contains c || isSpace c || isBreak c

/-- A plain scalar may start with `c` when `next` follows. -/
def startsPlain (inFlow : Bool) (c : Char) (next : List Char) : Bool :=
  !isIndicator c || (c == '-' && !next.head?.any isSpace)
    || (!inFlow && (c == '?' || c == ':') && !atGap next)

/-- Reads the token that starts with `c`. -/
def token (s : Scan) (c : Char) (next : List Char) : Except Fault Scan :=
  let gap := atGap next
  if s.cursor.column = 0 && c == '%' then s.marker directive
  else if s.cursor.atMarker '-' then s.marker fun c => .ok (.documentStart, c.skip 3)
  else if s.cursor.atMarker '.' then s.marker fun c => .ok (.documentEnd, c.skip 3)
  else if c == '[' then s.openFlow .flowSequenceStart
  else if c == '\x7b' then s.openFlow .flowMappingStart
  else if c == ']' then s.closeFlow .flowSequenceEnd
  else if c == '\x7d' then s.closeFlow .flowMappingEnd
  else if c == ',' then do
    let s ← s.dropKey
    return { s.pushOver 1 .flowEntry with keyAllowed := true }
  else if c == '-' && gap then s.blockEntry
  else if c == '?' && (s.inFlow || gap) then s.explicitKey
  else if c == ':' && (s.inFlow || gap) then s.value
  else if c == '*' then s.node fun c => (anchorName c).map fun (name, c) => (.alias name, c)
  else if c == '&' then s.node fun c => (anchorName c).map fun (name, c) => (.anchor name, c)
  else if c == '!' then s.node (tag s.inFlow)
  else if c == '|' && !s.inFlow then s.block false
  else if c == '>' && !s.inFlow then s.block true
  else if c == '\'' then s.quoted true
  else if c == '"' then s.quoted false
  else if startsPlain s.inFlow c next then s.plain
  else .error (.noToken c)

/-- Reads all tokens up to the end of the text. -/
def run : Nat → Scan → Except Fault (List Token)
  | 0, s => .ok s.tokens.toList
  | fuel + 1, s => do
    let s := s.skipGap (s.cursor.rest.length + 1)
    let s ← s.dropStaleKeys
    match s.cursor.rest with
    | [] => do
      let s ← (s.closeBlocks (-1)).dropKey
      return s.tokens.toList
    | c :: next =>
      let s ← (s.closeBlocks s.cursor.column).token c next
      run fuel s

end Scan

/-- The tokens of a text. -/
def tokens (text : String) : Except Fault (List Token) :=
  let chars := text.toList
  match chars.find? (!isAllowed ·) with
  | some c => .error (.character c)
  | none => Scan.run (chars.length + 1) { cursor := Cursor.ofText text }

end Inspection.Yaml
