import Inspection.Cluster.Notation.Cursor
import Inspection.Text.Numeral
import Inspection.Text.Octets
import Inspection.Yaml.Token

/-!
# Cluster — Directives, tags and anchors

What may stand before a document and before a node.  A directive of an unknown name declares
nothing; a version is read and has no effect.

* `directive`, `tag`, `anchorName`: what is read at a mark, and the cursor after it.
-/

namespace Inspection.Cluster.Notation

/-- The character may stand in a whole tag. -/
def isUriChar (c : Char) : Bool := c.isAlphanum || "-#;/?:@&=+$,_.!~*'()[]%".toList.contains c

/-- The character may stand in the name of a tag. -/
def isTagChar (c : Char) : Bool := isUriChar c && !isFlowMark c && c != '!'

/-- An octet written as `%` and two digits. -/
def escapedOctet? : List Char → Option Nat
  | '%' :: a :: b :: _ => Text.ofBaseDigits? 16 [a, b]
  | _ => none

/-- How many octets are written together, by the first of them. -/
def octetCount? (o : Nat) : Option Nat :=
  if o < 0x80 then some 1
  else if o < 0xC0 then none
  else if o < 0xE0 then some 2
  else if o < 0xF0 then some 3
  else if o < 0xF8 then some 4
  else none

/-- The number that several octets write, each after the first continuing it. -/
def nextOctets (start : Place) : Nat → Nat → Cursor → Except Fault (Nat × Cursor)
  | 0, n, c => .ok (n, c)
  | count + 1, n, c =>
    match escapedOctet? c.rest with
    | none => .error ⟨start, .tagEscape⟩
    | some o =>
      if 0x80 ≤ o && o < 0xC0 then nextOctets start count (n * 0x100 + o) (c.skip 3)
      else .error ⟨start, .tagNextOctet⟩

/-- A character written in octets: the one whose code point is all their bits in a row. -/
def escapedChar (start : Place) (c : Cursor) : Except Fault (Char × Cursor) := do
  let some first := escapedOctet? c.rest | throw ⟨start, .tagEscape⟩
  let some count := octetCount? first | throw ⟨start, .tagFirstOctet⟩
  let (n, c) ← nextOctets start (count - 1) first (c.skip 3)
  if n.isValidChar then return (Char.ofNat n, c) else throw ⟨start, .tagCodePoint⟩

/-- The characters that satisfy `p`, with those written in octets. -/
def tagChars (p : Char → Bool) (start : Place) : Nat → Cursor → Except Fault (List Char × Cursor)
  | 0, c => .ok ([], c)
  | fuel + 1, c =>
    match c.rest with
    | [] => .ok ([], c)
    | d :: _ =>
      if !p d then .ok ([], c)
      else do
        let (d, c) ← if d == '%' then escapedChar start c else pure (d, c.skip 1)
        let (more, c) ← tagChars p start fuel c
        return (d :: more, c)

/-- The handle of a tag: `!`, `!!` or `!name!`; outside a directive also the start of a name. -/
def tagHandle (inDirective : Bool) (start : Place) (c : Cursor) :
    Except Fault (List Char × Cursor) :=
  if !c.isAt '!' then .error ⟨start, .handleStart⟩
  else
    let word := (c.skip 1).run isWordChar
    let after := c.skip (1 + word.length)
    if after.isAt '!' then .ok ('!' :: word ++ ['!'], after.skip 1)
    else if inDirective && !word.isEmpty then .error ⟨start, .handleEnd⟩
    else .ok ('!' :: word, after)

/-- What the handle of a directive stands for. -/
def tagStart (start : Place) (c : Cursor) : Except Fault (List Char × Cursor) := do
  let some d := c.rest.head? | throw ⟨start, .tagCharacter⟩
  if d != '!' && !isTagChar d then throw ⟨start, .tagCharacter⟩
  let (first, c) ← if d == '%' then escapedChar start c else pure (d, c.skip 1)
  let (more, c) ← tagChars isUriChar start (c.rest.length + 1) c
  return (first :: more, c)

/-- The octets of some characters. -/
def octets (s : List Char) : List UInt8 := Text.encode (String.ofList s)

/-- One number of a version. -/
def skipVersion (start : Place) (c : Cursor) : Except Fault Cursor :=
  let digits := c.run Char.isDigit
  if digits.isEmpty then .error ⟨start, .versionMissing⟩
  else if 9 < digits.length then .error ⟨start, .versionLong⟩
  else .ok (c.skip digits.length)

/-- A directive, the cursor being at its `%`. -/
def directive (c : Cursor) : Except Fault (Yaml.Token × Cursor) := do
  let start := c.place
  let c := c.skip 1
  let name := c.run isWordChar
  if name.isEmpty then throw (c.fault .directiveName)
  if !atGap (c.rest.drop name.length) then throw (c.fault .directiveNameEnd)
  let c := c.skip name.length
  let (token, c) ←
    if name = "YAML".toList then do
      let c ← skipVersion start c.skipBlanks
      if !c.isAt '.' then throw ⟨start, .versionPoint⟩
      let c ← skipVersion start (c.skip 1)
      pure (Yaml.Token.version 1 2, c)
    else if name = "TAG".toList then do
      let (handle, c) ← tagHandle true start c.skipBlanks
      let (stands, c) ← tagStart start c.skipBlanks
      if !atGap c.rest then throw ⟨start, .handleGap⟩
      pure (Yaml.Token.tagHandle (String.ofList handle) (octets stands), c)
    else pure (Yaml.Token.tagHandle "" [], c.skipLine)
  let c ← c.toLineEnd
  if atLineEnd c.rest then return (token, c.skipBreak) else throw ⟨start, .directiveEnd⟩

/-- A tag, the cursor being at its `!`: a whole one has no handle, and `!` alone neither. -/
def tag (inFlow : Bool) (c : Cursor) : Except Fault (Yaml.Token × Cursor) := do
  let start := c.place
  let fuel := c.rest.length + 1
  let (token, c) ←
    if (c.rest.drop 1).head? == some '<' then do
      let (whole, c) ← tagChars isUriChar start fuel (c.skip 2)
      if !c.isAt '>' then throw ⟨start, .tagClosing⟩
      pure (Yaml.Token.tag "" (octets whole), c.skip 1)
    else do
      let (handle, c) ← tagHandle false start c
      let (name, c) ← tagChars isTagChar start fuel c
      if 1 < handle.length && handle.getLast? == some '!' then do
        if name.isEmpty then throw ⟨start, .tagEmpty⟩
        pure (Yaml.Token.tag (String.ofList handle) (octets name), c)
      else
        let name := handle.drop 1 ++ name
        if name.isEmpty then pure (Yaml.Token.tag "" (octets ['!']), c)
        else pure (Yaml.Token.tag "!" (octets name), c)
  if atGap c.rest || (inFlow && c.rest.head?.any isFlowMark) then return (token, c)
  else throw ⟨start, .tagGap⟩

/-- The character may stand in the name of an anchor. -/
def isAnchorChar (c : Char) : Bool :=
  !isBreak c && !isBlank c && !isFlowMark c && c != '\uFEFF'

/-- The name of an anchor or alias, the cursor being at its `&` or `*`. -/
def anchorName (c : Cursor) : Except Fault (String × Cursor) :=
  let name := (c.skip 1).run isAnchorChar
  if name.isEmpty then .error (c.fault .anchorName)
  else .ok (String.ofList name, c.skip (1 + name.length))

end Inspection.Cluster.Notation
