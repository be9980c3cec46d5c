import Inspection.Yaml.Node
import Inspection.Yaml.Tokens

/-!
# Yaml — Documents

The tokens of a text make a stream of documents; a text that is read as data holds at most one.

* `Document.read`: the document of a text.
-/

namespace Inspection.Yaml

/-- The one document of a text, or a text without any. -/
structure Document where
  root : Option Node

/-- The tokens that are left, and what the ones before them have declared. -/
structure Remaining where
  tokens : List Token
  /-- What the handles of tags stand for. -/
  handles : List (String × List UInt8) := []
  /-- The number of the anchor that each name stands for. -/
  anchors : List (String × Nat) := []

namespace Remaining

/-- The next token. -/
def next (r : Remaining) : Option Token := r.tokens.head?

/-- Past the next token. -/
def advance (r : Remaining) : Remaining := { r with tokens := r.tokens.drop 1 }

/-- The handles that stand for something without being declared. -/
def knownHandles : List (String × List UInt8) :=
  [("!", Text.encode "!"), ("!!", Text.encode "tag:yaml.org,2002:")]

/-- A name is anchored again or for the first time: its number is how many names there were. -/
def anchor (r : Remaining) (name : String) : Nat × Remaining :=
  let others := r.anchors.filter (·.1 != name)
  (r.anchors.length, { r with anchors := (name, r.anchors.length) :: others })

/-- The tag that a handle and a suffix stand for; each of the two parts ends at a zero octet. -/
def resolveTag (r : Remaining) (handle : String) (suffix : List UInt8) :
    Except Fault (List UInt8) :=
  let part (octets : List UInt8) := octets.takeWhile (· != 0)
  if handle.isEmpty then .ok (part suffix)
  else match (r.handles ++ knownHandles).lookup handle with
    | some stands => .ok (part stands ++ part suffix)
    | none => .error .tagName

/-- The anchor and tag that come next, in either order. -/
def properties (r : Remaining) : Except Fault (Properties × Remaining) :=
  let readTag (p : Properties) (handle : String) (suffix : List UInt8) (r : Remaining) :
      Except Fault (Properties × Remaining) :=
    (r.resolveTag handle suffix).map fun t => ({ p with tag := some t }, r)
  let readAnchor (p : Properties) (name : String) (r : Remaining) : Properties × Remaining :=
    let (id, r) := r.anchor name
    ({ p with anchor := some id }, r)
  match r.tokens with
  | .anchor name :: .tag handle suffix :: rest =>
    let (p, r) := readAnchor {} name { r with tokens := rest }
    readTag p handle suffix r
  | .anchor name :: rest => .ok (readAnchor {} name { r with tokens := rest })
  | .tag handle suffix :: .anchor name :: rest =>
    (readTag {} handle suffix { r with tokens := rest }).map fun (p, r) => readAnchor p name r
  | .tag handle suffix :: rest => readTag {} handle suffix { r with tokens := rest }
  | _ => .ok ({}, r)

/-- Reads a node of a given kind. -/
abbrev Reader := Remaining → Except Fault (Node × Remaining)

/-- Reads a node unless one of the tokens in `stop`, or the end, comes next: then it is empty. -/
def orEmpty (stop : List Token) (node : Reader) : Reader := fun r =>
  if r.next.any stop.contains then .ok (.empty, r) else node r

/-- The items of a block sequence, up to the token that ends it. -/
def blockItems (stop : List Token) (node : Reader) :
    Nat → Remaining → Except Fault (List Node × Remaining)
  | 0, r => .ok ([], r)
  | fuel + 1, r =>
    if r.next = some .blockEntry then do
      let (item, r) ← orEmpty stop node r.advance
      let (items, r) ← blockItems stop node fuel r
      return (item :: items, r)
    else .ok ([], r)

/-- The entries of a block mapping. -/
def blockEntries (node : Reader) :
    Nat → Remaining → Except Fault (List (Node × Node) × Remaining)
  | 0, r => .ok ([], r)
  | fuel + 1, r =>
    let stop := [Token.key, .value, .blockEnd]
    if r.next = some .key then do
      let (key, r) ← orEmpty stop node r.advance
      let (value, r) ←
        if r.next = some .value then orEmpty stop node r.advance else pure (.empty, r)
      let (entries, r) ← blockEntries node fuel r
      return ((key, value) :: entries, r)
    else .ok ([], r)

/-- An entry of a flow sequence that is a mapping with one key, behind its `key` token.  An empty
key takes the token after it along. -/
def flowPair (node : Reader) : Reader := fun r => do
  let stop := [Token.flowEntry, .flowSequenceEnd]
  let (key, r) ←
    if r.next.any (Token.value :: stop).contains then pure (.empty, r.advance) else node r
  let (value, r) ←
    if r.next = some .value then orEmpty stop node r.advance else pure (.empty, r)
  return (.mapping {} [(key, value)], r)

/-- The items of a flow sequence, up to the bracket that closes it. -/
def flowItems (node : Reader) :
    Nat → Bool → Remaining → Except Fault (List Node × Remaining)
  | 0, _, r => .ok ([], r)
  | fuel + 1, isFirst, r =>
    if r.next = some .flowSequenceEnd then .ok ([], r.advance)
    else if !isFirst && r.next ≠ some .flowEntry then .error (.expected "',' or ']'")
    else
      let r := if isFirst then r else r.advance
      if r.next = some .flowSequenceEnd then .ok ([], r.advance)
      else do
        let (item, r) ← if r.next = some .key then flowPair node r.advance else node r
        let (items, r) ← flowItems node fuel false r
        return (item :: items, r)

/-- The entries of a flow mapping, up to the brace that closes it. -/
def flowEntries (node : Reader) :
    Nat → Bool → Remaining → Except Fault (List (Node × Node) × Remaining)
  | 0, _, r => .ok ([], r)
  | fuel + 1, isFirst, r =>
    let stop := [Token.flowEntry, .flowMappingEnd]
    if r.next = some .flowMappingEnd then .ok ([], r.advance)
    else if !isFirst && r.next ≠ some .flowEntry then .error (.expected "',' or a brace")
    else
      let r := if isFirst then r else r.advance
      if r.next = some .flowMappingEnd then .ok ([], r.advance)
      else do
        let (entry, r) ←
          if r.next = some .key then do
            let (key, r) ← orEmpty (.value :: stop) node r.advance
            let (value, r) ←
              if r.next = some .value then orEmpty stop node r.advance else pure (.empty, r)
            pure ((key, value), r)
          else do
            let (key, r) ← node r
            pure ((key, .empty), r)
        let (entries, r) ← flowEntries node fuel false r
        return (entry :: entries, r)

/-- The end of a block collection. -/
def blockEnd (what : String) (r : Remaining) : Except Fault Remaining :=
  if r.next = some .blockEnd then .ok r.advance else .error (.expected what)

/-- What stands where a node is expected: only in a block may it be a block collection, and only as
a key or value may it be a sequence that is not indented. -/
inductive Place where
  | flow
  | block
  | entry
deriving DecidableEq

/-- Reads a node; `depth` bounds how deep it is nested. -/
def node : Nat → Place → Reader
  | 0, _, _ => .error .tooDeep
  | depth + 1, place, r => do
    if let some (.alias name) := r.next then
      match r.anchors.lookup name with
      | some id => return (.alias id, r.advance)
      | none => throw (.unknownAnchor name)
    let (p, r) ← r.properties
    let count := r.tokens.length + 1
    match r.next with
    | some (.scalar text style) => return (.scalar p text style, r.advance)
    | some .flowSequenceStart => do
      let (items, r) ← flowItems (node depth .flow) count true r.advance
      return (.sequence p items, r)
    | some .flowMappingStart => do
      let (entries, r) ← flowEntries (node depth .flow) count true r.advance
      return (.mapping p entries, r)
    | some .blockEntry =>
      if place = .entry then do
        let stop := [Token.blockEntry, .key, .value, .blockEnd]
        let (items, r) ← blockItems stop (node depth .block) count r
        return (.sequence p items, r)
      else other p r
    | some .blockSequenceStart =>
      if place = .flow then other p r
      else do
        let (items, r) ← blockItems [.blockEntry, .blockEnd] (node depth .block) count r.advance
        let r ← blockEnd "'-' indicator" r
        return (.sequence p items, r)
    | some .blockMappingStart =>
      if place = .flow then other p r
      else do
        let (entries, r) ← blockEntries (node depth .entry) count r.advance
        let r ← blockEnd "key" r
        return (.mapping p entries, r)
    | _ => other p r
where
  /-- Properties alone make an empty node. -/
  other (p : Properties) (r : Remaining) : Except Fault (Node × Remaining) :=
    if p.anchor.isSome || p.tag.isSome then .ok (.scalar p "" .plain, r)
    else .error (.expected "node content")

/-! ### Documents -/

/-- The directives that come next, with what they declare. -/
def directives : Nat → Bool → Remaining → Except Fault Remaining
  | 0, _, r => .ok r
  | fuel + 1, hasVersion, r =>
    match r.next with
    | some (.version major minor) =>
      if hasVersion || major != 1 || !(minor == 1 || minor == 2) then .error .directive
      else directives fuel true r.advance
    | some (.tagHandle handle stands) =>
      if r.handles.any (·.1 == handle) then .error .directive
      else
        directives fuel hasVersion { r.advance with handles := r.handles ++ [(handle, stands)] }
    | _ => .ok r

/-- The token opens a document or stands before its opening. -/
def opensDocument : Token → Bool
  | .version .. | .tagHandle .. | .documentStart => true
  | _ => false

/-- A document with its directives and its opening. -/
def openedDocument : Reader := fun r => do
  let r ← directives (r.tokens.length + 1) false { r with handles := [], anchors := [] }
  if r.next ≠ some .documentStart then throw (.expected "<document start>")
  let r := r.advance
  match r.next with
  | none => return (.empty, r)
  | some t =>
    if opensDocument t || t = .documentEnd then return (.empty, r)
    else node (r.tokens.length + 1) .block r

/-- The first document of a stream, if there is one. -/
def firstDocument (r : Remaining) : Except Fault (Option Node × Remaining) :=
  match r.next with
  | none => .ok (none, r)
  | some t =>
    (if opensDocument t then openedDocument r else node (r.tokens.length + 1) .block r).map
      fun (root, r) => (some root, r)

end Remaining

/-- The document that the tokens make. -/
def Document.ofTokens (tokens : List Token) : Except Fault Document := do
  let (root, r) ← Remaining.firstDocument { tokens }
  let rest := r.tokens.dropWhile (· = .documentEnd)
  if rest.isEmpty then return { root } else throw .manyDocuments

/-- The document of a text. -/
def Document.read (text : String) : Except Fault Document := do
  Document.ofTokens (← tokens text)

/-- The last node that carries an anchor. -/
def Document.target? (d : Document) (anchor : Nat) : Option Node :=
  d.root.bind fun root => ((root.anchored.filter (·.1 = anchor)).getLast?).map (·.2)

end Inspection.Yaml
