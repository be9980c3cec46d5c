import Inspection.Cluster.Notation.Tokens
import Inspection.Cluster.Notation.Value

/-!
# Cluster — Documents of the notation

The tokens of a text make documents, each of which stands for a value.  An alias stands for the
value that was last anchored by its name; inside that value it stands for nothing.

* `Value.documents`: the values of the documents of a text.
-/

namespace Inspection.Cluster.Notation

open Yaml (Token)

/-- The tokens that are left, and what the ones before them have declared. -/
structure Remaining where
  tokens : List (Place × Token)
  ending : Except Fault Place
  /-- What handles of tags stand for. -/
  handles : List (String × List UInt8) := []
  /-- The number of the value that each name stands for. -/
  anchors : List (String × Nat) := []
  /-- How many values have been anchored. -/
  count : Nat := 0
  /-- The anchored values that are complete. -/
  values : List (Nat × Value) := []
  /-- The first key that stands in a table twice. -/
  repeated : Option Fault := none

/-- Reading values from tokens. -/
abbrev Read := StateT Remaining (Except Fault)

namespace Read

/-- The next token, none at the end of the text, and its place. -/
def next : Read (Place × Option Token) := do
  let r ← get
  match r.tokens, r.ending with
  | (place, t) :: _, _ => return (place, some t)
  | [], .ok place => return (place, none)
  | [], .error f => throw f

/-- Past the next token. -/
def advance : Read Unit := modify fun r => { r with tokens := r.tokens.drop 1 }

/-- A bound on what is left to be read. -/
def fuel : Read Nat := return (← get).tokens.length + 2

/-! ### Properties -/

/-- What stands before a value. -/
structure Properties where
  anchor : Option Nat := none
  /-- What the handle stands for, and the name. -/
  tag : Option (List UInt8 × List UInt8) := none

/-- A name is anchored again or for the first time. -/
def anchor (name : String) : Read Nat := do
  let r ← get
  set { r with anchors := (name, r.count) :: r.anchors, count := r.count + 1 }
  return r.count

/-- What the handle of a tag stands for; one with a name between two marks must be declared. -/
def handle (place : Place) (written : String) : Read (List UInt8) := do
  match (← get).handles.lookup written with
  | some stands => return stands
  | none =>
    if written = "!!" then return Value.kindHandle
    else if written.isEmpty || written = "!" then return Text.encode written
    else throw ⟨place, .unknownHandle⟩

/-- The anchor and tag that come next, in either order. -/
def properties : Read Properties := do
  match ← next with
  | (place, some (.anchor name)) => do
    advance
    let id ← anchor name
    match ← next with
    | (_, some (.tag written suffix)) => do
      advance
      return { anchor := id, tag := (← handle place written, suffix) }
    | _ => return { anchor := id }
  | (place, some (.tag written suffix)) => do
    advance
    let tag := (← handle place written, suffix)
    match ← next with
    | (_, some (.anchor name)) => do
      advance
      return { anchor := ← anchor name, tag }
    | _ => return { tag }
  | _ => return {}

/-! ### Tables and lists -/

/-- A value and the place of the token that completes it. -/
abbrev Placed := Value × Place

/-- Reads a value unless one of the tokens in `stop` comes next: then it is empty. -/
def orEmpty (stop : List Token) (value : Read Placed) : Read Placed := do
  match ← next with
  | (place, some t) => if stop.contains t then return (.empty, place) else value
  | _ => value

/-- A table that is being read: its entries, and a key that has no value yet.  What stands for
nothing is no key; what follows it is. -/
structure Pairing where
  key : Value := .missing
  entries : List (Value × Value) := []

/-- The table with one more key or value. -/
def Pairing.add (p : Pairing) (v : Placed) : Read Pairing := do
  match p.key with
  | .missing => return { p with key := v.1 }
  | key =>
    if p.entries.any fun e => key.same e.1 then
      modify fun r =>
        { r with repeated := r.repeated.or (some ⟨v.2, .repeatedKey key.shown⟩) }
    return { entries := p.entries ++ [(key, v.1)] }

/-- The items of a block sequence, up to the token that closes it. -/
def blockItems (value : Read Placed) : Nat → List Value → Read Placed
  | 0, items => return (.list items, {})
  | n + 1, items => do
    match ← next with
    | (place, some .blockEnd) =>
      advance
      return (.list items, place)
    | (_, some .blockEntry) =>
      advance
      let item ← orEmpty [.blockEntry, .blockEnd] value
      blockItems value n (items ++ [item.1])
    | (place, _) => throw ⟨place, .dashOrEnd⟩

/-- The items of a block sequence that is not indented, up to a token that is no dash. -/
def looseItems (value : Read Placed) : Nat → List Value → Read Placed
  | 0, items => return (.list items, {})
  | n + 1, items => do
    match ← next with
    | (_, some .blockEntry) =>
      advance
      let item ← orEmpty [.blockEntry, .key, .value, .blockEnd] value
      looseItems value n (items ++ [item.1])
    | (place, _) => return (.list items, place)

/-- The value of a block mapping's key; without a colon it is empty. -/
def blockValue (value : Read Placed) : Read Placed := do
  match ← next with
  | (_, some .value) =>
    advance
    orEmpty [.key, .value, .blockEnd] value
  | (place, _) => return (.empty, place)

/-- The entries of a block mapping, up to the token that closes it. -/
def blockEntries (value : Read Placed) : Nat → Pairing → Read Placed
  | 0, p => return (.table p.entries, {})
  | n + 1, p => do
    match ← next with
    | (_, some .key) =>
      advance
      let p ← p.add (← orEmpty [.key, .value, .blockEnd] value)
      blockEntries value n (← p.add (← blockValue value))
    | (place, some .value) =>
      let p ← p.add (.empty, place)
      blockEntries value n (← p.add (← blockValue value))
    | (place, some .blockEnd) =>
      advance
      return (.table p.entries, place)
    | (place, _) => throw ⟨place, .keyOrEnd⟩

/-- A mapping of one key in a flow sequence, behind its `key` token.  An empty key takes the token
after it along. -/
def flowPair (value : Read Placed) : Read Value := do
  let stop := [Token.flowEntry, .flowSequenceEnd]
  let key ← match ← next with
    | (place, some t) =>
      if (Token.value :: stop).contains t then do
        advance
        pure (Value.empty, place)
      else value
    | _ => value
  let p ← ({} : Pairing).add key
  let p ← match ← next with
    | (_, some .value) => do
      advance
      p.add (← orEmpty stop value)
    | (place, _) => p.add (.empty, place)
  return .table p.entries

/-- The items of a flow sequence, up to the bracket that closes it. -/
def flowItems (value : Read Placed) : Nat → Bool → List Value → Read Placed
  | 0, _, items => return (.list items, {})
  | n + 1, isFirst, items => do
    if !isFirst then
      match ← next with
      | (_, some .flowSequenceEnd) => pure ()
      | (_, some .flowEntry) => advance
      | (place, _) => throw ⟨place, .commaOrBracket⟩
    match ← next with
    | (place, some .flowSequenceEnd) =>
      advance
      return (.list items, place)
    | (_, some .key) =>
      advance
      flowItems value n false (items ++ [← flowPair value])
    | _ => flowItems value n false (items ++ [(← value).1])

/-- The value of a flow mapping's key; without a colon it is empty, and an empty one behind a colon
stands there. -/
def flowValue (value : Read Placed) : Read Placed := do
  match ← next with
  | (place, some .value) =>
    advance
    match ← next with
    | (_, some .flowEntry) | (_, some .flowMappingEnd) => return (.empty, place)
    | _ => value
  | (place, _) => return (.empty, place)

/-- The entries of a flow mapping, up to the brace that closes it. -/
def flowEntries (value : Read Placed) : Nat → Bool → Pairing → Read Placed
  | 0, _, p => return (.table p.entries, {})
  | n + 1, isFirst, p => do
    if !isFirst then
      match ← next with
      | (_, some .flowMappingEnd) => pure ()
      | (_, some .flowEntry) => advance
      | (place, _) => throw ⟨place, .commaOrBrace⟩
    match ← next with
    | (place, some .flowMappingEnd) =>
      advance
      return (.table p.entries, place)
    | (_, some .key) =>
      advance
      let p ← p.add (← orEmpty [.value, .flowEntry, .flowMappingEnd] value)
      flowEntries value n false (← p.add (← flowValue value))
    | (place, some .value) =>
      let p ← p.add (.empty, place)
      flowEntries value n false (← p.add (← flowValue value))
    | _ =>
      let p ← p.add (← value)
      flowEntries value n false (← p.add (.empty, (← next).1))

/-! ### Values -/

/-- Where a value is expected: only in a block may it be a block collection, and only as a key or
value may it be a sequence that is not indented. -/
inductive Position where
  | flow
  | block
  | entry
deriving DecidableEq

/-- What a scalar stands for: a text, unless it is plain. -/
def scalar (p : Properties) (text : String) (style : Yaml.ScalarStyle) : Value :=
  if style ≠ .plain then .text text
  else match p.tag with
    | none => .ofPlain text
    | some (handle, name) => .ofTagged handle name text

mutual

/-- Reads a value; `depth` bounds how deep it is nested. -/
def value : Nat → Position → Read Placed
  | 0, _ => return (.missing, {})
  | depth + 1, position => do
    match ← next with
    | (place, some (.alias name)) => do
      advance
      let r ← get
      match r.anchors.lookup name with
      | none => throw ⟨place, .unknownAnchor⟩
      | some id => return ((r.values.lookup id).getD .missing, place)
    | _ => do
      let p ← properties
      let read ← content depth position p
      if let some id := p.anchor then
        modify fun r => { r with values := (id, read.1) :: r.values }
      return read

/-- Reads a value behind its properties; properties alone make an empty scalar. -/
def content : Nat → Position → Properties → Read Placed
  | 0, _, _ => return (.missing, {})
  | depth + 1, position, p => do
    let n ← fuel
    let inBlock := position ≠ .flow
    match ← next with
    | (place, some (.scalar text style)) => do
      advance
      return (scalar p text style, place)
    | (_, some .flowSequenceStart) => do
      advance
      flowItems (value depth .flow) n true []
    | (_, some .flowMappingStart) => do
      advance
      flowEntries (value depth .flow) n true {}
    | (place, some t) => do
      if t = .blockEntry && position = .entry then looseItems (value depth .block) n []
      else if t = .blockSequenceStart && inBlock then
        advance
        blockItems (value depth .block) n []
      else if t = .blockMappingStart && inBlock then
        advance
        blockEntries (value depth .entry) n {}
      else bare place p
    | (place, none) => bare place p
where
  /-- Properties alone. -/
  bare (place : Place) (p : Properties) : Read Placed := do
    if p.anchor.isSome || p.tag.isSome then return (scalar p "" .plain, place)
    else throw ⟨place, .content⟩

end

/-! ### Documents -/

/-- The token is a directive. -/
def isDirective : Token → Bool
  | .version .. | .tagHandle .. => true
  | _ => false

/-- The directives that come next; only what the last of them declares is kept. -/
def directives : Nat → Bool → Read Unit
  | 0, _ => return ()
  | n + 1, hasVersion => do
    match ← next with
    | (place, some (.version ..)) => do
      if hasVersion then throw ⟨place, .secondVersion⟩
      modify fun r => { r with handles := [] }
      advance
      directives n true
    | (_, some (.tagHandle handle stands)) => do
      modify fun r => { r with handles := [(handle, stands)] }
      advance
      directives n hasVersion
    | _ => return ()

/-- A document with its directives and its opening, which must not be missing. -/
def openedDocument : Read Value := do
  directives (← fuel) false
  match ← next with
  | (_, some .documentStart) => do
    advance
    match ← next with
    | (_, none) => return .empty
    | (_, some t) =>
      if isDirective t || t = .documentStart || t = .documentEnd then return .empty
      else return (← value (2 * (← fuel)) .block).1
  | (place, _) => throw ⟨place, .documentStart⟩

/-- Past the markers of a document's end that come next. -/
def skipDocumentEnds : Nat → Read Unit
  | 0 => return ()
  | n + 1 => do
    match ← next with
    | (_, some .documentEnd) => do
      advance
      skipDocumentEnds n
    | _ => return ()

/-- The documents that come next.  The first, and one behind the marker of a document's end, need
no opening. -/
def documents : Nat → Bool → List Value → Read (List Value)
  | 0, _, docs => return docs
  | n + 1, isFree, docs => do
    skipDocumentEnds (← fuel)
    match ← next with
    | (_, none) => return docs
    | (_, some t) => do
      modify fun r => { r with anchors := [] }
      let doc ←
        if isDirective t || t = .documentStart || !isFree then openedDocument
        else pure (← value (2 * (← fuel)) .block).1
      modify fun r => { r with handles := [] }
      match ← next with
      | (_, some .documentEnd) => documents n true (docs ++ [doc])
      | (place, some t) =>
        if isDirective t then throw ⟨place, .directiveInside⟩
        else documents n false (docs ++ [doc])
      | (_, none) => documents n false (docs ++ [doc])

end Read

/-- The values of the documents of a text. -/
def Value.documents (text : String) : Except Fault (List Value) := do
  let tokens := Tokens.ofText text
  let (docs, r) ←
    (do Read.documents (← Read.fuel) true []).run
      { tokens := tokens.settled, ending := tokens.ending }
  match r.repeated with
  | some f => throw f
  | none => return docs

end Inspection.Cluster.Notation
