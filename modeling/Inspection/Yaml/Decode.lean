import Inspection.Yaml.Atom
import Inspection.Yaml.Document
import Inspection.Yaml.Value

/-!
# Yaml — Reading data from a document

A reading follows aliases to the nodes they stand for.  How often it may do so is bounded by the
size of the document, and how deep it may go by a constant, so that a short text cannot stand for
an endless value.

* `Decode.text`, `Decode.optional?`, `Decode.items`, `Decode.entries`, `Decode.choice`: the shapes
  that a document of a known form has.
* `Decode.value`: any value.
* `decode`: reads a text.
-/

namespace Inspection.Yaml

/-- Reading from a document, with the number of aliases that may still be followed. -/
abbrev Decode (α : Type) := ReaderT Document (StateT Nat (Except Fault)) α

/-- The tags that name the forms of scalars. -/
def coreTag (name : String) : List UInt8 := Text.encode ("tag:yaml.org,2002:" ++ name)

/-- The tag starts with an exclamation mark. -/
def hasBang (tag : List UInt8) : Bool := tag.head? == some 0x21

/-- A text without the exclamation mark that it starts with, unless nothing else is in it. -/
def dropBang (s : String) : String :=
  match s.toList with
  | '!' :: c :: rest => String.ofList (c :: rest)
  | _ => s

/-- The name of a tag of the document's own, which starts with an exclamation mark and is a text. -/
def ownTag? (p : Properties) : Option String :=
  (p.tag.filter fun t => hasBang t && Text.isUtf8 t).map fun t => dropBang (Text.readLossy t)

namespace Decode

/-- How deep a document may be nested. -/
def depthLimit : Nat := 128

/-- How many aliases may be followed for each event of a document. -/
def aliasFactor : Nat := 100

/-- The node, or the one that it is an alias of. -/
def resolve (n : Node) : Decode Node := do
  match n with
  | .alias id =>
    match ← get with
    | 0 => throw .repetition
    | left + 1 =>
      set left
      match (← read).target? id with
      | some target => return target
      | none => throw (.unknownAnchor "")
  | n => return n

/-- Nothing is written. -/
def isBlank : Node → Bool
  | .scalar _ "" .plain => true
  | _ => false

/-- A text: that of any scalar. -/
def text (n : Node) : Decode String := do
  match ← resolve n with
  | .scalar _ s _ => return s
  | _ => throw (.wrongType "a string")

/-- The node spells an empty value. -/
def isNull (n : Node) : Decode Bool :=
  match n with
  | .scalar p s .plain =>
    match p.tag with
    | none => return s.isEmpty || Atom.nulls.contains s
    | some t =>
      if t = coreTag "null" then
        if Atom.nulls.contains s then return true else throw (.wrongType "null")
      else return false
  | _ => return false

/-- Nothing for an empty value, else what `f` reads. -/
def optional? {α : Type} (f : Node → Decode α) (n : Node) : Decode (Option α) := do
  let n ← resolve n
  if ← isNull n then return none else return some (← f n)

/-- The items of a sequence; none where nothing is written. -/
def items (n : Node) : Decode (List Node) := do
  match ← resolve n with
  | .sequence _ items => return items
  | n => if isBlank n then return [] else throw (.wrongType "a sequence")

/-- The entries of a mapping; none where nothing is written. -/
def entries (n : Node) : Decode (List (Node × Node)) := do
  match ← resolve n with
  | .mapping _ entries => return entries
  | n => if isBlank n then return [] else throw (.wrongType "a mapping")

/-- The entries of a mapping with a text for each key. -/
def namedEntries (n : Node) : Decode (List (String × Node)) := do
  (← entries n).mapM fun (k, v) => return (← text k, v)

/-- The entries of a mapping whose keys are among `names`, each at most once. -/
def fields (names : List String) (n : Node) : Decode (List (String × Node)) := do
  let es ← namedEntries n
  match es.find? (fun (k, _) => !names.contains k) with
  | some (k, _) => throw (.unknownField k)
  | none => distinct es
where
  /-- Refuses a key that stands twice. -/
  distinct (es : List (String × Node)) : Decode (List (String × Node)) :=
    match es with
    | [] => return []
    | (k, v) :: rest => do
      if rest.any (·.1 == k) then throw (.duplicateField k)
      else return (k, v) :: (← distinct rest)

/-- The field of a name, or a value of its own where it is missing. -/
def field {α : Type} (fs : List (String × Node)) (name : String) (missing : α)
    (f : Node → Decode α) : Decode α :=
  match fs.lookup name with
  | some n => f n
  | none => return missing

/-- The field of a name, which may not be missing. -/
def required {α : Type} (fs : List (String × Node)) (name : String) (f : Node → Decode α) :
    Decode α :=
  match fs.lookup name with
  | some n => f n
  | none => throw (.missingField name)

/-- One of several words, as a scalar or as the tag of an empty value. -/
def choice {α : Type} (words : List (String × α)) (n : Node) : Decode α := do
  match ← resolve n with
  | .scalar p s style =>
    let plainNull := style = .plain && (s.isEmpty || Atom.nulls.contains s)
    let word ← match ownTag? p with
      | none => pure s
      | some t => if plainNull then pure t else throw (.wrongType "unit")
    match words.lookup word with
    | some a => return a
    | none => throw (.unknownField word)
  | _ => throw (.wrongType "a word")

/-- The integer fits a machine word, signed or not. -/
def isWord (i : Int) : Bool := -(Text.signedBound : Int) ≤ i && i < Text.unsignedBound

/-- The value of an integer. -/
def integer (i : Int) : Decode Value :=
  if isWord i then return .integer i else throw (.wrongType "a smaller integer")

/-- The value of a plain text. -/
def plainValue (s : String) : Decode Value :=
  match Atom.ofPlain s with
  | .null => return .null
  | .bool b => return .bool b
  | .integer i => integer i
  | .float r => return .float r
  | .text => return .text s

/-- The value of a scalar.  A tag that names a form forces it, and one with an exclamation mark in
front leaves it alone; any other makes it a text, unless it has been taken as the tag of the
value. -/
def scalarValue (tagTaken : Bool) (p : Properties) (s : String) (style : ScalarStyle) :
    Decode Value :=
  match (if tagTaken then none else p.tag) with
  | some t =>
    if t = coreTag "bool" then
      match Atom.bool? s with
      | some b => return .bool b
      | none => throw (.wrongType "a boolean")
    else if t = coreTag "int" then
      match Atom.integer? s.toList with
      | some i => integer i
      | none => throw (.wrongType "an integer")
    else if t = coreTag "float" then
      match Atom.float? s.toList with
      | some r => return .float r
      | none => throw (.wrongType "a float")
    else if t = coreTag "null" then
      if Atom.nulls.contains s then return .null else throw (.wrongType "null")
    else if hasBang t && style = .plain then plainValue s
    else return .text s
  | none => if style = .plain then plainValue s else return .text s

/-- No key stands twice. -/
def distinctKeys : List (Value × Value) → Bool
  | [] => true
  | (k, _) :: rest => !rest.any (fun (k', _) => k.same k') && distinctKeys rest

/-- Any value, nested at most so deep. -/
def value : Nat → Node → Decode Value
  | depth, n => do
    let n ← resolve n
    let bare : Value ← match n with
      | .alias _ => throw .repetition
      | .scalar p s style => scalarValue (ownTag? p).isSome p s style
      | .sequence _ items =>
        match depth with
        | 0 => throw .tooDeep
        | depth + 1 => Value.sequence <$> items.mapM (value depth)
      | .mapping _ entries =>
        match depth with
        | 0 => throw .tooDeep
        | depth + 1 => do
          let es ← entries.mapM fun (k, v) => return (← value depth k, ← value depth v)
          if distinctKeys es then pure (.mapping es) else throw (.duplicateField "")
    return match ownTag? n.properties with
      | some t => .tagged (dropBang t) bare
      | none => bare

end Decode

/-- Reads the document of a text; a text without one is read as an empty scalar by what takes
those, and as nothing by what takes a text. -/
def decode {α : Type} (text : String) (f : Node → Decode α) : Except Fault α := do
  let d ← Document.read text
  let root := d.root.getD .empty
  let budget := root.eventCount * Decode.aliasFactor
  return (← (f root d).run budget).1

end Inspection.Yaml
