import Inspection.Shell.Place
import Inspection.Shell.Signal
import Inspection.Shell.Sum

/-!
# Shell — Replacing the parts of words

The parts of a word are replaced by pieces of text.  A piece from outside of quotes is cut into
fields where a separator stands, and the fields that are patterns are replaced by paths.

* `text`: the text of a word that is not cut.
* `fields`: the fields that words come to.
* `patternOf`: the pattern that a word is.
-/

namespace Inspection.Shell

/-- What runs the commands within words, and whole scripts; that a failure is looked at may be
known. -/
structure Runner where
  command : Bool → Command → Action Unit
  script : Bool → String → Action Unit

/-- Ends the shell if a signal has reached it that it does not handle. -/
def perish : Action Unit := do
  let st ← get
  let deadly := st.world.signals.find? fun (id, signal) =>
    id == st.id && !Signal.isHarmless signal && !Signal.isHalting signal
      && (signal == 9 || (st.traps.lookup signal).isNone)
  match if st.isCopy then none else deadly with
  | some (_, signal) => stop (.killed signal)
  | none => return ()

namespace Runner

/-- Runs an action, and what is to be done when the shell ends. -/
def finishing (r : Runner) (a : Action Unit) : Action Unit := fun st =>
  let (result, st) := a st
  match result with
  | .error .endless | .error (.killed _) => (result, st)
  | _ =>
    match st.traps.lookup 0 with
    | none => (result, st)
    | some text =>
      let st := { st with traps := setKey 0 none st.traps, loops := 0, isInFunction := false }
      match r.script false text st with
      | (.error .exit, after) => (.error .exit, after)
      | (.error .failure, after) => (.error .failure, after)
      | (.error .endless, after) => (.error .endless, after)
      | (.error (.killed n), after) => (.error (.killed n), after)
      | (_, after) => (result, { after with status := st.status })

/-- What a command prints, without the ends of lines it ends with. -/
def output (r : Runner) (c : Command) : Action (List Char) := do
  let id ← openSink
  let code ← isolated do
    modify fun st => { st with channels := setKey 1 (some (.sink id)) st.channels }
    r.finishing (r.command false c)
  let text ← closeSink id
  perish
  modify fun st => { st with substituted := code }
  return ((text.filter (· != '\x00')).reverse.dropWhile (· == '\n')).reverse

end Runner

/-! ### Parameters -/

/-- The options in the order in which they are told. -/
def optionLetters : List Char := ['p', 'u', 'b', 'a', 'C', 'E', 'V', 'v', 'x', 's', 'n', 'm', 'i',
  'I', 'f', 'e']

/-- The name stands for all arguments. -/
def isAll (name : List Char) : Bool := name == ['@'] || name == ['*']

/-- What separates the arguments when they are one text. -/
def State.joint (st : State) : String :=
  match st.value? "IFS" with
  | some s => String.ofList (s.toList.take 1)
  | none => " "

/-- What a name stands for; none if it stands for nothing. -/
def State.parameter? (st : State) (name : List Char) : Option String :=
  match name with
  | ['@'] | ['*'] => some (st.joint.intercalate st.arguments)
  | ['?'] => some (Text.natText st.status)
  | ['#'] => some (Text.natText st.arguments.length)
  | ['-'] => some (String.ofList (optionLetters.filter st.options.contains))
  | ['$'] => some (Text.natText st.id)
  | ['!'] => st.lastJob.map Text.natText
  | _ =>
    match Text.ofDigits? name with
    | some 0 => some st.name
    | some (n + 1) => st.arguments[n]?
    | none => st.value? (String.ofList name)

/-- What a name stands for, or nothing; where a name must stand for something, it is an error if it
does not. -/
def parameter (name : List Char) : Action String := do
  let st ← get
  match st.parameter? name with
  | some s => return s
  | none =>
    if st.options.contains 'u' then fail (String.ofList name ++ ": parameter not set")
    else return ""

/-! ### Pieces -/

/-- What a part of a word is replaced by. -/
inductive Piece where
  | text (isQuoted isCut : Bool) (s : List Char)
  /-- Here one field ends and another starts. -/
  | boundary
deriving DecidableEq, Repr

/-- Where a tilde stands for a folder. -/
inductive TildePlace where
  | none
  | start
  /-- At the start and behind each colon. -/
  | parts
deriving DecidableEq, Repr

/-- What a word is replaced for. -/
structure Purpose where
  /-- It is cut into fields. -/
  isCut : Bool
  /-- So are its own characters: it stands for a parameter that is not quoted. -/
  cutsText : Bool := false
  tildes : TildePlace := .none
deriving DecidableEq, Repr

/-- The folder that a tilde and a name stand for. -/
def State.home? (st : State) (name : List Char) : Option String :=
  if name.isEmpty then st.value? "HOME"
  else if name == "root".toList then some "/root"
  else none

/-- The pieces of a text with its tildes replaced; `mayStart` tells whether one may stand first, and
`isLast` whether nothing follows. -/
def State.tildePieces (st : State) (tildes : TildePlace) (isCut isLast : Bool) :
    Nat → Bool → List Char → List Piece
  | 0, _, s => [.text false isCut s]
  | fuel + 1, mayStart, s =>
    let ends (c : Char) : Bool := c == '/' || (c == ':' && tildes == .parts)
    let further (s : List Char) : List Piece :=
      if tildes == .parts then
        let before := s.takeWhile (· != ':')
        match s.drop before.length with
        | ':' :: rest =>
          .text false isCut (before ++ [':']) :: st.tildePieces tildes isCut isLast fuel true rest
        | _ => [.text false isCut s]
      else [.text false isCut s]
    match s with
    | '~' :: rest =>
      let name := rest.takeWhile fun c => !ends c
      let after := rest.drop name.length
      match if mayStart && (isLast || !after.isEmpty) then st.home? name else none with
      | some home => .text (!home.isEmpty) false home.toList :: further after
      | none => further s
    | _ => further s

/-- The text of pieces. -/
def pieceText (ps : List Piece) : List Char :=
  ps.flatMap fun
    | .text _ _ s => s
    | .boundary => []

/-- The glyphs of pieces. -/
def pieceGlyphs (ps : List Piece) : List Glyph :=
  ps.flatMap fun
    | .text q _ s => glyphs q s
    | .boundary => []

/-- What all arguments come to. -/
def State.argumentPieces (st : State) (isQuoted isCut : Bool) (name : List Char) : List Piece :=
  if isCut && (name == ['@'] || !isQuoted) then
    (st.arguments.map fun s => Piece.text isQuoted (!isQuoted) s.toList).intersperse .boundary
  else [.text isQuoted (!isQuoted) (st.joint.intercalate st.arguments).toList]

/-- What a parameter comes to. -/
def valuePieces (p : Purpose) (isQuoted : Bool) (name : List Char) : Action (List Piece) := do
  if isAll name then return (← get).argumentPieces isQuoted p.isCut name
  else return [.text isQuoted (!isQuoted) (← parameter name).toList]

mutual

/-- The pieces that the parts of a word are replaced by. -/
def wordPieces (r : Runner) (p : Purpose) (isFirst : Bool) : List Part → Action (List Piece)
  | [] => return []
  | part :: rest => do
    let first ← partPieces r p isFirst rest.isEmpty part
    return first ++ (← wordPieces r p false rest)

/-- The pieces that a part of a word is replaced by. -/
def partPieces (r : Runner) (p : Purpose) (isFirst isLast : Bool) : Part → Action (List Piece)
  | .text isQuoted s => do
    if isQuoted then return [.text true false s]
    else if p.tildes == .none then return [.text false p.cutsText s]
    else return (← get).tildePieces p.tildes p.cutsText isLast (s.length + 1) isFirst s
  | .parameter isQuoted name use => usePieces r p isQuoted name use
  | .command isQuoted c => do return [.text isQuoted (!isQuoted) (← r.output c)]
  | .sum isQuoted expression => do
    let pieces ← wordPieces r { isCut := false } true expression
    let value ← sum (pieceText pieces)
    return [.text isQuoted (!isQuoted) (Text.signedDigits value)]

/-- The pieces that a parameter is replaced by. -/
def usePieces (r : Runner) (p : Purpose) (isQuoted : Bool) (name : List Char) :
    Use → Action (List Piece)
  | .value => valuePieces p isQuoted name
  | .valueBefore w => do
    return (← valuePieces p isQuoted name) ++ (← wordPieces r { p with tildes := .none } false w)
  | .length => do
    return [.text isQuoted (!isQuoted) (Text.digits (← parameter name).toList.length)]
  | .orElse emptyToo w => do
    match ← held emptyToo with
    | true => valuePieces p isQuoted name
    | false => wordPieces r { p with cutsText := p.isCut && !isQuoted, tildes := .start } true w
  | .ifSet emptyToo w => do
    match ← held emptyToo with
    | true => wordPieces r { p with cutsText := p.isCut && !isQuoted, tildes := .start } true w
    | false => return []
  | .orAssign emptyToo w => do
    if !(← held emptyToo) then
      let pieces ← wordPieces r { isCut := false, tildes := .start } true w
      assign (String.ofList name) (String.ofList (pieceText pieces))
    valuePieces p isQuoted name
  | .orFail emptyToo w => do
    if !(← held emptyToo) then
      let pieces ← wordPieces r { isCut := false, tildes := .start } true w
      let message := String.ofList (pieceText pieces)
      let usual := if emptyToo then "parameter not set or null" else "parameter not set"
      fail (String.ofList name ++ ": " ++ if w.isEmpty then usual else message)
    valuePieces p isQuoted name
  | .trim atEnd isLongest w => do
    let isMany := isAll name && p.isCut && (name == ['@'] || !isQuoted)
    let one := (← parameter name).toList
    let all := (← get).arguments.map (·.toList)
    let value := if isMany then Text.joinWith ['\x00'] all else one
    if !(← held false) then return [.text isQuoted (!isQuoted) value]
    else
      let pattern := Pattern.ofGlyphs
        (pieceGlyphs (← wordPieces r { isCut := false, tildes := .start } true w))
      let left := (pattern.cut? atEnd isLongest value).getD value
      let texts := if isMany then Text.splitAll (· == '\x00') left else [left]
      return (texts.map fun s => Piece.text isQuoted (!isQuoted) s).intersperse .boundary
  | .bad => fail "Bad substitution"
where
  /-- The name stands for something; for something that is not empty, if that is asked. -/
  held (emptyToo : Bool) : Action Bool := do
    match (← get).parameter? name with
    | some s => return !(emptyToo && s.isEmpty)
    | none => return false

end

/-! ### Fields -/

/-- Fields that are being gathered. -/
structure Gathering where
  /-- The fields that are complete, in reverse. -/
  done : List (List Glyph) := []
  /-- The glyphs of the field that has begun, in reverse. -/
  begun : Option (List Glyph) := none
deriving DecidableEq, Repr

namespace Gathering

/-- Adds glyphs to the field; none of them begin one too. -/
def add (g : Gathering) (gs : List Glyph) : Gathering :=
  { g with begun := some (gs.reverse ++ g.begun.getD []) }

/-- Ends the field if it has begun. -/
def close (g : Gathering) : Gathering := { done := g.begun.toList ++ g.done }

/-- Ends the field, which is empty if it has not begun. -/
def closeAny (g : Gathering) : Gathering := { done := g.begun.getD [] :: g.done }

/-- The separators that are passed over behind one of them: blanks, and a single other one if none
has been passed. -/
def passOver (isSeparator isBlank : Char → Bool) : Bool → List Char → List Char
  | _, [] => []
  | mayTake, c :: s =>
    if !isSeparator c then c :: s
    else if isBlank c then passOver isSeparator isBlank mayTake s
    else if mayTake then passOver isSeparator isBlank false s
    else c :: s

/-- Cuts a text at its separators. -/
def cut (isSeparator isBlank : Char → Bool) : Nat → Gathering → List Char → Gathering
  | 0, g, _ => g
  | _ + 1, g, [] => g
  | fuel + 1, g, c :: s =>
    if !isSeparator c then cut isSeparator isBlank fuel (g.add [⟨c, false⟩]) s
    else if isBlank c && g.begun.isNone then cut isSeparator isBlank fuel g s
    else cut isSeparator isBlank fuel g.closeAny (passOver isSeparator isBlank (isBlank c) s)

/-- The fields that pieces amount to. -/
def pieces (isSeparator isBlank : Char → Bool) (ps : List Piece) : List (List Glyph) :=
  let step (g : Gathering) : Piece → Gathering
    | .boundary => g.close
    | .text q isCut s =>
      if isCut then cut isSeparator isBlank (s.length + 1) g s
      else if s.isEmpty && !q then g
      else g.add (glyphs q s)
  ((ps.foldl step {}).close.done.map List.reverse).reverse

end Gathering

/-- The characters that separate fields unless others are named. -/
def usualSeparators : List Char := [' ', '\t', '\n']

/-- The fields that pieces amount to in a shell. -/
def State.fieldsOf (st : State) (ps : List Piece) : List (List Glyph) :=
  let separators := ((st.value? "IFS").map (·.toList)).getD usualSeparators
  Gathering.pieces separators.contains usualSeparators.contains ps

/-- The paths that a field stands for, or the field itself. -/
def State.paths (st : State) (gs : List Glyph) : List String :=
  let itself := [String.ofList (glyphText gs)]
  if st.options.contains 'f' || !hasPattern gs then itself
  else
    let found := st.matching gs
    if found.isEmpty then itself else found

/-- The fields that a word comes to. -/
def fieldsOfWord (r : Runner) (w : Word) : Action (List String) := do
  let pieces ← wordPieces r { isCut := true, tildes := .start } true w
  let st ← get
  return (st.fieldsOf pieces).flatMap st.paths

/-- The fields that words come to. -/
def fields (r : Runner) : List Word → Action (List String)
  | [] => return []
  | w :: ws => do
    let first ← fieldsOfWord r w
    return first ++ (← fields r ws)

/-- The text of a word that is not cut. -/
def text (r : Runner) (w : Word) : Action String := do
  return String.ofList (pieceText (← wordPieces r { isCut := false, tildes := .start } true w))

/-- The text of a word that is assigned. -/
def assignedText (r : Runner) (w : Word) : Action String := do
  return String.ofList (pieceText (← wordPieces r { isCut := false, tildes := .parts } true w))

/-- The pattern that a word is. -/
def patternOf (r : Runner) (w : Word) : Action Pattern := do
  let pieces ← wordPieces r { isCut := false, tildes := .start } true w
  return Pattern.ofGlyphs (pieceGlyphs pieces)

end Inspection.Shell
