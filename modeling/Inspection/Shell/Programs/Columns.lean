import Inspection.Shell.Programs.Basic

/-!
# Shell — Parts of lines

* `Span`: a range of places.
* `cut`: the characters or fields of lines at some places.
-/

namespace Inspection.Shell.Program

/-- A range of places, from one on; it may have no end. -/
structure Span where
  first : Nat
  last : Option Nat
deriving DecidableEq, Repr

/-- The span holds a place. -/
def Span.holds (r : Span) (n : Nat) : Bool := r.first ≤ n && r.last.all (n ≤ ·)

/-- How places are told. -/
structure PlaceNames where
  /-- They start at one. -/
  fromOne : String
  invalid : String
  range : String

/-- The names of places by the kind of a list. -/
def placeNames (isFields : Bool) : PlaceNames :=
  if isFields then
    { fromOne := "fields are numbered from 1", invalid := "invalid field value"
      range := "invalid field range" }
  else
    { fromOne := "byte/character positions are numbered from 1"
      invalid := "invalid byte/character position", range := "invalid byte or character range" }

/-- What separates the items of a list. -/
def isItemEnd (c : Char) : Bool := c == ',' || c == ' ' || c == '\t'

/-- A place in a list, and what follows it; none if no digit stands there. -/
def placeIn (names : PlaceNames) (s : List Char) : Except String (Option Nat × List Char) :=
  let ds := s.takeWhile Char.isDigit
  let rest := s.drop ds.length
  let isStray := rest.head?.any fun c => c != '-' && !isItemEnd c
  if isStray then .error (names.invalid ++ " " ++ named (String.ofList rest))
  else .ok (Text.ofDigits? ds, rest)

/-- The range that a list starts with, and what follows it. -/
def Span.read (names : PlaceNames) (s : List Char) : Except String (Span × List Char) := do
  let (first, rest) ← placeIn names s
  if rest.head? != some '-' then
    match first with
    | some (n + 1) => return (⟨n + 1, some (n + 1)⟩, rest)
    | _ => throw names.fromOne
  else
    let (last, rest) ← placeIn names rest.tail
    if rest.head? == some '-' then throw names.range
    match first, last with
    | none, none => throw "invalid range with no endpoint: -"
    | some 0, _ => throw names.fromOne
    | _, some b =>
      let a := first.getD 1
      if b < a then throw "invalid decreasing range" else return (⟨a, some b⟩, rest)
    | some a, none => return (⟨a, none⟩, rest)

/-- The ranges of a list. -/
def readSpans (names : PlaceNames) : Nat → List Char → Except String (List Span)
  | 0, _ => .ok []
  | fuel + 1, s => do
    let (span, rest) ← Span.read names s
    match rest with
    | [] => return [span]
    | _ :: rest => return span :: (← readSpans names fuel rest)

/-- Ranges in order, those that overlap being one. -/
def mergeSpans (spans : List Span) : List Span :=
  let sorted := spans.mergeSort fun a b => a.first ≤ b.first
  let later (a b : Option Nat) : Option Nat := do return max (← a) (← b)
  (sorted.foldl (fun (r : List Span) s =>
    match r with
    | t :: rest =>
      if t.last.all (s.first ≤ ·) then ⟨t.first, later t.last s.last⟩ :: rest else s :: r
    | [] => [s]) []).reverse

/-- The ranges of the places outside some ranges, which are in order. -/
def complementSpans (next : Nat) : List Span → List Span
  | [] => [⟨next, none⟩]
  | s :: rest =>
    let before : List Span := if next < s.first then [⟨next, some (s.first - 1)⟩] else []
    match s.last with
    | none => before
    | some last => before ++ complementSpans (last + 1) rest

/-- The elements in a span. -/
def Span.of {α : Type} (r : Span) (xs : List α) : List α :=
  let upTo := match r.last with
    | some n => xs.take n
    | none => xs
  upTo.drop (r.first - 1)

/-- A line cut to some of its fields; one without a delimiter may be kept whole. -/
def cutFields (c : Call) (spans : List Span) (delimiter : Char) (l : List Char) :
    Option (List Char) :=
  if !l.contains delimiter then if c.has 's' then none else some l
  else
    let between := ((c.value? 'ο').map (·.toList)).getD [delimiter]
    let fields := Text.splitAll (· == delimiter) l
    some (Text.joinWith between (spans.flatMap (·.of fields)))

/-- A line cut to some of its characters. -/
def cutChars (c : Call) (spans : List Span) (l : List Char) : List Char :=
  let between := ((c.value? 'ο').map (·.toList)).getD []
  Text.joinWith between ((spans.map (·.of l)).filter (!·.isEmpty))

/-- What is wrong with the options of a call. -/
def cutFault? (c : Call) : Option String :=
  let isFields := c.has 'f'
  if (c.options.filter fun (letter, _) => ['b', 'c', 'f'].contains letter).length > 1 then
    some "only one list may be specified"
  else if (c.last? ['b', 'c', 'f']).isNone then
    some "you must specify a list of bytes, characters, or fields"
  else if (c.value? 'd').any (·.length > 1) then some "the delimiter must be a single character"
  else if c.has 'd' && !isFields then
    some "an input delimiter may be specified only when operating on fields"
  else if c.has 's' && !isFields then
    some "suppressing non-delimited lines makes sense\n\tonly when operating on fields"
  else none

/-- Shows parts of lines. -/
def cut : Program :=
  let names := [("bytes", 'b'), ("characters", 'c'), ("fields", 'f'), ("delimiter", 'd'),
    ("only-delimited", 's'), ("output-delimiter", 'ο'), ("complement", 'κ'),
    ("zero-terminated", 'z')]
  withOptions
    { flags := ['n', 's', 'z', 'κ'], valued := ['b', 'c', 'd', 'f', 'ο'], names } fun c => do
    match cutFault? c with
    | some message => misuse message
    | none =>
      let letter := (c.last? ['b', 'c', 'f']).getD 'f'
      let isFields := letter == 'f'
      let list := ((c.value? letter).getD "").toList
      match readSpans (placeNames isFields) (list.length + 1) list with
      | .error message => misuse message
      | .ok spans =>
        let spans := mergeSpans spans
        let spans := if c.has 'κ' then complementSpans 1 spans else spans
        let delimiter := match (c.value? 'd').map (·.toList) with
          | none => '\t'
          | some s => s.headD '\x00'
        eachFile (inputs c.operands) plainBlame fun _ s =>
          print (unlinesBy c.lineEnd ((linesBy c.lineEnd s).filterMap fun l =>
            if isFields then cutFields c spans delimiter l else some (cutChars c spans l)))

end Inspection.Shell.Program
