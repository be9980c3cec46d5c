import Inspection.Shell.Programs.Order

/-!
# Shell — Lines in order

* `SortKey`: the part of a line that is looked at.
* `sort`: lines in order, by keys.
-/

namespace Inspection.Shell.Program

/-! ### Keys -/

/-- How keys are compared, by the letters of their options. -/
abbrev KeyOptions := List Char

/-- The letters of the options of keys. -/
def keyLetters : List Char := ['b', 'd', 'f', 'g', 'h', 'i', 'M', 'n', 'R', 'r', 'V']

/-- A part of a line by which lines are compared. -/
structure SortKey where
  /-- The fields and characters that come before it. -/
  field : Nat := 0
  char : Nat := 0
  /-- The field in which it ends, and the character; the end of the field is no character. -/
  stop : Option (Nat × Nat) := none
  skipsStart : Bool := false
  skipsStop : Bool := false
  options : KeyOptions := []

/-- The part of a line that a key is. -/
def SortKey.text (k : SortKey) (tab : Option Char) (line : List Char) : List Char :=
  let blanks (skips : Bool) (s : List Char) : List Char :=
    if skips then s.dropWhile isFieldBlank else s
  let rest := (blanks k.skipsStart (dropFields tab k.field line)).drop k.char
  let start := line.length - rest.length
  let stop := match k.stop with
    | none => line.length
    | some (field, 0) => (takeFields tab field line).length
    | some (field, char + 1) =>
      let rest := blanks k.skipsStop (dropFields tab (field - 1) line)
      min line.length (line.length - rest.length + char + 1)
  (line.take stop).drop start

/-- The order of two keys. -/
def keyOrder (options : KeyOptions) (a b : List Char) : Ordering :=
  let has (c : Char) : Bool := options.contains c
  let kept (c : Char) : Bool :=
    if has 'd' then c.isAlphanum || isFieldBlank c else !has 'i' || isVisible c
  let shaped (s : List Char) : List Char :=
    let s := s.filter kept
    if has 'f' then s.map Char.toUpper else s
  let a := shaped a
  let b := shaped b
  let order :=
    if has 'n' then figureOrder (figure a).1 (figure b).1
    else if has 'g' then realOrder a b
    else if has 'h' then unitOrder a b
    else if has 'M' then compare (monthOf a) (monthOf b)
    else if has 'V' then versionNameOrder a b
    else textOrder a b
  if has 'r' then order.swap else order

/-- A number in a key, and what follows it. -/
def keyNumber (what : String) (s : List Char) : Except String (Nat × List Char) :=
  let ds := s.takeWhile Char.isDigit
  if ds.isEmpty then
    .error ("invalid number " ++ what ++ ": invalid count at start of " ++ named (String.ofList s))
  else .ok (ofDigits 10 ds, s.drop ds.length)

/-- A key by its text. -/
def SortKey.read (spec : String) : Except String SortKey := do
  let wrong {α : Type} (what : String) : Except String α :=
    throw (what ++ ": invalid field specification " ++ named spec)
  let number (what : String) (isZero : String) (s : List Char) :
      Except String (Nat × List Char) := do
    let (n, rest) ← keyNumber what s
    if n == 0 && !isZero.isEmpty then wrong isZero else return (n, rest)
  let place (what isZero : String) (s : List Char) :
      Except String (Nat × Option Nat × List Char) := do
    let (field, rest) ← number what "field number is zero" s
    match rest with
    | '.' :: rest => do
      let (char, rest) ← number "after '.'" isZero rest
      return (field, some char, rest)
    | _ => return (field, none, rest)
  let letters (s : List Char) : List Char := s.takeWhile keyLetters.contains
  let (field, char, rest) ← place "at field start" "character offset is zero" spec.toList
  let first := letters rest
  let rest := rest.drop first.length
  let (stop, second, rest) ← match rest with
    | ',' :: rest => do
      let (field, char, rest) ← place "after ','" "" rest
      let second := letters rest
      pure (some (field, char.getD 0), second, rest.drop second.length)
    | _ => pure (none, [], rest)
  if !rest.isEmpty then wrong "stray character in field spec"
  else
    return { field := field - 1, char := char.getD 1 - 1, stop
             skipsStart := first.contains 'b', skipsStop := second.contains 'b'
             options := (first ++ second).filter (· != 'b') }

/-- The options of a key that cannot stand together, in the order in which they are told. -/
def rivalOptions (options : KeyOptions) : Option String :=
  let has (c : Char) : Bool := options.contains c
  let kinds := ['n', 'g', 'h', 'M'].filter has
  let others := ['V', 'R'].filter has
  let ignores := ['d', 'i'].filter has
  let count := kinds.length + (if others.isEmpty && ignores.isEmpty then 0 else 1)
  if 1 < count then
    some (String.ofList (['d', 'f', 'g', 'h', 'i', 'M', 'n', 'R', 'V'].filter fun c =>
      has c && (c != 'i' || !has 'd')))
  else none

/-! ### Lines in order -/

/-- How lines are put in order. -/
structure Sorting where
  keys : List SortKey
  tab : Option Char
  /-- Lines with the same keys stay as they are. -/
  isStable : Bool
  isReversed : Bool

/-- The order of two lines by their keys. -/
def Sorting.keysOrder (o : Sorting) (a b : List Char) : Ordering :=
  o.keys.foldl (fun r k => r.then (keyOrder k.options (k.text o.tab a) (k.text o.tab b))) .eq

/-- The order of two lines. -/
def Sorting.order (o : Sorting) (a b : List Char) : Ordering :=
  let byKeys := o.keysOrder a b
  if o.isStable && !o.keys.isEmpty then byKeys
  else
    let whole := textOrder a b
    byKeys.then (if o.isReversed then whole.swap else whole)

/-- The first of some texts that starts with a line which comes first, among those before it and
those behind it. -/
def firstOf (atMost : List Char → List Char → Bool) :
    List (List (List Char)) → Option (List Char × List (List (List Char)))
  | [] => none
  | [] :: rest => firstOf atMost rest
  | (l :: ls) :: rest =>
    match firstOf atMost rest with
    | none => some (l, ls :: rest)
    | some (m, others) => if atMost l m then some (l, ls :: rest) else some (m, (l :: ls) :: others)

/-- The lines of texts that are in order already. -/
def mergeLines (atMost : List Char → List Char → Bool) :
    Nat → List (List (List Char)) → List (List Char)
  | 0, _ => []
  | fuel + 1, texts =>
    match firstOf atMost texts with
    | none => []
    | some (l, rest) => l :: mergeLines atMost fuel rest

/-- Lines without those that are the same as the one kept before them. -/
def distinct (same : List Char → List Char → Bool) (ls : List (List Char)) : List (List Char) :=
  (ls.foldl (fun (r : List (List Char)) l =>
    if r.head?.any (same · l) then r else l :: r) []).reverse

/-- What separates fields, as an option tells it. -/
def tabOf (s : String) : Except String Char :=
  match s.toList with
  | [] => .error "empty tab"
  | [c] => .ok c
  | ['\\', '0'] => .ok '\x00'
  | _ => .error ("multi-character tab " ++ named s)

/-- The kinds of orders that have names. -/
def orderNames : List (String × Char) :=
  [("general-numeric", 'g'), ("human-numeric", 'h'), ("month", 'M'), ("numeric", 'n'),
    ("random", 'R'), ("version", 'V')]

/-- How the options of a call put lines in order. -/
def sortingOf (c : Call) : Except String Sorting := do
  let kinds := (c.options.filter (·.1 == 'σ')).filterMap fun (_, name) => orderNames.lookup name
  let general := (c.options.map (·.1)).filter keyLetters.contains ++ kinds
  let keys ← (c.options.filter (·.1 == 'k')).mapM fun (_, spec) => SortKey.read spec
  let inherit_ (k : SortKey) : SortKey :=
    if k.options.isEmpty && !k.skipsStart && !k.skipsStop then
      { k with
        options := general.filter (· != 'b')
        skipsStart := general.contains 'b', skipsStop := general.contains 'b' }
    else k
  let keys := if keys.isEmpty && general.any (· != 'r') then [{}] else keys
  let keys := keys.map inherit_
  match keys.findSome? fun k => rivalOptions k.options with
  | some letters => throw ("options '-" ++ letters ++ "' are incompatible")
  | none =>
    let tab ← match c.value? 't' with
      | some s => (tabOf s).map some
      | none => pure none
    return { keys, tab, isStable := c.has 's' || c.has 'u', isReversed := general.contains 'r' }

/-- Reads the files that are to be put in order; at the first one that cannot be read there is a
message about it. -/
def readSorted (lineEnd : Char) : List String → Action (Except String (List (List (List Char))))
  | [] => return .ok []
  | path :: rest => do
    match ← octetsOf path with
    | .ok s => return (← readSorted lineEnd rest).map (linesBy lineEnd s :: ·)
    | .error f =>
      let what := if f == .isFolder then "read failed: " else "cannot read: "
      return .error (what ++ quotedName path ++ ": " ++ f.message)

/-- The first line that comes too early, with its number. -/
def disorder? (tooLate : List Char → List Char → Bool) :
    Nat → List (List Char) → Option (Nat × List Char)
  | n, a :: b :: rest =>
    if tooLate a b then some (n + 1, b) else disorder? tooLate (n + 1) (b :: rest)
  | _, _ => none

/-- Puts lines in order, or looks whether they are. -/
def sortLines (c : Call) (o : Sorting) : Action Unit := do
  let fail (message : String) : Action Unit := tellWith 2 message
  let paths := inputs c.operands
  let isCheck := c.has 'c' || c.has 'C' || c.has 'χ'
  let isQuiet := c.has 'C' || (c.value? 'χ').any fun s => s == "quiet" || s == "silent"
  if isCheck && c.operands.length > 1 then
    fail ("extra operand " ++ named ((c.operands[1]?).getD "") ++ " not allowed with -"
      ++ if isQuiet then "C" else "c")
  else match ← readSorted c.lineEnd paths with
  | .error message => fail message
  | .ok texts =>
    let atMost (a b : List Char) : Bool := (o.order a b).isLE
    let same (a b : List Char) : Bool :=
      if o.keys.isEmpty then a == b else (o.keysOrder a b).isEq
    if isCheck then
      let tooLate (a b : List Char) : Bool := !atMost a b || (c.has 'u' && same a b)
      match disorder? tooLate 1 texts.flatten with
      | none => return ()
      | some (n, l) =>
        if isQuiet then setStatus 1
        else
          tell (paths.headD "-" ++ ":" ++ Text.natText n ++ ": disorder: " ++ String.ofList l)
    else
      let count := (texts.map (·.length)).foldl (· + ·) 1
      let sorted :=
        if c.has 'm' then mergeLines atMost count texts else texts.flatten.mergeSort atMost
      let text := unlinesBy c.lineEnd (if c.has 'u' then distinct same sorted else sorted)
      match c.value? 'o' with
      | none => print text
      | some path =>
        match ← openFile .writing path with
        | .ok channel =>
          let st ← get
          match st.world.write? st.job text channel with
          | some world => set { st with world }
          | none => return ()
        | .error e =>
          let f ← if e == "Is a directory" then pure FileFault.isFolder else absence path
          fail ("open failed: " ++ quotedName path ++ ": " ++ f.message)

/-- Puts lines in order. -/
def sort : Program :=
  let names := [("ignore-leading-blanks", 'b'), ("batch-size", 'β'), ("check", 'χ'),
    ("compress-program", 'π'), ("debug", 'δ'), ("dictionary-order", 'd'), ("ignore-case", 'f'),
    ("files0-from", 'φ'), ("general-numeric-sort", 'g'), ("ignore-nonprinting", 'i'),
    ("key", 'k'), ("merge", 'm'), ("month-sort", 'M'), ("numeric-sort", 'n'),
    ("human-numeric-sort", 'h'), ("version-sort", 'V'), ("random-sort", 'R'),
    ("random-source", 'ρ'), ("sort", 'σ'), ("output", 'o'), ("reverse", 'r'), ("stable", 's'),
    ("buffer-size", 'S'), ("field-separator", 't'), ("temporary-directory", 'T'),
    ("unique", 'u'), ("zero-terminated", 'z'), ("parallel", 'λ')]
  withOptions
    { flags := keyLetters ++ ['c', 'C', 'm', 's', 'u', 'z', 'δ'], loose := ['χ']
      valued := ['k', 'o', 'S', 't', 'T', 'β', 'π', 'φ', 'ρ', 'σ', 'λ'], names, fault := 2 }
    fun c => do
    let wrongOrder := (c.options.filter (·.1 == 'σ')).find? fun (_, s) =>
      (orderNames.lookup s).isNone
    let checks := ["", "quiet", "silent", "diagnose-first"]
    match wrongOrder, (c.value? 'χ').filter fun s => !(checks.contains s) with
    | some (_, s), _ =>
      misuse (wrongValue s "sort" (orderNames.map fun (name, _) => "'" ++ name ++ "'"))
    | none, some s =>
      misuse (wrongValue s "check" ["'quiet', 'silent'", "'diagnose-first'"])
    | none, none =>
      if c.has 'c' && c.has 'C' then tellWith 2 "options '-cC' are incompatible"
      else match sortingOf c with
      | .error message => tellWith 2 message
      | .ok o => sortLines c o

end Inspection.Shell.Program
