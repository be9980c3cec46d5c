import Inspection.Shell.Number
import Inspection.Shell.Programs.Basic

/-!
# Shell — Programs that show files

* `cat`, `tac`, `rev`, `tee`: files as they are, or turned around.
* `head`, `tail`: their starts and ends.
* `wc`: how much they hold.
-/

namespace Inspection.Shell.Program

/-! ### Files as they are -/

/-- How a character is shown. -/
structure Shown where
  isVisible : Bool
  withTabs : Bool
  withEnds : Bool

/-- A character of seven bits as it is shown. -/
def shownPlain (n : Nat) : List Char :=
  if n < 32 then ['^', Char.ofNat (n + 64)] else if n == 127 then ['^', '?'] else [Char.ofNat n]

/-- A character inside a line as it is shown; what follows it may matter. -/
def Shown.char (h : Shown) (c : Char) (next : Option Char) : List Char :=
  if c == '\t' then if h.withTabs then ['^', 'I'] else [c]
  else if h.isVisible then
    if c.toNat < 128 then shownPlain c.toNat else 'M' :: '-' :: shownPlain (c.toNat - 128)
  else if c == '\r' && h.withEnds && next == some '\n' then ['^', 'M']
  else [c]

/-- How lines are numbered. -/
inductive Numbering where
  | nothing
  | everything
  /-- Lines that are not empty. -/
  | filled
deriving DecidableEq, Repr

/-- Where a text that is shown has got to. -/
structure ShownPlace where
  /-- The number of the last line that has one. -/
  line : Nat := 0
  /-- How many ends of lines there are behind one another, two standing for more. -/
  ends : Nat := 1
  isInLine : Bool := false

/-- A text as it is shown; lines that are empty like the one before may be left out. -/
def showText (h : Shown) (numbering : Numbering) (squeezes : Bool) :
    ShownPlace → List Char → List Char
  | _, [] => []
  | p, '\n' :: s =>
    let ends := if p.isInLine then 1 else min (p.ends + 1) 3
    if squeezes && ends == 3 then showText h numbering squeezes { p with ends } s
    else
      let isNumbered := ends > 1 && numbering == .everything
      let line := if isNumbered then p.line + 1 else p.line
      (if isNumbered then rightAligned 6 line ++ ['\t'] else [])
        ++ (if h.withEnds then ['$', '\n'] else ['\n'])
        ++ showText h numbering squeezes { line, ends } s
  | p, c :: s =>
    let isNumbered := !p.isInLine && numbering != .nothing
    let line := if isNumbered then p.line + 1 else p.line
    (if isNumbered then rightAligned 6 line ++ ['\t'] else []) ++ h.char c s.head?
      ++ showText h numbering squeezes { line, isInLine := true } s

/-- Shows files one after another. -/
def cat : Program :=
  let names := [("number-nonblank", 'b'), ("number", 'n'), ("squeeze-blank", 's'),
    ("show-nonprinting", 'v'), ("show-ends", 'E'), ("show-tabs", 'T'), ("show-all", 'A')]
  withOptions { flags := ['b', 'e', 'n', 's', 't', 'u', 'v', 'A', 'E', 'T'], names } fun c => do
    let hasOne (letters : List Char) : Bool := letters.any c.has
    let shown : Shown :=
      { isVisible := hasOne ['v', 'e', 't', 'A'], withTabs := hasOne ['T', 't', 'A']
        withEnds := hasOne ['E', 'e', 'A'] }
    let numbering : Numbering :=
      if c.has 'b' then .filled else if c.has 'n' then .everything else .nothing
    if c.options.all (·.1 == 'u') then
      eachFile (inputs c.operands) plainBlame fun _ s => print s
    else
      let texts ← octetsOfAll (inputs c.operands) plainBlame
      print (showText shown numbering (c.has 's') {} texts.flatten)

/-- The parts of a text that end in a separator, the rest being the last; or that start with one. -/
def pieces (isBefore : Bool) (separator : List Char) : Nat → List Char → List Char →
    List (List Char)
  | 0, piece, s => [piece.reverse ++ s]
  | _ + 1, piece, [] => [piece.reverse]
  | fuel + 1, piece, c :: s =>
    match Text.dropHead? separator (c :: s) with
    | some rest =>
      if isBefore then piece.reverse :: pieces isBefore separator fuel separator.reverse rest
      else (piece.reverse ++ separator) :: pieces isBefore separator fuel [] rest
    | none => pieces isBefore separator fuel (c :: piece) s

/-- Shows the parts of files in reverse. -/
def tac : Program :=
  let names := [("before", 'b'), ("regex", 'r'), ("separator", 's')]
  withOptions { flags := ['b', 'r'], valued := ['s'], names } fun c => do
    let separator := ((c.value? 's').getD "\n").toList
    let separator := if separator.isEmpty then ['\x00'] else separator
    let blame (path : String) (f : FileFault) : Action Unit :=
      match f with
      | .isFolder => tell (quotedName path ++ ": read error: Invalid argument")
      | _ => tell ("failed to open " ++ inShellQuotes path ++ " for reading: " ++ f.message)
    eachFile (inputs c.operands) blame fun _ s =>
      print (pieces (c.has 'b') separator (s.length + 1) [] s).reverse.flatten

/-- Shows lines backwards. -/
def rev : Program :=
  withOptions { flags := ['0'], names := [("zero", '0')] } fun c =>
    let lineEnd := if c.has '0' then '\x00' else '\n'
    eachFile (inputs c.operands)
      (fun path f => tell ("cannot open " ++ path ++ ": " ++ f.message)) fun _ s =>
      print ((wholeLinesBy lineEnd s).flatMap fun l =>
        if l.getLast? == some lineEnd then l.dropLast.reverse ++ [lineEnd] else l.reverse)

/-- Copies the input to files and to the output. -/
def tee : Program :=
  let names := [("append", 'a'), ("ignore-interrupts", 'i'), ("output-error", 'p')]
  withOptions { flags := ['a', 'i'], loose := ['p'], names } fun c => do
    let s ← takeInput
    print s
    c.operands.forM fun path => do
      match ← openFile (if c.has 'a' then .appending else .writing) path with
      | .ok channel =>
        let st ← get
        match st.world.write? st.job s channel with
        | some world => set { st with world }
        | none => pure ()
      | .error e =>
        let fault ← if e == "Is a directory" then pure FileFault.isFolder else absence path
        tell (quotedName path ++ ": " ++ fault.message)

/-! ### Parts of files -/

/-- Which part of a file is shown. -/
structure Portion where
  /-- The part is so many octets and not lines. -/
  isOctets : Bool
  /-- The mark in front of the number. -/
  mark : Option Char
  count : Nat

/-- The portion that a number in an option means, or what is wrong with it. -/
def Portion.read (marks : List Char) (isOctets : Bool) (s : String) : Except String Portion :=
  let (mark, digits) := match s.toList with
    | c :: rest => if marks.contains c then (some c, rest) else (none, c :: rest)
    | [] => (none, [])
  match amount digits with
  | .ok count => .ok { isOctets, mark, count }
  | .error f =>
    .error ("invalid number of " ++ (if isOctets then "bytes" else "lines") ++ ": "
      ++ named (String.ofList digits) ++ f.message)

/-- Shows the portion of each file, under a title if there are several. -/
def showPortions (c : Call) (part : {α : Type} → Portion → List α → List α) (p : Portion) :
    Action Unit := do
  let titled := match c.last? ['q', 'v'] with
    | some 'q' => false
    | some _ => true
    | none => c.operands.length > 1
  let shown (s : List Char) : List Char :=
    if p.isOctets then part p s else (part p (wholeLinesBy c.lineEnd s)).flatten
  let paths := inputs c.operands
  let show_ (isFirst : Bool) (path : String) : Action Bool := do
    match ← octetsOf path with
    | .error .missing => do
      openBlame path .missing
      return isFirst
    | .error .noFolder => do
      openBlame path .noFolder
      return isFirst
    | found => do
      if titled then
        if !isFirst then print ['\n']
        printLine ("==> " ++ (if path == "-" then "standard input" else path) ++ " <==")
      match found with
      | .ok s => print (shown s)
      | .error f => openBlame path f
      return false
  let _ ← paths.foldlM show_ true

/-- The options that `head` and `tail` share. -/
def portionNames : List (String × Char) :=
  [("bytes", 'c'), ("lines", 'n'), ("quiet", 'q'), ("silent", 'q'), ("verbose", 'v'),
    ("zero-terminated", 'z')]

/-- The portion that the options of a call ask for. -/
def Call.portion (c : Call) (marks : List Char) : Except String Portion :=
  match c.last? ['c', 'n'] with
  | some letter => Portion.read marks (letter == 'c') ((c.value? letter).getD "")
  | none => .ok { isOctets := false, mark := none, count := 10 }

/-- The options that letters behind a number mean, in the old way of telling it, and the letter that
has no meaning there. -/
def oldLetters (digits : List Char) : List Char → Except Char (List String)
  | [] => .ok ["-n" ++ String.ofList digits]
  | s =>
    let known (c : Char) : Bool := ['c', 'b', 'k', 'm', 'l', 'q', 'v', 'z'].contains c
    match s.find? (!known ·) with
    | some c => .error c
    | none =>
      let unit := (s.filter ['b', 'k', 'm'].contains).getLast?
      let isOctets := ((s.filter ['c', 'b', 'k', 'm', 'l'].contains).getLast?).any (· != 'l')
      let number := String.ofList (digits ++ unit.toList)
      let others := (s.filter ['q', 'v', 'z'].contains).map fun c => "-" ++ String.singleton c
      .ok (((if isOctets then "-c" else "-n") ++ number) :: others)

/-- Shows the starts of files. -/
def head : Program := fun args => do
  let o : Options := { flags := ['q', 'v', 'z'], valued := ['c', 'n'], names := portionNames }
  let run := withOptions o fun c => do
    let part {α : Type} (p : Portion) (xs : List α) : List α :=
      if p.mark.isSome then xs.take (xs.length - p.count) else xs.take p.count
    match c.portion ['-'] with
    | .ok p => showPortions c part p
    | .error message => tell message
  match args with
  | first :: rest =>
    match first.toList with
    | '-' :: d :: s =>
      if d.isDigit then
        let digits := (d :: s).takeWhile Char.isDigit
        match oldLetters digits ((d :: s).drop digits.length) with
        | .ok options => run (options ++ rest)
        | .error c => misuse ("invalid trailing option -- " ++ String.singleton c)
      else run args
    | _ => run args
  | [] => run args

/-- The options that an argument of `tail` means in the old way of telling them. -/
def oldTail? (s : String) : Option (List String) := do
  let (mark, rest) ← match s.toList with
    | '-' :: rest => some ("", rest)
    | '+' :: rest => some ("+", rest)
    | _ => none
  let digits := rest.takeWhile Char.isDigit
  let (unit, flags) := match rest.drop digits.length with
    | c :: more => if ['c', 'b', 'l'].contains c then (c, more) else ('l', c :: more)
    | [] => ('l', [])
  if (mark.isEmpty && digits.isEmpty) || !([[], ['f']].contains flags) then none
  else
    let number := mark ++ (if digits.isEmpty then "10" else String.ofList digits)
    let portion := if unit == 'l' then "-n" ++ number
      else "-c" ++ number ++ (if unit == 'b' then "b" else "")
    some (portion :: (flags.map fun _ => "-f"))

/-- Shows the ends of files; there may be no end of it. -/
def tail : Program := fun args => do
  let names := portionNames ++ [("follow", 'φ'), ("max-unchanged-stats", 'μ'), ("pid", 'π'),
    ("retry", 'ρ'), ("sleep-interval", 's')]
  let o : Options :=
    { flags := ['f', 'F', 'q', 'v', 'z', 'ρ'], valued := ['c', 'n', 's', 'μ', 'π'], loose := ['φ']
      names }
  let run := withOptions o fun c => do
    let part {α : Type} (p : Portion) (xs : List α) : List α :=
      if p.mark == some '+' then xs.drop (p.count - 1) else xs.drop (xs.length - p.count)
    match c.portion ['+', '-'] with
    | .ok p =>
      showPortions c part p
      if ['f', 'F', 'φ'].any c.has && c.operands.any (· != "-") then stop .endless
    | .error message => tell message
  let isAlone := match args with
    | [_] => true
    | [_, operand] => !(operand.startsWith "-" && operand.length > 1)
    | [_, "--", _] => true
    | _ => false
  match args with
  | first :: rest =>
    match if isAlone then oldTail? first else none with
    | some options => run (options ++ rest)
    | none =>
      match first.toList with
      | '-' :: d :: _ =>
        if d.isDigit then tell ("option used in invalid context -- " ++ String.singleton d)
        else run args
      | _ => run args
  | [] => run args

/-! ### Counting -/

/-- How many words a text has. -/
def countWords (s : List Char) : Nat :=
  (s.foldl (fun (r : Nat × Bool) c =>
    if isNumberBlank c then (r.1, false) else (if r.2 then r.1 else r.1 + 1, true)) (0, false)).1

/-- The columns that the widest line of a text takes. -/
def widestLine (s : List Char) : Nat :=
  let step (r : Nat × Nat) (c : Char) : Nat × Nat :=
    let (widest, column) := r
    if ['\n', '\r', '\x0c'].contains c then (max widest column, 0)
    else if c == '\t' then (widest, (column / 8 + 1) * 8)
    else (widest, if isVisible c then column + 1 else column)
  let (widest, column) := s.foldl step (0, 0)
  max widest column

/-- Counts lines, words and octets of files. -/
def wc : Program :=
  let names := [("bytes", 'c'), ("chars", 'm'), ("lines", 'l'), ("words", 'w'),
    ("max-line-length", 'L')]
  withOptions { flags := ['c', 'm', 'l', 'w', 'L'], names } fun c => do
    let wanted := if c.options.isEmpty then ['l', 'w', 'c'] else
      ['l', 'w', 'm', 'c', 'L'].filter c.has
    let counts (s : List Char) : List Nat := wanted.map fun
      | 'l' => (s.filter (· == '\n')).length
      | 'w' => countWords s
      | 'L' => widestLine s
      | _ => s.length
    let sizes ← (inputs c.operands).mapM fun path => do
      let st ← get
      match st.entryOf? path with
      | some (.file octets) =>
        return some (if place st.folder path == nullDevice then none else some octets.length)
      | some (.folder _) => return some none
      | none => return if path == "-" then some none else none
    let total := (sizes.map fun s => (s.join).getD 0).foldl (· + ·) 0
    let isPlain := c.operands.length ≤ 1 && wanted.length == 1
    let width := if isPlain then 1
      else if sizes.any (· == some none) then 7
      else (Text.digits total).length
    let row (ns : List Nat) (name : String) : Action Unit :=
      print (Text.joinWith [' '] (ns.map (rightAligned width))
        ++ (if name.isEmpty then [] else ' ' :: name.toList) ++ ['\n'])
    let rows ← (inputs c.operands).mapM fun path => do
      let name := if c.operands.isEmpty then "" else path
      match ← octetsOf path with
      | .ok s =>
        row (counts s) name
        return counts s
      | .error f =>
        plainBlame path f
        if f == .isFolder then row (wanted.map fun _ => 0) name
        return wanted.map fun _ => 0
    if c.operands.length > 1 then
      let sum (letter : Char) (a b : Nat) : Nat := if letter == 'L' then max a b else a + b
      let add (total row : List Nat) : List Nat :=
        (wanted.zip (total.zip row)).map fun (letter, a, b) => sum letter a b
      row (rows.foldl add (wanted.map fun _ => 0)) "total"

end Inspection.Shell.Program
