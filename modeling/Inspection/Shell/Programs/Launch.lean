import Inspection.Shell.Escape
import Inspection.Shell.Number
import Inspection.Shell.Signal
import Inspection.Shell.Programs.Names
import Inspection.Shell.Programs.Numbers

/-!
# Shell — Programs that run others

* `env`: with other variables.
* `xargs`: with the words of the input.
* `timeout`, `nohup`: not longer than for some time, or in spite of the end of a terminal.
-/

namespace Inspection.Shell.Program

/-- Finds the program that a name means, or why there is none: an exit code and a wording. -/
abbrev Finder := String → Action (Except (Nat × String) Program)

/-! ### Other variables -/

/-- Text in blanks, as words. -/
def wordsOf (s : String) : List String :=
  ((Text.splitAll isNumberBlank s.toList).filter (!·.isEmpty)).map String.ofList

/-- Arguments with the words of a text in front of them, if an option asks for that. -/
def withSplit : List String → List String
  | "-S" :: s :: rest => wordsOf s ++ rest
  | a :: rest =>
    match Text.dropHead? "-S".toList a.toList, Text.dropHead? "--split-string=".toList a.toList with
    | some s, _ | none, some s => wordsOf (String.ofList s) ++ rest
    | none, none => a :: rest
  | [] => []

/-- Takes variables away, and sets others; the arguments that are left. -/
def setEnvironment (c : Call) : Action (List String) := do
  if c.has 'i' || c.operands.head? == some "-" then
    modify fun st => { st with vars := st.vars.map fun v => { v with isExported := false } }
  (c.options.filter (·.1 == 'u')).forM fun (_, name) =>
    modify fun st => st.setVariable name none
  let operands := if c.operands.head? == some "-" then c.operands.tail else c.operands
  let given := operands.takeWhile fun s => s.toList.contains '='
  given.forM fun s =>
    match Text.splitFirst? (· == '=') s.toList with
    | some (name, value) =>
      let name := String.ofList name
      modify fun st => st.setVariable name
        (some { name, value := some (String.ofList value), isExported := true })
    | none => return ()
  return operands.drop given.length

/-- Runs a program with other variables, or shows the variables. -/
def env (find : Finder) : Program := fun args => do
  let names := [("ignore-environment", 'i'), ("null", '0'), ("unset", 'u'), ("chdir", 'C'),
    ("split-string", 'S'), ("debug", 'v')]
  let o : Options :=
    { flags := ['i', '0', 'v'], valued := ['u', 'C', 'S'], names, fault := 125
      stopsAtOperand := true }
  let fail (message : String) : Action Unit := tellWith 125 message
  let run := withOptions o fun c => do
    let wrongName := (c.options.filter (·.1 == 'u')).find? fun (_, s) =>
      s.isEmpty || s.toList.contains '='
    match wrongName with
    | some (_, s) => fail ("cannot unset " ++ named s ++ ": Invalid argument")
    | none =>
      let rest ← setEnvironment c
      let goesThere ← match c.value? 'C' with
        | none => pure true
        | some path => do
          if (← get).isFolder path then
            modify fun st => { st with folder := place st.folder path }
            pure true
          else
            fail ("cannot change directory to " ++ named path ++ ": "
              ++ (← absence path).message)
            pure false
      if !goesThere then return ()
      else match rest with
      | [] =>
        showTexts c ((← get).environment.map fun (name, value) => name ++ "=" ++ value)
      | name :: rest =>
        if c.has '0' then misuseWith 125 "cannot specify --null (-0) with command"
        else match ← find name with
        | .ok p => runAs name p rest
        | .error (status, message) => tellWith status (named name ++ ": " ++ message)
  run (withSplit args)

/-! ### Words of the input -/

/-- An item of the input; whether its line ends behind it. -/
structure Item where
  text : List Char
  endsLine : Bool

/-- The items of a text, and the quote that is not closed.  Without lines, items are words; quotes
and backslashes join what is in them or behind them. -/
def scanItems (byLines : Bool) : Nat → List Char → Bool → List Char →
    List Item × Option Char
  | 0, _, _, _ => ([], none)
  | _ + 1, item, _, [] =>
    (if item.isEmpty then [] else [{ text := item.reverse, endsLine := true }], none)
  | fuel + 1, item, isOpen, c :: s =>
    let close (endsLine : Bool) : List Item × Option Char :=
      let (items, quote) := scanItems byLines fuel [] false s
      ({ text := item.reverse, endsLine } :: items, quote)
    if !isOpen && isNumberBlank c then scanItems byLines fuel [] false s
    else if c == '\n' then
      if item.isEmpty then scanItems byLines fuel [] false s else close true
    else if !byLines && (c == ' ' || c == '\t') then close false
    else if c == '\\' then
      match s with
      | d :: s => scanItems byLines fuel (d :: item) true s
      | [] => scanItems byLines fuel item isOpen []
    else if c == '\'' || c == '"' then
      let inner := s.takeWhile fun d => d != c && d != '\n'
      match s.drop inner.length with
      | d :: rest =>
        if d == c then scanItems byLines fuel (inner.reverse ++ item) true rest else ([], some c)
      | [] => ([], some c)
    else scanItems byLines fuel (c :: item) true s

/-- A text with each place of a mark replaced. -/
def replaceAll (mark new : List Char) : Nat → List Char → List Char
  | 0, s => s
  | _ + 1, [] => []
  | fuel + 1, c :: s =>
    match if mark.isEmpty then none else Text.dropHead? mark (c :: s) with
    | some rest => new ++ replaceAll mark new fuel rest
    | none => c :: replaceAll mark new fuel s

/-- How items are put together. -/
inductive Bundling where
  | all
  | items (n : Nat)
  | lines (n : Nat)
  | replacing (mark : String)
deriving DecidableEq, Repr

/-- The bundles of so many items. -/
def bundlesOf {α : Type} (n : Nat) : Nat → List α → List (List α)
  | 0, _ => []
  | _ + 1, [] => []
  | fuel + 1, xs => xs.take n :: bundlesOf n fuel (xs.drop n)

/-- The bundles of the items of so many lines. -/
def linesOf (n : Nat) (items : List Item) : List (List Item) :=
  let lines := items.foldr (fun i (ls : List (List Item)) =>
    match ls with
    | l :: rest => if i.endsLine then [i] :: ls else (i :: l) :: rest
    | [] => [[i]]) []
  (bundlesOf n (lines.length + 1) lines).map List.flatten

/-- The arguments of each run of a command. -/
def Bundling.arguments (b : Bundling) (command : List String) (items : List Item) :
    List (List String) :=
  let texts (is : List Item) : List String := is.map fun i => String.ofList i.text
  match b with
  | .all => [command ++ texts items]
  | .items n => (bundlesOf n (items.length + 1) items).map fun is => command ++ texts is
  | .lines n => (linesOf n items).map fun is => command ++ texts is
  | .replacing mark =>
    items.map fun i => command.map fun a =>
      String.ofList (replaceAll mark.toList i.text (a.length + 1) a.toList)

/-- How the options of a call put items together, and warnings about those that do not count. -/
def bundlingOf (c : Call) : Except String (Bundling × List String) :=
  let ways := c.options.filter fun (letter, _) => ['n', 'L', 'l', 'I', 'i'].contains letter
  let number (letter : Char) (s : String) : Except String Nat :=
    let option := " for -" ++ String.singleton letter ++ " option"
    match Text.ofDigits? s.toList with
    | none => .error ("invalid number \"" ++ s ++ "\"" ++ option)
    | some 0 => .error ("value 0" ++ option ++ " should be >= 1")
    | some n => .ok n
  let mark (s : String) : String := if s.isEmpty then "\x7b\x7d" else s
  let warning (old : Bundling) (letter : Char) : List String :=
    let told (name new : String) : List String :=
      ["warning: options " ++ name ++ " and " ++ new ++ " are mutually exclusive, "
        ++ "ignoring previous " ++ name ++ " value"]
    let new := match letter with
      | 'n' => "--max-args/-n"
      | 'L' => "-L"
      | 'l' => "--max-lines/-l"
      | _ => "--replace/-I/-i"
    match old, letter with
    | .all, _ | .items _, 'n' | .lines _, 'L' | .lines _, 'l' | .replacing _, 'I'
    | .replacing _, 'i' => []
    | .items _, _ => told "--max-args" new
    | .lines _, _ => told "--max-lines" new
    | .replacing _, _ => told "--replace" new
  ways.foldlM (fun (r : Bundling × List String) (letter, value) => do
    let b ← match letter with
      | 'n' => (number letter value).map Bundling.items
      | 'L' => (number letter value).map Bundling.lines
      | 'l' => (number letter (if value.isEmpty then "1" else value)).map Bundling.lines
      | _ => pure (.replacing (mark value))
    return (b, r.2 ++ warning r.1 letter)) (.all, [])

/-- Runs a program in a process of its own, which has no input. -/
def runChild (name : String) (p : Program) (args : List String) : Action (Nat × Option Nat) :=
  isolatedEnding do
    modify fun st => { st with channels := setKey 0 (some .nothing) st.channels }
    runAs name p args

/-- Runs a program again and again; a failure of it is told at the end, or at once. -/
def runBundles (find : Finder) (tells : Bool) : Nat → List (List String) → Action Unit
  | status, [] => setStatus status
  | status, [] :: rest => runBundles find tells status rest
  | status, (name :: args) :: rest => do
    if tells then printError (" ".intercalate (name :: args))
    match ← find name with
    | .error (status, message) => tellWith status (name ++ ": " ++ message)
    | .ok p =>
      match ← runChild name p args with
      | (_, some signal) =>
        tellWith 125 (name ++ ": terminated by signal " ++ Text.natText signal)
      | (255, none) => tellWith 124 (name ++ ": exited with status 255; aborting")
      | (0, none) => runBundles find tells status rest
      | _ => runBundles find tells 123 rest

/-- What separates items, as an option tells it. -/
def itemEnd? (s : String) : Option Char :=
  match s.toList with
  | [c] => some c
  | ['\\', '0'] => some '\x00'
  | ['\\', 'x', a, b] => if isDigitOf 16 a && isDigitOf 16 b then
      some (Char.ofNat (ofDigits 16 [a, b])) else none
  | ['\\', c] => Escape.letter? c
  | _ => none

/-- Runs a program with the words of the input. -/
def xargs (find : Finder) : Program :=
  let names := [("null", '0'), ("arg-file", 'a'), ("delimiter", 'd'), ("eof", 'e'),
    ("replace", 'i'), ("max-lines", 'l'), ("max-args", 'n'), ("open-tty", 'o'),
    ("max-procs", 'P'), ("interactive", 'p'), ("no-run-if-empty", 'r'), ("max-chars", 's'),
    ("verbose", 't'), ("exit", 'x')]
  withOptions
    { flags := ['0', 'o', 'p', 'r', 't', 'x'], valued := ['a', 'd', 'E', 'I', 'L', 'n', 'P', 's']
      loose := ['e', 'i', 'l'], names, stopsAtOperand := true } fun c => do
    let separator : Except String (Option Char) :=
      match c.last? ['0', 'd'] with
      | some 'd' =>
        let s := (c.value? 'd').getD ""
        match itemEnd? s with
        | some d => .ok (some d)
        | none =>
          .error ("Invalid input delimiter specification " ++ s ++ ": the delimiter must be either "
            ++ "a single character or an escape sequence starting with \\.")
      | some _ => .ok (some '\x00')
      | none => .ok none
    match bundlingOf c, separator with
    | .error message, _ => misuse message
    | _, .error message => tell message
    | .ok (bundling, warnings), .ok separator =>
      warnings.forM fun w => do printError ((← get).name ++ ": " ++ w)
      let text ← match c.value? 'a' with
        | none => pure (Except.ok (← takeInput))
        | some path => octetsOf path
      match text with
      | .error f =>
        tell ("Cannot open input file " ++ named ((c.value? 'a').getD "") ++ ": " ++ f.message)
      | .ok text =>
        let byLines := match bundling with
          | .replacing _ => true
          | _ => false
        let (items, quote) := match separator with
          | some d => ((linesBy d text).map fun t => ({ text := t, endsLine := true } : Item), none)
          | none => scanItems byLines (text.length + 1) [] false text
        let stopper := (c.last? ['E', 'e']).bind c.value?
        let items := match stopper with
          | some s => if s.isEmpty || separator.isSome then items
            else items.takeWhile fun i => String.ofList i.text != s
          | none => items
        let command := if c.operands.isEmpty then ["echo"] else c.operands
        let runs := bundling.arguments command items
        let isSkipped := items.isEmpty && (c.has 'r' || byLines || quote.isSome)
        let runs := if isSkipped then [] else if runs.isEmpty then [command] else runs
        runBundles find (c.has 't') 0 runs
        match quote with
        | none => return ()
        | some q =>
          let kind := if q == '"' then "double" else "single"
          tell ("unmatched " ++ kind ++ " quote; by default quotes are special to xargs unless you "
            ++ "use the -0 option")

/-! ### Time and terminals -/

/-- Runs a program, but not longer than for some time. -/
def timeout (find : Finder) : Program :=
  let names := [("foreground", 'φ'), ("kill-after", 'k'), ("preserve-status", 'π'),
    ("signal", 's'), ("verbose", 'v')]
  withOptions
    { flags := ['v', 'φ', 'π'], valued := ['k', 's'], names, fault := 125
      stopsAtOperand := true } fun c => do
    let signalText := (c.value? 's').getD "TERM"
    let signalName := String.ofList
      ((Text.dropHead? "SIG".toList signalText.toList).getD signalText.toList)
    let wrongTime := ((c.value? 'k').toList ++ c.operands.take 1).find? fun s =>
      (milliseconds? s).isNone
    match Signal.read? true signalName, wrongTime, c.operands with
    | none, _, _ => misuseWith 125 (named signalText ++ ": invalid signal")
    | some _, _, [] | some _, _, [_] =>
      setStatus 125
      printError ("Try '" ++ (← get).name ++ " --help' for more information.")
    | some _, some s, _ => misuseWith 125 (noInterval s)
    | some signal, none, limit :: name :: rest =>
      match ← find name with
      | .error (status, message) =>
        tellWith status ("failed to run command " ++ named name ++ ": " ++ message)
      | .ok p => runLimited c signal ((milliseconds? limit).join) name p rest
where
  /-- Runs a program with a signal at the limit of its time. -/
  runLimited (c : Call) (signal : Nat) (limit : Option Nat) (name : String) (p : Program)
      (args : List String) : Action Unit := fun st =>
    let start := st.world.elapsed
    let (result, after) := runAs name p args st
    match limit with
    | none | some 0 => (result, after)
    | some limit =>
      let isLate := match result with
        | .error .endless => true
        | _ => start + limit < after.world.elapsed
      if !isLate then (result, after)
      else
        let isKept (w : Written) : Bool := w.time ≤ start + limit || w.job != st.job
        let world := { after.world.keepingWritten isKept with elapsed := start + limit }
        let status := if c.has 'π' then 128 + signal else 124
        let told : Action Unit :=
          if c.has 'v' then
            tellWith status
              ("sending signal " ++ Signal.name signal ++ " to command " ++ named name)
          else setStatus status
        let (_, st) := told { st with world }
        (if signal == 9 then .error (.killed 9) else .ok (), st)

/-- Runs a program in spite of the end of a terminal. -/
def nohup (find : Finder) : Program :=
  withOptions { fault := 125, stopsAtOperand := true } fun c => do
    match c.operands with
    | [] => misuseWith 125 "missing operand"
    | name :: rest =>
      match ← find name with
      | .ok p => runAs name p rest
      | .error (status, message) =>
        tellWith status ("failed to run command " ++ named name ++ ": " ++ message)

end Inspection.Shell.Program
