import Inspection.Shell.Alias
import Inspection.Shell.Expand
import Inspection.Shell.Jobs
import Inspection.Shell.Limits
import Inspection.Shell.Print
import Inspection.Shell.Test
import Inspection.Shell.Utility

/-!
# Shell — Commands of the shell itself

These act on the shell that runs them.  An error in some of them ends the shell; in others it only
fails.

* `builtin?`: what such a command does; none if there is none of that name.
* `isSpecial`: an error in the command ends the shell.
-/

namespace Inspection.Shell

/-- The other commands of the shell. -/
def ordinaryNames : List String :=
  ["[", "alias", "bg", "cd", "chdir", "command", "echo", "false", "fg", "getopts", "hash", "jobs",
    "kill", "printf", "pwd", "read", "test", "true", "type", "ulimit", "umask", "unalias", "wait"]

/-- An error in the command ends the shell. -/
def isSpecial (name : String) : Bool := specialNames.contains name

/-- The shell has a command of this name. -/
def isBuiltin (name : String) : Bool := isSpecial name || ordinaryNames.contains name

/-- The arguments of the command may be assignments. -/
def takesAssignments (name : String) : Bool :=
  ["alias", "export", "local", "readonly"].contains name

/-- Prints variables, each behind a word. -/
def printVariables (word : String) (chosen : Variable → Bool) : Action Unit := do
  let vars := ((← get).vars.filter chosen).mergeSort fun a b => textAtMost a.name b.name
  vars.forM fun v =>
    printLine (word ++ v.name ++ (v.value.map fun s => "=" ++ quotedText s).getD "")

/-! ### Variables -/

/-- Gives marks to variables, and values to some. -/
def mark (word : String) (chosen : Variable → Bool) (f : Variable → Variable)
    (args : List String) : Action Unit := do
  let (os, names) ← options ['p'] [] (args.length + 1) args
  if names.isEmpty || !os.isEmpty then printVariables (word ++ " ") chosen
  else
    names.forM fun arg => do
      match Text.splitFirst? (· == '=') arg.toList with
      | some (name, value) =>
        assign (String.ofList name) (String.ofList value)
        change (String.ofList name) f
      | none => change arg f
  setStatus 0

/-- Removes variables or functions. -/
def unset (args : List String) : Action Unit := do
  let (os, names) ← options ['v', 'f'] [] (args.length + 1) args
  names.forM fun name => do
    if os.any (·.1 == 'f') then
      modify fun st => { st with functions := setKey name none st.functions }
    else forget name
  setStatus 0

/-- Makes a variable belong to the function that runs.  A name that is none can be given a value;
that it is none is found when the function ends. -/
def makeOwn (arg : String) : Action Unit := do
  let (name, value) := match Text.splitFirst? (· == '=') arg.toList with
    | some (name, value) => (String.ofList name, some (String.ofList value))
    | none => (arg, none)
  let old := (← get).vars.find? (·.name == name)
  match value with
  | some value =>
    if isName name.toList then assign name value
    else modify fun st => st.setVariable name (some { name, value := some value })
  | none => change name id
  if ((← get).outer.lookup name).isNone then
    modify fun st => { st with outer := (name, old) :: st.outer }

/-- Makes variables, or the options, belong to the function that runs. -/
def makeLocal (args : List String) : Action Unit := do
  if !(← get).isInFunction then fail "not in a function"
  args.forM fun arg =>
    if arg == "-" then
      modify fun st => { st with outerOptions := some (st.outerOptions.getD st.options) }
    else makeOwn arg
  setStatus 0

/-- Drops arguments. -/
def shift (args : List String) : Action Unit := do
  let n ← match args with
    | s :: _ => number s
    | [] => pure 1
  let st ← get
  if n > st.arguments.length then fail "can't shift that many"
  set { st with arguments := st.arguments.drop n, status := 0 }

/-- The letters of the options that have names only. -/
def namedOnly : List Char := ['\x00', '\x01']

/-- The options and their names. -/
def optionNames : List (String × Char) :=
  [("errexit", 'e'), ("noglob", 'f'), ("ignoreeof", 'I'), ("interactive", 'i'), ("monitor", 'm'),
    ("noexec", 'n'), ("stdin", 's'), ("xtrace", 'x'), ("verbose", 'v'), ("vi", 'V'),
    ("emacs", 'E'), ("noclobber", 'C'), ("allexport", 'a'), ("notify", 'b'), ("nounset", 'u'),
    ("privileged", 'p'), ("nolog", '\x00'), ("debug", '\x01')]

/-- Sets an option, or takes it back. -/
def setOption (isOn : Bool) (c : Char) : Action Unit :=
  modify fun st =>
    let others := st.options.filter (· != c)
    { st with options := if isOn then c :: others else others }

/-- Sets the option of a name, or takes it back. -/
def setNamedOption (isOn : Bool) (name : String) : Action Unit :=
  match optionNames.lookup name with
  | some c => setOption isOn c
  | none => fail ("Illegal option -o " ++ name)

/-- Prints the options, or the commands that set them so. -/
def printOptions (asTable : Bool) : Action Unit := do
  let st ← get
  if asTable then printLine "Current option settings"
  optionNames.forM fun (name, c) => do
    let isOn := st.options.contains c
    if asTable then
      print (name.toList ++ List.replicate (16 - name.length) ' '
        ++ (if isOn then "on\n" else "off\n").toList)
    else printLine ("set " ++ (if isOn then "-" else "+") ++ "o " ++ name)

/-- The option that is taken back when one is set by its letter. -/
def rival (c : Char) : Option Char :=
  if c == 'V' then some 'E' else if c == 'E' then some 'V' else none

/-- Takes back the control of commands in the background, for which there is no terminal. -/
def dropControl : Action Unit := do
  if ← hasOption 'm' then
    complain "can't access tty; job control turned off"
    setOption false 'm'

/-- Sets the options that letters name, or takes them back; some have their names in the arguments
that follow.  Whether a script follows as well, and the arguments left. -/
def setLetters (isStart isOn : Bool) : List Char → List String → Action (Bool × List String)
  | [], rest => return (false, rest)
  | 'o' :: s, [] => do
    printOptions isOn
    setLetters isStart isOn s []
  | 'o' :: s, name :: rest => do
    setNamedOption isOn name
    setLetters isStart isOn s rest
  | c :: s, rest => do
    if isStart && (c == 'c' || c == 'l') then
      let (isScript, rest) ← setLetters isStart isOn s rest
      return (isScript || c == 'c', rest)
    else
      if namedOnly.contains c || !(optionNames.any (·.2 == c)) then
        fail ("Illegal option -" ++ String.singleton c)
      setOption isOn c
      if isOn then ((rival c).toList).forM (setOption false)
      setLetters isStart isOn s rest

/-- Sets the options in front of operands, or takes them back; whether a script follows, and the
operands.  The mark that ends them takes back some options, or all arguments. -/
def setOptions (isStart : Bool) : Nat → List String → Action (Bool × List String)
  | 0, args => return (false, args)
  | _ + 1, [] => return (false, [])
  | fuel + 1, a :: rest => do
    match a.toList with
    | ['-', '-'] =>
      if !isStart && rest.isEmpty then modify fun st => { st with arguments := [] }
      return (false, rest)
    | ['-'] =>
      if !isStart then ['x', 'v'].forM (setOption false)
      return (false, rest)
    | mark :: letters =>
      if mark == '-' || mark == '+' then
        let (isScript, rest) ← setLetters isStart (mark == '-') letters rest
        let (more, operands) ← setOptions isStart fuel rest
        return (isScript || more, operands)
      else return (false, a :: rest)
    | [] => return (false, a :: rest)

/-- Stands behind the options that a shell has been told to set when it starts; the others are
undecided, and count as set as long as they are. -/
def undecided : Char := '\x02'

/-- Sets the options that a shell starts with; whether a script follows, and the operands. -/
def setStartOptions (args : List String) : Action (Bool × List String) := do
  modify fun st => { st with options := undecided :: optionNames.map (·.2) }
  let (isScript, operands) ← setOptions true (args.length + 1) args
  if isScript && operands.isEmpty then fail "-c requires an argument"
  let options := (← get).options
  let decided := options.takeWhile (· != undecided)
  modify fun st => { st with options := decided }
  if operands.isEmpty then setOption true 's'
  if decided.contains 'i' && options.contains 'm' then setOption true 'm'
  return (isScript, operands)

/-- Prints the variables, or sets options and arguments. -/
def setCommand (args : List String) : Action Unit := do
  if args.isEmpty then printVariables "" fun v => v.value.isSome
  else
    let (_, operands) ← setOptions false (args.length + 1) args
    dropControl
    if !operands.isEmpty then modify fun st => { st with arguments := operands }
  setStatus 0

/-! ### Reading lines -/

/-- A line at the start of a text, its end included, and the rest; backslashes may join lines. -/
def divideLine (isRaw : Bool) : List Char → List Char × List Char
  | [] => ([], [])
  | '\n' :: s => (['\n'], s)
  | '\\' :: c :: s =>
    if isRaw then
      let (line, rest) := divideLine isRaw (c :: s)
      ('\\' :: line, rest)
    else
      let (line, rest) := divideLine isRaw s
      ('\\' :: c :: line, rest)
  | c :: s =>
    let (line, rest) := divideLine isRaw s
    (c :: line, rest)

/-- The glyphs of a line; a backslash takes away the meaning of the character behind it. -/
def lineGlyphs (isRaw : Bool) : List Char → List Glyph
  | [] => []
  | '\\' :: '\n' :: s => if isRaw then ⟨'\\', false⟩ :: lineGlyphs isRaw s else lineGlyphs isRaw s
  | '\\' :: c :: s =>
    if isRaw then ⟨'\\', false⟩ :: lineGlyphs isRaw (c :: s) else ⟨c, true⟩ :: lineGlyphs isRaw s
  | '\n' :: s => lineGlyphs isRaw s
  | c :: s => ⟨c, false⟩ :: lineGlyphs isRaw s

/-- The glyphs behind the separators that end a field. -/
def dropSeparators (isSeparator isBlank : Glyph → Bool) (gs : List Glyph) : List Glyph :=
  let gs := gs.dropWhile fun g => isSeparator g && isBlank g
  match gs with
  | g :: rest => if isSeparator g then rest.dropWhile fun g => isSeparator g && isBlank g else gs
  | [] => []

/-- The texts for so many names: the last name has what is left of the line. -/
def lineFields (isSeparator isBlank : Glyph → Bool) : Nat → List Glyph → List (List Glyph)
  | 0, _ => []
  | n + 1, gs =>
    let gs := gs.dropWhile fun g => isSeparator g && isBlank g
    let field := gs.takeWhile fun g => !isSeparator g
    let rest := dropSeparators isSeparator isBlank (gs.drop field.length)
    if n == 0 then
      if rest.isEmpty then [field]
      else [(gs.reverse.dropWhile fun g => isSeparator g && isBlank g).reverse]
    else field :: lineFields isSeparator isBlank n rest

/-- Reads a line of the input into variables; it succeeds if the line has an end. -/
def readLine (args : List String) : Action Unit := do
  let (os, names) ← options ['r'] ['p'] (args.length + 1) args
  let isRaw := os.any (·.1 == 'r')
  if names.isEmpty then fail "arg count"
  let line := (← takeFrom 0 (divideLine isRaw)).getD []
  let separators := (((← get).value? "IFS").map (·.toList)).getD usualSeparators
  let texts := lineFields (fun g => !g.isLiteral && separators.contains g.char)
    (fun g => usualSeparators.contains g.char) names.length
    ((lineGlyphs isRaw line).filter (·.char != '\x00'))
  (names.zip texts).forM fun (name, gs) => assign name (String.ofList (glyphText gs))
  let isJoined := !isRaw && (line.dropLast.reverse.takeWhile (· == '\\')).length % 2 == 1
  setStatus (if line.getLast? == some '\n' && !isJoined then 0 else 1)

/-! ### Options of scripts -/

/-- Reads the next option of a script's arguments into a variable. -/
def getopts (args : List String) : Action Unit := do
  match args with
  | spec :: name :: given =>
    let st ← get
    let list := if given.isEmpty then st.arguments else given
    let place := ((st.value? "OPTIND").bind count?).getD 1
    let offset := if st.optionPlace == place then st.optionOffset else 0
    let current := (list[place - 1]?).getD ""
    let isQuiet := spec.startsWith ":"
    let finish (code : Nat) (c : String) (place offset : Nat) : Action Unit := do
      assign name c
      assign "OPTIND" (Text.natText place)
      modify fun st => { st with optionPlace := place, optionOffset := offset, status := code }
    if offset == 0 && (!current.startsWith "-" || current == "-") then finish 1 "?" place 0
    else if offset == 0 && current == "--" then finish 1 "?" (place + 1) 0
    else
      let at_ := if offset == 0 then 1 else offset
      let letter := (current.toList[at_]?).getD '?'
      let rest := current.toList.drop (at_ + 1)
      let (nextPlace, nextOffset) := if rest.isEmpty then (place + 1, 0) else (place, at_ + 1)
      let known := spec.toList.dropWhile (· == ':')
      match known.dropWhile (· != letter) with
      | [] =>
        if isQuiet then assign "OPTARG" (String.singleton letter)
        else
          forget "OPTARG"
          printError ("Illegal option -" ++ String.singleton letter)
        finish 0 "?" nextPlace nextOffset
      | _ :: ':' :: _ =>
        match if rest.isEmpty then list[place]? else some (String.ofList rest) with
        | some value =>
          assign "OPTARG" value
          finish 0 (String.singleton letter) (if rest.isEmpty then place + 2 else place + 1) 0
        | none =>
          if isQuiet then
            assign "OPTARG" (String.singleton letter)
            finish 0 ":" (place + 1) 0
          else
            forget "OPTARG"
            printError ("No arg for -" ++ String.singleton letter ++ " option")
            finish 0 "?" (place + 1) 0
      | _ =>
        assign "OPTARG" ""
        finish 0 (String.singleton letter) nextPlace nextOffset
  | _ => fail "Usage: getopts optstring var [arg...]"

/-! ### Folders -/

/-- The path starts where the shell is, or at the root. -/
def isAnchored (path : List Char) : Bool :=
  match path with
  | '/' :: _ => true
  | _ => [['.'], ['.', '.']].contains (path.takeWhile (· != '/'))

/-- The folder that a path means, which may lie in a folder of the variable `CDPATH`; whether it
does so. -/
def goal? (st : State) (path : String) : Option (String × Bool) :=
  let direct := if st.isFolder path then some (path, false) else none
  let within (folder : List Char) : Option (String × Bool) :=
    if folder.isEmpty then direct
    else
      let p := String.ofList (folder ++ '/' :: path.toList)
      if st.isFolder p then some (p, true) else none
  let folders := ((st.value? "CDPATH").map fun s => Text.splitAll (· == ':') s.toList).getD []
  if isAnchored path.toList then direct
  else (folders.findSome? within).orElse fun _ => direct

/-- Goes to another folder. -/
def cd (args : List String) : Action Unit := do
  let (_, operands) ← options ['L', 'P'] [] (args.length + 1) args
  let st ← get
  let wanted := (match operands with
    | [] => st.value? "HOME"
    | "-" :: _ => st.value? "OLDPWD"
    | path :: _ => some path).getD ""
  match goal? st (if wanted.isEmpty then "." else wanted) with
  | none => fail ("can't cd to " ++ wanted)
  | some (path, isFar) =>
    let exported (name value : String) : Action Unit :=
      change name fun v => { v with value := some value, isExported := true }
    let isDoubled := match path.toList with
      | '/' :: '/' :: rest => rest.head? != some '/'
      | '/' :: _ => false
      | _ => st.isFolderDoubled
    exported "OLDPWD" st.folderText
    modify fun st =>
      { st with
        folder := place st.folder path, isFolderDoubled := isDoubled
        found := st.found.map fun f => { f with isStale := true } }
    let text := (← get).folderText
    exported "PWD" text
    if isFar || operands.head? == some "-" then printLine text
    setStatus 0

/-- Prints the folder. -/
def pwd (args : List String) : Action Unit := do
  let _ ← options ['L', 'P'] [] (args.length + 1) args
  printLine (← get).folderText
  setStatus 0

/-! ### Signals -/

/-- What to do on signals, printed or changed. -/
def trap (args : List String) : Action Unit := do
  let operands ← operandsOf args
  setStatus 0
  let st ← get
  match operands with
  | [] =>
    (List.range Signal.count).forM fun n => do
      match st.traps.lookup n with
      | some action => printLine ("trap -- " ++ quotedText action ++ " " ++ Signal.name n)
      | none => return ()
  | first :: rest =>
    let isReset := rest.isEmpty || (Text.ofDigits? first.toList).isSome
    let action := if isReset || first == "-" then none else some first
    let signals := if isReset then operands else rest
    let known := signals.takeWhile fun s => (Signal.read? true s).isSome
    (known.filterMap (Signal.read? true)).forM fun n =>
      modify fun st => { st with traps := setKey n action st.traps }
    match signals[known.length]? with
    | some s =>
      printError ("trap: " ++ s ++ ": bad trap")
      setStatus 1
    | none => return ()

/-! ### Leaving -/

/-- Leaves loops, or goes on with their next round. -/
def leaveLoops (how : Nat → Stop) (args : List String) : Action Unit := do
  let n ← match args with
    | s :: _ => number s
    | [] => pure 1
  if n == 0 then fail ("Illegal number: " ++ args.headD "")
  let open_ := (← get).loops
  setStatus 0
  if open_ > 0 then stop (how (min n open_))

/-- Ends the shell, or what is left by `how`, with an exit code. -/
def leaveWith (how : Stop) (args : List String) : Action Unit := do
  match args with
  | s :: _ => setStatus (← number s)
  | [] => return ()
  stop how

/-- What a command of the shell does that runs no other; none if there is none of that name. -/
def builtin? (name : String) (args : List String) : Option (Action Unit) :=
  match name with
  | ":" | "true" => some (setStatus 0)
  | "times" => some do
    let none_ := "0m0.000000s 0m0.000000s"
    printLine (none_ ++ "\n" ++ none_)
    setStatus 0
  | "false" => some (setStatus 1)
  | "echo" => some (echo args)
  | "printf" => some (printf args)
  | "test" | "[" => some (test name args)
  | "exit" => some (leaveWith .exit args)
  | "return" => some (leaveWith .back args)
  | "break" => some (leaveLoops .leave args)
  | "continue" => some (leaveLoops .again args)
  | "export" =>
    some (mark "export" (·.isExported) (fun v => { v with isExported := true }) args)
  | "readonly" =>
    some (mark "readonly" (·.isFixed) (fun v => { v with isFixed := true }) args)
  | "unset" => some (unset args)
  | "local" => some (makeLocal args)
  | "shift" => some (shift args)
  | "set" => some (setCommand args)
  | "read" => some (readLine args)
  | "getopts" => some (getopts args)
  | "cd" | "chdir" => some (cd args)
  | "pwd" => some (pwd args)
  | "trap" => some (trap args)
  | "kill" => some (kill args)
  | "wait" => some (wait args)
  | "jobs" => some (jobs args)
  | "fg" | "bg" => some (resume args)
  | "umask" => some (umask args)
  | "ulimit" => some (ulimit args)
  | "alias" => some (aliasing args)
  | "unalias" => some (unalias args)
  | _ => none

end Inspection.Shell
