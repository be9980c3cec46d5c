import Inspection.Shell.Builtin

/-!
# Shell — Commands by their names

A name is that of a function, of a command of the shell, or of a program in one of the folders that
the variable `PATH` lists; a name with a slash is a path.

* `describe`: what a name stands for.
* `call`: runs what a name stands for.
-/

namespace Inspection.Shell

/-! ### Programs that run others -/

/-- The variables that a shell starts with, besides those it is given: among them is the number of
what has started it. -/
def startVariables (starter : Nat) (given : List (String × String)) : List Variable :=
  let usual : List (String × String) :=
    [("IFS", " \t\n"), ("OPTIND", "1"),
      ("PATH", "/usr/local/sbin:/usr/local/bin:/usr/sbin:/usr/bin:/sbin:/bin"), 
      ("PPID", Text.natText starter), ("PS1", "# "), ("PS2", "> "), ("PS4", "+ ")]
  let own := ["IFS", "OPTIND", "PPID"]
  let kept := given.filter fun (name, _) => isName name.toList && !own.contains name
  (usual.filter fun (name, _) => !(kept.any (·.1 == name))).map (fun (name, value) =>
      { name, value := some value })
    ++ kept.map fun (name, value) => { name, value := some value, isExported := true }

/-- The state of a shell that another one starts. -/
def State.started (st : State) (id : Nat) (name : String) (arguments : List String) : State :=
  { world := st.world, vars := startVariables st.starter st.environment, name, arguments
    channels := st.channels, folder := st.folder, isFolderDoubled := st.isFolderDoubled, id
    starter := st.starter, job := st.job, mask := st.mask, limits := st.limits
    traps := st.traps.filter (·.2.isEmpty) }

/-- Runs a shell with the options and operands it is given. -/
def shell (r : Runner) : Program := fun args => do
  let id ← newProcess
  modify fun st => { st.started id "sh" [] with line := 0 }
  let (isScript, operands) ← setStartOptions args
  let isInput ← hasOption 's'
  let start (name : String) (arguments : List String) (script : String) : Action Unit := do
    dropControl
    modify fun st => { st with name, arguments, line := 1 }
    r.finishing (r.script false script)
  match operands with
  | [] => start "sh" [] (String.ofList (← takeInput))
  | first :: rest =>
    if isScript then start (rest.headD "sh") rest.tail first
    else if isInput then start "sh" operands (String.ofList (← takeInput))
    else match (← get).entryOf? first with
    | some (.file octets) => start first rest (String.ofList (spell octets))
    | _ => fail ("cannot open " ++ first ++ ": No such file")

/-- The folders that a variable lists. -/
def listedFolders (s : String) : List String :=
  (Text.splitAll (· == ':') s.toList).map String.ofList

/-- The last part of a path. -/
def shortName (path : String) : String :=
  (Text.splitLast? (· == '/') path.toList).elim path fun (_, s) => String.ofList s

/-- The program at a path with a slash. -/
def programAt? (known : String → Option Program) (path : String) : Option Program :=
  match Text.splitLast? (· == '/') path.toList with
  | some (folder, name) =>
    if programFolders.contains (String.ofList folder) then known (String.ofList name) else none
  | none => none

/-- The paths of a program in some folders. -/
def pathsIn (known : String → Option Program) (folders : List String) (name : String) :
    List String :=
  if (known name).isNone then []
  else (folders.filter programFolders.contains).map fun f => f ++ "/" ++ name

/-- Finds a program for one that runs it. -/
def finder (known : String → Option Program) : Program.Finder := fun name => do
  let st ← get
  let usual := "/bin:/usr/bin"
  let found :=
    if name.toList.contains '/' then programAt? known name
    else
      let folders := listedFolders ((st.environment.lookup "PATH").getD usual)
      if (pathsIn known folders name).isEmpty then none else known name
  match found with
  | some p => return .ok p
  | none =>
    if name.toList.contains '/' then
      if (st.entryOf? name).isSome then return .error (126, "Permission denied")
      else match ← Program.absence name with
      | .missing => return .error (127, Program.FileFault.missing.message)
      | f => return .error (126, f.message)
    else return .error (127, Program.FileFault.missing.message)

/-- Tells where programs are. -/
def which (known : String → Option Program) : Program := fun args => do
  let flags := args.takeWhile fun a => a.startsWith "-" && a.length > 1 && a != "--"
  let letters := flags.flatMap fun a => a.toList.drop 1
  let names := (args.drop flags.length).dropWhile (· == "--")
  match letters.find? fun c => c != 'a' && c != 's' with
  | some c =>
    printError ("Illegal option -" ++ String.singleton c)
    printLine "Usage: /usr/bin/which [-as] args"
    setStatus 2
  | none =>
    let folders := listedFolders (((← get).environment.lookup "PATH").getD "")
    let folders := if folders == [""] then programFolders else folders
    setStatus (if names.isEmpty then 1 else 0)
    names.forM fun name => do
      let paths := if name.toList.contains '/' then
          (programAt? known name).toList.map fun _ => name
        else pathsIn known folders name
      if paths.isEmpty then setStatus 1
      else if !letters.contains 's' then
        (if letters.contains 'a' then paths else paths.take 1).forM printLine

/-- A program by its name, those that run other programs included. -/
def program? (r : Runner) : Nat → String → Option Program
  | 0, _ => none
  | fuel + 1, name =>
    let known := program? r fuel
    match name with
    | "sh" | "dash" => some (shell r)
    | "printf" => some printf
    | "test" | "[" => some (test name)
    | "pwd" => some pwd
    | "which" => some (which known)
    | _ =>
      match Program.launchers.lookup name with
      | some p => some (p (finder known))
      | none => Program.table.lookup name

/-! ### What names stand for -/

/-- What a name stands for. -/
inductive Meaning where
  | keyword
  | function (body : Command)
  | builtin
  | program (path : String) (p : Program)
  /-- A path at which there is no program, the exit code that tells of it, and its wording. -/
  | unusable (status : Nat) (message : String)

/-- How many programs may start one another. -/
def programDepth : Nat := 16

/-- The program at a path or of a name. -/
def State.program (st : State) (r : Runner) (name : String) : Meaning :=
  let known := program? r programDepth
  if name.isEmpty then .unusable 127 "Permission denied"
  else if name.toList.contains '/' then
    match programAt? known name with
    | some p => .program name p
    | none =>
      if (st.entryOf? name).isSome then .unusable 126 "Permission denied"
      else .unusable 127 "not found"
  else
    match pathsIn known (listedFolders ((st.value? "PATH").getD "")) name, known name with
    | path :: _, some p => .program path p
    | _, _ => .unusable 127 "not found"

/-- What a name stands for where a command may start; functions may be left out. -/
def State.meaning (st : State) (r : Runner) (withFunctions : Bool) (name : String) : Meaning :=
  match if withFunctions then st.functions.lookup name else none with
  | some body => .function body
  | none => if isBuiltin name then .builtin else st.program r name

/-- The shell having found a program. -/
def State.finding (st : State) (name path : String) : State :=
  if name.toList.contains '/' then st
  else if st.found.any (·.name == name) then
    { st with found := st.found.map fun f => if f.name == name then { name, path } else f }
  else { st with found := st.found ++ [{ name, path }] }

/-- Tells what a name stands for; briefly, or in a sentence. -/
def describe (r : Runner) (isBrief : Bool) (name : String) : Action Unit := do
  let st ← get
  let tell (brief sentence : String) : Action Unit :=
    printLine (if isBrief then brief else name ++ " is " ++ sentence)
  let missing : Action Unit := do
    if !isBrief then printLine (name ++ ": not found")
    setStatus 127
  if keywords.contains name then tell name "a shell keyword"
  else match st.aliases.lookup name with
    | some text =>
      tell ("alias " ++ name ++ "=" ++ quotedText text) ("an alias for " ++ text)
    | none =>
      match st.meaning r true name with
      | .keyword => return ()
      | .function _ => tell name "a shell function"
      | .builtin =>
        tell name (if isSpecial name && name != "local" then "a special shell builtin"
          else "a shell builtin")
      | .program path _ =>
        tell path (if st.found.any (·.name == name) then "a tracked alias for " ++ path else path)
        modify fun st => if st.found.any (·.name == name) then st else st.finding name path
      | .unusable _ _ =>
        if name.toList.contains '/' && (st.entryOf? name).isSome then tell name name else missing

/-- How many rows the table of programs has. -/
def programRows : Nat := 31

/-- Lists the programs that have been found, finds some, or forgets all. -/
def findPrograms (r : Runner) (args : List String) : Action Unit := do
  let (os, names) ← options ['r'] [] (args.length + 1) args
  setStatus 0
  if !os.isEmpty then modify fun st => { st with found := [] }
  else if names.isEmpty then
    let rows := (← get).found.map fun f => (tableRow programRows f.name, f)
    (rows.mergeSort fun a b => a.1 ≤ b.1).forM fun (_, f) =>
      printLine (f.path ++ if f.isStale then "*" else "")
  else names.forM fun name => do
    modify fun st => { st with found := st.found.filter (·.name != name) }
    match (← get).meaning r true name with
    | .program path _ => modify fun st => st.finding name path
    | .unusable _ message => if !name.toList.contains '/' then refuse 1 (name ++ ": " ++ message)
    | _ => return ()

/-! ### Calls -/

/-- Runs an action; a failure in it ends only the action. -/
def catching (a : Action Unit) : Action Unit := fun st =>
  match a st with
  | (.error .failure, after) => (.ok (), after)
  | other => other

/-- How a program fails that cannot write: its exit code, and what it tells of. -/
def writeFault (short : String) : Nat × String :=
  match short with
  | "cat" | "yes" => (1, "standard output")
  | "tee" => (1, "'standard output'")
  | "ls" | "sort" => (2, "write error")
  | "env" => (125, "write error")
  | _ => (1, "write error")

/-- The number of what starts a program, and what has been started then: a program in the place of
the shell has the same starter, and the copy of a shell has a number of its own. -/
def starterOf (st : State) : Nat × World :=
  if st.endsWithProgram then (st.starter, st.world)
  else if st.isCopy then
    let id := st.world.lastProcess + 1
    (id, { st.world with lastProcess := id })
  else (st.id, st.world)

/-- Runs a program in a process of its own. -/
def runProgram (name : String) (p : Program) (args : List String) : Action Unit := fun st =>
  let isCat := shortName name == "cat"
  let (_, forking, running) := startSteps
  let steps := if st.endsWithProgram then running else forking + running
  let whole : Action Unit := do
    p args
    if (← get).isBroken then
      let (status, what) := writeFault (shortName name)
      Program.tellWith status (what ++ ": Bad file descriptor")
  let (starter, world) := starterOf st
  let (result, after) := whole
    { st with
      world := world.later steps, name, starter, isCopy := true, command := none
      traps := st.traps.filter (·.2.isEmpty)
      isBroken := isCat && (st.channels.lookup 1).isNone }
  let code := match result with
    | .error (.killed signal) => 128 + signal
    | _ => after.status % 256
  let st := { st.awaiting after.world with status := code }
  match result with
  | .error .endless => (.error .endless, st)
  | .error (.killed signal) =>
    if st.endsWithProgram then (result, st)
    else match Signal.obituary signal with
    | some message => printError message st
    | none => (.ok (), st)
  | _ => (.ok (), st)

/-- Runs a command of the shell, and tells if it could not write. -/
def runBuiltin (name : String) (a : Action Unit) : Action Unit := fun st =>
  let whole : Action Unit := do
    a
    if (← get).isBroken then refuse 1 (name ++ ": I/O error")
  let (result, after) := whole { st with command := some name, isBroken := false }
  (result, { after with command := st.command, isBroken := st.isBroken })

/-- The shell behind a function: what the function has made its own is as before. -/
def State.returned (st after : State) : State :=
  let restored := after.outer.foldl (fun s (name, v) => (s.setVariable name v).noting name) after
  { restored with
    arguments := st.arguments, loops := st.loops, isInFunction := st.isInFunction
    outer := st.outer, outerOptions := st.outerOptions
    options := after.outerOptions.getD after.options }

/-- Calls a function with arguments of its own. -/
def callFunction (r : Runner) (isTested : Bool) (body : Command) (args : List String) :
    Action Unit := fun st =>
  let (result, after) := r.command isTested body
    { st with
      arguments := args, loops := 0, isInFunction := true, outer := [], outerOptions := none
      endsWithProgram := false }
  let wrong := after.outer.find? fun (name, _) => !isName name.toList
  let after := { st.returned after with endsWithProgram := st.endsWithProgram }
  match result, wrong with
  | .error (.killed _), _ | .error .endless, _ => (result, after)
  | _, some (name, _) => (fail (name ++ ": bad variable name") : Action Unit) after
  | .error .back, none => (.ok (), after)
  | _, none => (result, after)

/-- Runs the script in a file. -/
def source (r : Runner) (args : List String) : Action Unit := do
  let operands ← operandsOf args
  match operands with
  | [] => setStatus 0
  | path :: _ =>
    let st ← get
    let places := if path.toList.contains '/' then [path]
      else (Text.splitAll (· == ':') ((st.value? "PATH").getD "").toList).map fun folder =>
        String.ofList (folder ++ '/' :: path.toList)
    match places.findSome? fun p => (st.entryOf? p).map fun e => (p, e) with
    | some (p, .file octets) =>
      modify fun st => { st with command := some p, status := 0 }
      let run := r.script false (String.ofList (spell octets))
      fun st => match run st with
        | (.error .back, after) => (.ok (), after)
        | other => other
    | _ =>
      if path.toList.contains '/' then fail ("cannot open " ++ path ++ ": No such file")
      else fail (path ++ ": not found")

/-- Replaces the shell by a program. -/
def replaceBy (r : Runner) (args : List String) : Action Unit := do
  let operands ← operandsOf args
  match operands with
  | [] => setStatus 0
  | name :: rest =>
    match (← get).program r name with
    | .program _ p =>
      modify fun st => { st with traps := [] }
      runProgram name p rest
    | .unusable status message => refuse status (name ++ ": " ++ message)
    | _ => return ()
    stop .exit

/-- Runs a command of the shell or a program; functions do not count. -/
def callOrdinary (r : Runner) (isTested : Bool) (name : String) (args : List String) :
    Action Unit := do
  match name with
  | "eval" => runBuiltin name do
      setStatus 0
      r.script isTested (" ".intercalate args)
  | "." => runBuiltin name (source r args)
  | "exec" => runBuiltin name (replaceBy r args)
  | "type" => runBuiltin name do
      setStatus 0
      args.forM (describe r false)
  | "hash" => runBuiltin name (findPrograms r args)
  | _ =>
    match builtin? name args with
    | some a => runBuiltin name a
    | none =>
      match (← get).program r name with
      | .program path p =>
        modify fun st => st.finding name path
        runProgram name p args
      | .unusable status message => refuse status (name ++ ": " ++ message)
      | _ => return ()

/-- What `command` in front of a name asks for. -/
inductive CommandRequest where
  /-- Runs what is left. -/
  | run (args : List String)
  | tell (isBrief : Bool) (args : List String)
  | wrongOption (c : Char)
deriving DecidableEq, Repr

/-- What `command` with these arguments asks for. -/
def commandRequest : Nat → Bool → Bool → List String → CommandRequest
  | 0, _, _, args => .run args
  | fuel + 1, tells, isBrief, args =>
    let done (args : List String) : CommandRequest :=
      if tells then .tell isBrief args else .run args
    match args with
    | [] => done []
    | a :: rest =>
      match a.toList with
      | ['-', '-'] => done rest
      | '-' :: c :: s =>
        match (c :: s).find? fun c => !(['p', 'v', 'V'].contains c) with
        | some wrong => .wrongOption wrong
        | none =>
          let shows := (c :: s).filter (· != 'p')
          commandRequest fuel (tells || !shows.isEmpty)
            (if shows.isEmpty then isBrief else shows.getLast? == some 'v') rest
      | _ => done args

/-- Calls what fields name: whether an error ends the shell depends on what is called. -/
def call (r : Runner) (isTested : Bool) : Nat → Bool → List String → Action Unit
  | 0, _, _ => return ()
  | _ + 1, _, [] => setStatus 0
  | fuel + 1, isPlain, name :: args => do
    match (← get).meaning r isPlain name with
    | .function body => callFunction r isTested body args
    | _ =>
      if name == "command" then
        match commandRequest (args.length + 1) false true args with
        | .run args => call r isTested fuel false args
        | .tell isBrief args => runBuiltin name do
            setStatus 0
            (args.take 1).forM (describe r isBrief)
        | .wrongOption c =>
          catching (runBuiltin name (fail ("Illegal option -" ++ String.singleton c)))
      else if isPlain && isSpecial name then callOrdinary r isTested name args
      else if isBuiltin name then catching (callOrdinary r isTested name args)
      else callOrdinary r isTested name args

end Inspection.Shell
