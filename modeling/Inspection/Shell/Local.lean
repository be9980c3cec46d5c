import Inspection.Shell.Invoke

/-!
# Shell — Running scripts

Commands run one after another, each in the state that the one before it has left; those of a pipe
run in shells of their own, at the same time.  Failures end the shell if it is told so, except where
they are looked at.

* `Command.run`: what a command does.
* `runScript`: what a script does, line by line.
* `startScript`: how the shell of a script ends.
-/

namespace Inspection.Shell

/-! ### Signals and failures -/

/-- Handles the signals that have reached the shell. -/
def settle (r : Runner) : Action Unit := do
  let st ← get
  if !st.isCopy then
    let own := st.world.signals.filter (·.1 == st.id)
    if !own.isEmpty then
      modifyWorld fun w => { w with signals := w.signals.filter (·.1 != st.id) }
      own.forM fun (_, signal) => do
        let handled := signal != 9 && signal != 19
        match if handled then st.traps.lookup signal else none with
        | some action =>
          let status := (← get).status
          r.script false action
          setStatus status
        | none =>
          if Signal.isHarmless signal then return ()
          else if Signal.isHalting signal then stop .endless
          else stop (.killed signal)

/-- What happens behind a command: signals are handled, and a failure that is not looked at may end
the shell. -/
def conclude (r : Runner) (isTested : Bool) : Action Unit := do
  settle r
  let st ← get
  if !isTested && st.status != 0 && st.options.contains 'e' then stop .exit

/-! ### Redirections -/

/-- Where a descriptor is led to, all words being replaced. -/
inductive Lead where
  | file (opening : Opening) (path : String)
  | copy (descriptor : String)
  | source (text : List Char)
deriving DecidableEq, Repr

/-- Replaces the words of redirections. -/
def leads (r : Runner) (rs : List (Redirect Word)) : Action (List (Nat × Lead)) :=
  rs.mapM fun redirect => do
    match redirect.target with
    | .file opening path => return (redirect.descriptor, .file opening (← text r path))
    | .copy w => return (redirect.descriptor, .copy (← text r w))
    | .body id =>
      let body := ((← get).bodies.lookup id).getD []
      return (redirect.descriptor, .source (← text r body).toList)

/-- Leads a descriptor elsewhere, or tells why it cannot be done. -/
def lead (descriptor : Nat) (l : Lead) : Action Bool := do
  let put (c : Option Channel) : Action Bool := do
    modify fun st => { st with channels := setKey descriptor c st.channels }
    return true
  let refused (message : String) : Action Bool := do
    refuse 2 message
    return false
  let misread : Action Bool := do
    modify fun st => { st with line := st.readLine }
    fail "Syntax error: Bad fd number"
  match l with
  | .file opening path =>
    match ← openFile opening path with
    | .ok c => put (some c)
    | .error message =>
      refused ((if opening == .reading then "cannot open " else "cannot create ") ++ path ++ ": "
        ++ message)
  | .source s => put (some (.source (← openSource { text := s })))
  | .copy s =>
    match s.toList with
    | ['-'] => put none
    | [c] =>
      if c.isDigit then
        match (← get).channels.lookup (c.toNat - '0'.toNat) with
        | some channel => put (some channel)
        | none => refused (s ++ ": Bad file descriptor")
      else misread
    | _ => misread

/-- Leads descriptors elsewhere, one after another, as long as it can be done. -/
def leadAll : List (Nat × Lead) → Action Bool
  | [] => return true
  | (descriptor, l) :: rest => do
    if ← lead descriptor l then leadAll rest else return false

/-- Runs an action with the descriptors as they are, and leaves them so. -/
def keepingChannels {α : Type} (a : Action α) : Action α :=
  keeping (fun st after => { after with channels := st.channels }) a

/-- Runs an action with descriptors led elsewhere. -/
def runRedirected (r : Runner) (rs : List (Redirect Word)) (a : Action Unit) : Action Unit := do
  let ls ← leads r rs
  keepingChannels do
    if ← leadAll ls then a

/-! ### Rows of words -/

/-- The fields of the first words, up to those that come to one at least, and the words left. -/
def firstFields (r : Runner) : List Word → Action (List String × List Word)
  | [] => return ([], [])
  | w :: ws => do
    let fs ← fieldsOfWord r w
    if fs.isEmpty then firstFields r ws else return (fs, ws)

/-- The fields of arguments, some of which may be assignments. -/
def argumentFields (r : Runner) (mayAssign : Bool) : List Word → Action (List String)
  | [] => return []
  | w :: ws => do
    let fs ← match if mayAssign then w.assignment? else none with
      | some (name, value) => do
        let s ← assignedText r value
        pure [String.ofList name ++ "=" ++ s]
      | none => fieldsOfWord r w
    return fs ++ (← argumentFields r mayAssign ws)

/-- The name that the fields call, behind any that only ask for a call. -/
def calledName : List String → String
  | "command" :: rest => calledName rest
  | name :: _ => name
  | [] => ""

/-- Assigns variables one after another; the names and what is assigned. -/
def assignAll (r : Runner) (exports : Bool) :
    List (List Char × Word) → Action (List (String × String))
  | [] => return []
  | (name, w) :: rest => do
    let name := String.ofList name
    let value ← assignedText r w
    assign name value
    if exports then change name fun v => { v with isExported := true }
    return (name, value) :: (← assignAll r exports rest)

/-- Tells what is about to be run, if the shell is asked to. -/
def trace (channels : List (Nat × Channel)) (assigned : List (String × String))
    (fields : List String) : Action Unit := do
  if ← hasOption 'x' then
    let mark := ((← get).value? "PS4").getD ""
    keepingChannels do
      modify fun st => { st with channels := setKey 2 (channels.lookup 2) st.channels }
      printError (mark ++ " ".intercalate
        (assigned.map (fun (name, value) => name ++ "=" ++ value) ++ fields))

/-- Variables as they were before, for those that are named. -/
def restoreVariables (names : List String) (st after : State) : State :=
  names.foldl (fun s name =>
    (s.setVariable name (st.vars.find? (·.name == name))).noting name) after

/-- Runs an action unless the shell only reads commands. -/
def unlessReading (a : Action Unit) : Action Unit := do
  if !(← hasOption 'n') then a

/-- Runs a row of words. -/
def runRow (r : Runner) (isTested : Bool) (assignments : List (List Char × Word))
    (words : List Word) (rs : List (Redirect Word)) : Action Unit := do
  let left := (← get).world.stepsLeft
  if left == 0 then stop .endless
  modifyWorld fun w => { w with stepsLeft := left - 1 }
  modify fun st => { st with substituted := 0 }
  let (first, rest) ← firstFields r words
  let name := calledName first
  let meaning := (← get).meaning r true name
  let mayAssign := takesAssignments name && match meaning with
    | .builtin => true
    | _ => false
  let fields := first ++ (← argumentFields r mayAssign rest)
  let outer := (← get).channels
  let isLasting := match meaning with
    | .builtin => isSpecial name && first.head? != some "command"
    | _ => fields.isEmpty
  let ls ← leads r rs
  let isExec := name == "exec" && fields.length == 1
  let whole : Action Unit := do
    if ← leadAll ls then
      let before ← get
      let names := assignments.map fun (name, _) => String.ofList name
      let restore (st after : State) : State :=
        if isLasting then after else restoreVariables names st after
      keeping (fun _ after => restore before after) do
        let assigned ← assignAll r (!isLasting) assignments
        trace outer assigned fields
        if fields.isEmpty then setStatus (← get).substituted
        else call r isTested (fields.length + 1) true fields
    else if isLasting && !fields.isEmpty then stop .failure
  if isExec then whole else keepingChannels whole

/-! ### Pipes, shells within the shell and loops -/

/-- Runs commands that read one another's output. -/
def runPipe (r : Runner) (first rest : Action Unit) : Action Unit := do
  let start := (← get).world
  let sink ← openSink
  let _ ← isolated do
    modify fun st => { st with channels := setKey 1 (some (.sink sink)) st.channels }
    r.finishing first
  let text ← closeSink sink
  let ready := (← get).world
  let source ← openSource { text, readyAt := ready.elapsed, readyTicks := ready.ticks }
  modifyWorld fun w => { w with elapsed := start.elapsed, ticks := start.ticks + startSteps.1 }
  let code ← isolated do
    modify fun st => { st with channels := setKey 0 (some (.source source)) st.channels }
    r.finishing rest
  modifyWorld fun w =>
    { w with sources := setKey source none w.sources }.notBefore ready.elapsed ready.ticks
  setStatus code

/-- The redirections of a command. -/
def redirectsOf : Command → List (Redirect Word)
  | .simple _ _ _ rs | .nested _ _ rs | .redirected _ _ rs => rs
  | _ => []

/-- How many commands read one another's output in a command. -/
def pipeWidth : Command → Nat
  | .pipe _ rest => pipeWidth rest + 1
  | _ => 1

/-- The command is a row of words. -/
def isRow : Command → Bool
  | .simple .. => true
  | _ => false

/-- Runs a command in the background; its time does not count, except for what waits for it or for
its output. -/
def inBackground (r : Runner) (c : Command) (a : Action Unit) : Action Unit := do
  let start := (← get).world
  let (number, entries) := freeNumber (← get).entries
  let id ← newProcess
  let (status, signal) ← isolatedEnding do
    modify fun st =>
      { st with
        channels := setKey 0 (some .nothing) st.channels
        job := some id, endsWithProgram := isRow c }
    r.finishing a
  let ended := (← get).world
  let led := (redirectsOf c).map (·.descriptor)
  let holdsOutput := !(led.contains 1 && led.contains 2)
  let job : Job :=
    { id, status, signal, endsAt := ended.elapsed, endTicks := ended.ticks, width := pipeWidth c
      holdsOutput }
  modifyWorld fun w =>
    { w with
      elapsed := start.elapsed, ticks := start.ticks + startSteps.1, jobs := job :: w.jobs }
  modify fun st =>
    { st with entries := { number, id } :: entries, lastJob := some id, status := 0 }

/-- Runs rounds of a loop as long as they yield an exit code, which counts when no other one
follows; endless are more rounds than can be run. -/
def rounds (round : Action (Option Nat)) : Nat → Nat → Action Unit
  | 0, _ => stop .endless
  | fuel + 1, status => fun st =>
    match round st with
    | (.ok (some next), after) => rounds round fuel next after
    | (.ok none, after) => (.ok (), { after with status })
    | (.error e, after) => (.error e, after)

/-- How many rounds a loop may have. -/
def roundLimit : Nat := 3000000

/-- A round of a loop: what it yields, and whether the loop is left early or goes on early. -/
def asRound (a : Action (Option Nat)) : Action (Option Nat × Bool) := fun st =>
  let (result, after) := a { st with loops := st.loops + 1 }
  let after := { after with loops := st.loops }
  match result with
  | .ok next => (.ok (next, false), after)
  | .error (.leave 1) => (.ok (none, true), { after with status := 0 })
  | .error (.leave (n + 1)) => (.error (.leave n), after)
  | .error (.again 1) => (.ok (some 0, false), { after with status := 0 })
  | .error (.again (n + 1)) => (.error (.again n), after)
  | .error e => (.error e, after)

/-- Runs a body as long as a condition holds. -/
def runLoop (awaits : Bool) (condition body : Action Unit) : Action Unit := do
  let round : Action (Option Nat × Bool) := asRound do
    condition
    let holds := (← get).status == 0
    if holds == awaits then return none
    else
      body
      return some (← get).status
  let step : Action (Option Nat) := fun st =>
    match round st with
    | (.ok (_, true), after) => (.error (.leave 0), after)
    | (.ok (next, false), after) => (.ok next, after)
    | (.error e, after) => (.error e, after)
  fun st => match rounds step roundLimit 0 st with
    | (.error (.leave 0), after) => (.ok (), after)
    | other => other

/-- Runs a body for each item. -/
def forEach (name : String) (body : Action Unit) : List String → Action Unit
  | [] => return ()
  | item :: rest => do
    assign name item
    let (_, isLeft) ← asRound do
      body
      return none
    if !isLeft then forEach name body rest

/-- The text fits one of some words, as patterns. -/
def fitsOne (r : Runner) (s : String) : List Word → Action Bool
  | [] => return false
  | w :: ws => do
    if (← patternOf r w).fits s.toList then return true else fitsOne r s ws

mutual

/-- What a command does; that a failure is looked at may be known. -/
def Command.run (r : Runner) (isTested : Bool) : Command → Action Unit
  | .nothing => return ()
  | .success => unlessReading (setStatus 0)
  | .simple line assignments words rs => unlessReading do
    modify fun st => { st with line }
    runRow r isTested assignments words rs
    conclude r isTested
  | .sequence c d => do
    Command.run r isTested c
    Command.run r isTested d
  | .both c d => do
    Command.run r true c
    if (← get).status == 0 then Command.run r isTested d
  | .either c d => do
    Command.run r true c
    if (← get).status != 0 then Command.run r isTested d
  | .pipe c rest => unlessReading do
    runPipe r (Command.run r isTested c) (Command.run r isTested rest)
    conclude r isTested
  | .negation c => unlessReading do
    Command.run r true c
    modify fun st => { st with status := if st.status == 0 then 1 else 0 }
  | .background c => unlessReading <| inBackground r c (Command.run r false c)
  | .nested line c rs => unlessReading do
    modify fun st => { st with line }
    let ls ← leads r rs
    let code ← isolated (r.finishing do
      if ← leadAll ls then Command.run r isTested c)
    setStatus code
    conclude r isTested
  | .redirected line c rs => unlessReading do
    modify fun st => { st with line }
    runRedirected r rs (Command.run r isTested c)
  | .choice condition yes no => do
    Command.run r true condition
    if (← get).status == 0 then Command.run r isTested yes else Command.run r isTested no
  | .loop awaits condition body =>
    runLoop awaits (Command.run r true condition) (Command.run r isTested body)
  | .each line name words body => unlessReading do
    modify fun st => { st with line }
    let items ← fields r words
    if items.isEmpty then setStatus 0
    else forEach (String.ofList name) (Command.run r isTested body) items
  | .select line subject arms => unlessReading do
    modify fun st => { st with line }
    let s ← text r subject
    runArms r isTested s arms
  | .define _ name body => unlessReading do
    modify fun st =>
      { st with functions := setKey (String.ofList name) (some body) st.functions, status := 0 }

/-- Runs what is to be done for the first pattern that a text fits. -/
def runArms (r : Runner) (isTested : Bool) (s : String) : Arms → Action Unit
  | .none => setStatus 0
  | .arm patterns body rest => do
    if ← fitsOne r s patterns then
      match body with
      | .nothing => setStatus 0
      | _ => Command.run r isTested body
    else runArms r isTested s rest

end

/-! ### Scripts -/

/-- Runs what is left of a script, line by line. -/
def runLines (r : Runner) (isTested : Bool) : Nat → Reading → Action Unit
  | 0, _ => return ()
  | fuel + 1, reading => do
    let st ← get
    let known : Reading :=
      { reading with bodies := st.bodies, bodyCount := st.bodyCount, aliases := st.aliases }
    match known.next with
    | .error e => do
      modify fun st => { st with line := e.line }
      fail ("Syntax error: " ++ e.message)
    | .ok (c, after) =>
      modify fun st =>
        { st with bodies := after.bodies, bodyCount := after.bodyCount, readLine := after.line }
      match c with
      | none => return ()
      | some c => do
        c.run r isTested
        runLines r isTested fuel after

/-- Runs a script. -/
def runScript (r : Runner) (isTested : Bool) (script : String) : Action Unit :=
  keeping (fun st after => { after with readLine := st.readLine })
    (runLines r isTested (script.length + 2) (.ofScript script.toList))

/-- What runs commands and scripts within one another up to a depth, at which the shell breaks
down. -/
def runnerOf : Nat → Runner
  | 0 => { command := fun _ _ => stop (.killed 11), script := fun _ _ => stop (.killed 11) }
  | depth + 1 =>
    let inner := runnerOf depth
    { command := fun isTested c => c.run inner isTested
      script := fun isTested s => runScript inner isTested s }

/-- How deep calls and scripts may lie within one another. -/
def depthLimit : Nat := 1000

/-- How many commands are run before a script counts as endless. -/
def stepLimit : Nat := 3000000

/-- The state of a shell before it runs anything: its input is empty, and what it writes is
collected. -/
def firstState (files : Files.Entry) (environment : List (String × String)) : State :=
  let given := environment.map fun (name, value) =>
    (String.ofList (spellText name), String.ofList (spellText value))
  { world :=
      { files := withUsual files, sinks := [(1, []), (2, [])]
        sources := [(0, { text := [] })], stepsLeft := stepLimit }
    vars := (startVariables 1 given).filter (·.name != "PWD") ++
      [{ name := "PWD", value := some "/", isExported := true }]
    channels := [(0, .source 0), (1, .sink 1), (2, .sink 2)] }

/-- Runs a script that is an argument of the shell; one that starts with the mark of an option is
taken for options, and then there is no script. -/
def shellCommand (r : Runner) (script : String) : Action Unit := do
  match script.toList with
  | '-' :: _ | '+' :: _ =>
    modify fun st => { st with line := 0 }
    let _ ← setStartOptions ["-c", script]
  | _ => r.script false script

/-- How the shell of a script ends, and the state it leaves. -/
def startScript (files : Files.Entry) (environment : List (String × String)) (script : String) :
    Ending × State :=
  let r := runnerOf depthLimit
  let (result, st) := r.finishing (shellCommand r (String.ofList (spellText script)))
    (firstState files environment)
  match result with
  | .error (.killed _) => (.killed, st)
  | .error .endless => (.endless, st)
  | _ => (.exited (st.status % 256), st)

namespace State

/-- The octets written to a descriptor of the first shell. -/
def written (st : State) (descriptor : Nat) : List UInt8 := unspell (st.world.collected descriptor)

/-- When the shell and the commands that may still write have ended. -/
def endsAt (st : State) : Nat :=
  ((st.world.jobs.filter (·.holdsOutput)).map (·.endsAt)).foldl max st.world.elapsed

end State

end Inspection.Shell
