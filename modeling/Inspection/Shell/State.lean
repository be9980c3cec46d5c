import Inspection.Files.Tree
import Inspection.Shell.Reader
import Inspection.Text.Numeral

/-!
# Shell — States

A shell has variables, functions, descriptors and a folder; a shell that another one starts has a
copy of them.  What all of them share is the world: files, what has been written, and time.

* `Action`: what takes a state to the next one; it may stop short of its end.
* `print`, `complain`, `fail`: output, messages and errors.
* `assign`, `lookup`: variables.
* `isolated`: an action in a shell of its own.
-/

namespace Inspection.Shell

/-! ### The world -/

/-- Where a descriptor leads. -/
inductive Channel where
  /-- Nowhere; nothing comes from there. -/
  | nothing
  /-- What is written is collected. -/
  | sink (id : Nat)
  | source (id : Nat)
  /-- To a folder, from which nothing can be read. -/
  | folder
  /-- A file that is written to. -/
  | file (path : List String)
deriving DecidableEq, Repr

/-- A part of what has been written. -/
structure Written where
  text : List Char
  /-- How long the commands had taken then, and how many steps there had been. -/
  time : Nat
  ticks : Nat
  /-- The command in the background that has written it. -/
  job : Option Nat
deriving DecidableEq, Repr

/-- A text that is read, each part of it once. -/
structure Source where
  text : List Char
  /-- When the text is complete, and after how many steps. -/
  readyAt : Nat := 0
  readyTicks : Nat := 0
deriving DecidableEq, Repr

/-- A command in the background. -/
structure Job where
  id : Nat
  status : Nat
  /-- The signal that has ended it. -/
  signal : Option Nat := none
  endsAt : Nat
  /-- The steps up to its end. -/
  endTicks : Nat
  /-- How many commands read one another's output in it. -/
  width : Nat := 1
  /-- Until it ends, more may be written where its shell writes. -/
  holdsOutput : Bool
deriving DecidableEq, Repr

/-- A command in the background as its shell knows it. -/
structure Entry where
  number : Nat
  id : Nat
  /-- The shell knows that it has ended. -/
  isReaped : Bool := false
  /-- The shell has waited for it. -/
  isAwaited : Bool := false
deriving DecidableEq, Repr

/-- A program that has been found in a folder. -/
structure Found where
  name : String
  path : String
  /-- The folder has been changed since. -/
  isStale : Bool := false
deriving DecidableEq, Repr

/-- The kinds of limits, by their letters. -/
abbrev Limits := List (Char × Option Nat × Option Nat)

/-- What all shells share. -/
structure World where
  files : Files.Entry
  /-- The parts of what has been written to a sink, the last one first. -/
  sinks : List (Nat × List Written) := []
  sources : List (Nat × Source) := []
  /-- How many sinks and sources there have been, and the first three numbers. -/
  channelCount : Nat := 3
  /-- How long the commands have taken, in milliseconds. -/
  elapsed : Nat := 0
  /-- How many steps there have been: these tell what comes first where no time passes. -/
  ticks : Nat := 0
  /-- The commands in the background, the last one first. -/
  jobs : List Job := []
  /-- The last number that a shell or a command in the background has been given. -/
  lastProcess : Nat := 2
  /-- How many commands may still be run. -/
  stepsLeft : Nat
  /-- Signals that shells have not handled, by the numbers of the shells. -/
  signals : List (Nat × Nat) := []

/-! ### A shell -/

/-- A variable; without a value it only has marks. -/
structure Variable where
  name : String
  value : Option String
  isExported : Bool := false
  isFixed : Bool := false
deriving DecidableEq, Repr

/-- How a shell has ended. -/
inductive Ending where
  | exited (code : Nat)
  | killed
  | endless
deriving DecidableEq, Repr

/-- The state of a shell. -/
structure State where
  world : World
  vars : List Variable := []
  functions : List (String × Command) := []
  /-- The name that messages start with. -/
  name : String := "sh"
  arguments : List String := []
  /-- The options that are set, by their letters. -/
  options : List Char := []
  channels : List (Nat × Channel) := []
  folder : List String := []
  /-- The folder is told with two slashes in front. -/
  isFolderDoubled : Bool := false
  /-- The exit code of the last command. -/
  status : Nat := 0
  /-- The exit code of the last command whose output stood for it. -/
  substituted : Nat := 0
  line : Nat := 1
  /-- The line up to which the script has been read. -/
  readLine : Nat := 1
  /-- The command that messages are about. -/
  command : Option String := none
  /-- What to do on a signal; nothing if the text is empty. -/
  traps : List (Nat × String) := []
  /-- The number by which signals reach the shell. -/
  id : Nat := 2
  /-- The number of what has started it. -/
  starter : Nat := 1
  /-- The command in the background that it belongs to. -/
  job : Option Nat := none
  /-- It is a copy of the shell with its number. -/
  isCopy : Bool := false
  /-- How many loops are open. -/
  loops : Nat := 0
  isInFunction : Bool := false
  /-- What variables were before a function was called, for those that are its own. -/
  outer : List (String × Option Variable) := []
  /-- The last command in the background. -/
  lastJob : Option Nat := none
  /-- The commands in the background that the shell knows, the current one first. -/
  entries : List Entry := []
  /-- Texts that stand for words where a command may start. -/
  aliases : List (String × String) := []
  /-- Programs that have been found, the first one first. -/
  found : List Found := []
  /-- The permissions that new files do not get. -/
  mask : Nat := 0o022
  /-- The limits that have been set: the one that counts, and the most it may be. -/
  limits : Limits := []
  /-- The options before the function that runs has made them its own. -/
  outerOptions : Option (List Char) := none
  /-- The shell ends with the program that it runs. -/
  endsWithProgram : Bool := false
  /-- The argument of a script in which an option has been read, and how far. -/
  optionPlace : Nat := 1
  optionOffset : Nat := 0
  /-- Something could not be written. -/
  isBroken : Bool := false
  bodies : List (Nat × Word) := []
  bodyCount : Nat := 0

/-- Why an action stops. -/
inductive Stop where
  /-- That many loops are left. -/
  | leave (loops : Nat)
  /-- The next round of an enclosing loop starts. -/
  | again (loops : Nat)
  /-- The function is left. -/
  | back
  /-- The shell ends with its status. -/
  | exit
  /-- The shell ends because of an error. -/
  | failure
  | killed (signal : Nat)
  /-- There is no end. -/
  | endless
deriving DecidableEq, Repr

/-- What takes a shell to its next state. -/
abbrev Action := ExceptT Stop (StateM State)

/-- Stops. -/
def stop {α : Type} (s : Stop) : Action α := throw s

/-- Changes the world. -/
def modifyWorld (f : World → World) : Action Unit :=
  modify fun st => { st with world := f st.world }

/-- Sets the exit code. -/
def setStatus (n : Nat) : Action Unit := modify fun st => { st with status := n }

/-- The list with the value of a key set, or without it. -/
def setKey {K V : Type} [BEq K] (k : K) (v : Option V) (l : List (K × V)) : List (K × V) :=
  let others := l.filter (·.1 != k)
  match v with
  | some v => (k, v) :: others
  | none => others

/-! ### Writing and reading -/

/-- A time with its steps does not come after another one. -/
def isBefore (time ticks time' ticks' : Nat) : Bool :=
  time < time' || (time == time' && ticks ≤ ticks')

/-- The octets in a sink, as they follow one another in time. -/
def World.collected (w : World) (id : Nat) : List Char :=
  let parts := ((w.sinks.lookup id).getD []).reverse.mergeSort fun a b =>
    isBefore a.time a.ticks b.time b.ticks
  parts.flatMap (·.text)

/-- The world not before a time and its steps. -/
def World.notBefore (w : World) (time ticks : Nat) : World :=
  if isBefore w.elapsed w.ticks time ticks then { w with elapsed := time, ticks } else w

/-- The world so many steps later. -/
def World.later (w : World) (steps : Nat) : World := { w with ticks := w.ticks + steps }

/-- How many steps it takes until a shell has started another one, until that one runs, and until it
runs a program. -/
def startSteps : Nat × Nat × Nat := (1, 10, 20)

/-- The world in which some of what has been written has not been. -/
def World.keepingWritten (w : World) (isKept : Written → Bool) : World :=
  { w with sinks := w.sinks.map fun (k, parts) => (k, parts.filter isKept) }

/-- The world with octets added to a file. -/
def World.append? (w : World) (path : List String) (s : List Char) : Option World :=
  let old := match Files.Entry.find? path w.files with
    | some (.file octets) => octets
    | _ => []
  (Files.Entry.put? (.file (old ++ unspell s)) path w.files).map fun files => { w with files }

/-- The world after octets have been written; none if nothing can be written there. -/
def World.write? (w : World) (job : Option Nat) (s : List Char) : Channel → Option World
  | .nothing => some w
  | .sink id =>
    let part : Written := { text := s, time := w.elapsed, ticks := w.ticks, job }
    some { w with sinks := w.sinks.map fun (k, parts) =>
      (k, if k == id then part :: parts else parts) }
  | .source _ | .folder => none
  | .file path => w.append? path s

/-- Writes to a descriptor. -/
def printOn (descriptor : Nat) (s : List Char) : Action Unit := do
  if s.isEmpty then return ()
  let st ← get
  match (st.channels.lookup descriptor).bind (st.world.write? st.job s) with
  | some world => set { st with world }
  | none => set { st with isBroken := true }

/-- Writes to the output. -/
def print (s : List Char) : Action Unit := printOn 1 s

/-- Writes a line to the output. -/
def printLine (s : String) : Action Unit := print (s.toList ++ ['\n'])

/-- Writes a line where messages go; it is lost if it cannot be written. -/
def printError (s : String) : Action Unit := do
  let broken := (← get).isBroken
  printOn 2 (s.toList ++ ['\n'])
  modify fun st => { st with isBroken := broken }

/-- A new number for a shell or a command in the background. -/
def newProcess : Action Nat := do
  let id := (← get).world.lastProcess + 1
  modifyWorld fun w => { w with lastProcess := id }
  return id

/-- Opens a sink. -/
def openSink : Action Nat := do
  let st ← get
  let id := st.world.channelCount
  modifyWorld fun w => { w with sinks := (id, []) :: w.sinks, channelCount := id + 1 }
  return id

/-- Closes a sink; what has been written to it. -/
def closeSink (id : Nat) : Action (List Char) := do
  let text := (← get).world.collected id
  modifyWorld fun w => { w with sinks := setKey id none w.sinks }
  return text

/-- Opens a source. -/
def openSource (s : Source) : Action Nat := do
  let st ← get
  let id := st.world.channelCount
  modifyWorld fun w => { w with sources := (id, s) :: w.sources, channelCount := id + 1 }
  return id

/-- Takes octets from a descriptor, as a reader of its text divides it into those taken and those
left; none if it is closed. -/
def takeFrom (descriptor : Nat) (divide : List Char → List Char × List Char) :
    Action (Option (List Char)) := do
  let st ← get
  match st.channels.lookup descriptor with
  | some (.source id) =>
    match st.world.sources.lookup id with
    | some s =>
      let (taken, left) := divide s.text
      modifyWorld fun w =>
        let w := { w with sources := setKey id (some { s with text := left }) w.sources }
        if left.isEmpty then w.notBefore s.readyAt s.readyTicks else w
      return some taken
    | none => return some []
  | some _ => return some []
  | none => return none

/-- All octets of the input. -/
def takeInput : Action (List Char) := do return ((← takeFrom 0 fun s => (s, [])).getD [])

/-! ### Messages -/

/-- Writes a message about the command that runs. -/
def complain (message : String) : Action Unit := do
  let st ← get
  let about := (st.command.map (· ++ ": ")).getD ""
  printError (st.name ++ ": " ++ Text.natText st.line ++ ": " ++ about ++ message)

/-- Ends the shell with a message. -/
def fail {α : Type} (message : String) : Action α := do
  complain message
  setStatus 2
  stop .failure

/-- Writes a message and fails with an exit code. -/
def refuse (status : Nat) (message : String) : Action Unit := do
  complain message
  setStatus status

/-! ### Variables -/

/-- The value of a variable. -/
def State.value? (st : State) (name : String) : Option String :=
  (st.vars.find? (·.name == name)).bind (·.value)

/-- The value of a variable. -/
def lookup (name : String) : Action (Option String) := do return (← get).value? name

/-- The variables that commands are given. -/
def State.environment (st : State) : List (String × String) :=
  st.vars.filterMap fun v => if v.isExported then v.value.map fun s => (v.name, s) else none

/-- The state with a variable replaced, added or removed. -/
def State.setVariable (st : State) (name : String) (v : Option Variable) : State :=
  if st.vars.any (·.name == name) then
    { st with vars := st.vars.filterMap fun w => if w.name == name then v else some w }
  else { st with vars := st.vars ++ v.toList }

/-- Changes a variable; one that is fixed keeps its value. -/
def change (name : String) (f : Variable → Variable) : Action Unit := do
  let st ← get
  if !isName name.toList then fail (name ++ ": bad variable name")
  let old := (st.vars.find? (·.name == name)).getD { name, value := none }
  let new := f old
  if old.isFixed && new.value != old.value then fail (name ++ ": is read only")
  set (st.setVariable name (some { new with isFixed := new.isFixed || old.isFixed }))

/-- How many octets a value may have; there is no room for more. -/
def sizeLimit : Nat := 16777216

/-- The state after a variable has changed: programs are found anew where the folders that list them
have changed. -/
def State.noting (st : State) (name : String) : State :=
  if name == "PATH" then { st with found := [] } else st

/-- Gives a variable a value. -/
def assign (name value : String) : Action Unit := do
  let st ← get
  if value.utf8ByteSize > sizeLimit then fail "Out of space"
  if (st.vars.find? (·.name == name)).any (·.isFixed) then fail (name ++ ": is read only")
  let exports := st.options.contains 'a'
  change name fun v => { v with value := some value, isExported := v.isExported || exports }
  modify (·.noting name)

/-- Removes a variable. -/
def forget (name : String) : Action Unit := do
  let st ← get
  if !isName name.toList then fail (name ++ ": bad variable name")
  if (st.vars.find? (·.name == name)).any (·.isFixed) then fail (name ++ ": is read only")
  set ((st.setVariable name none).noting name)

/-- An option is set. -/
def hasOption (c : Char) : Action Bool := do return (← get).options.contains c

/-! ### Shells within shells -/

/-- Runs an action with some of the state as it was before. -/
def keeping {α : Type} (restore : State → State → State) (a : Action α) : Action α := fun st =>
  let (result, after) := a st
  (result, restore st after)

/-- The least number that is free for a command, and the entries that are left: one that has been
waited for gives way. -/
def freeNumber (entries : List Entry) : Nat × List Entry :=
  let isFree (n : Nat) : Bool := entries.all fun e => e.number != n || e.isAwaited
  let n := ((List.range entries.length).map (· + 1)).find? isFree
  let n := n.getD (entries.length + 1)
  (n, entries.filter (·.number != n))

namespace State

/-- The command of an entry. -/
def jobOf (st : State) (e : Entry) : Job :=
  (st.world.jobs.find? (·.id == e.id)).getD
    { id := e.id, status := 0, endsAt := 0, endTicks := 0, holdsOutput := false }

/-- The command of an entry has ended, as far as the shell can know. -/
def hasEnded (st : State) (e : Entry) : Bool :=
  let j := st.jobOf e
  e.isReaped || isBefore j.endsAt j.endTicks st.world.elapsed st.world.ticks

/-- The shell after it has looked which commands have ended. -/
def reaped (st : State) : State :=
  { st with entries := st.entries.map fun e => { e with isReaped := st.hasEnded e } }

/-- The shell after it has started a command and waited for it, which left the world as it is
given; commands that have ended meanwhile are noticed. -/
def awaiting (st : State) (world : World) : State :=
  { st with world, entries := (freeNumber st.entries).2 }.reaped

end State

/-- Runs an action in a shell of its own, which ends with an exit code or by a signal; the world
stays as the action leaves it. -/
def isolatedEnding (a : Action Unit) : Action (Nat × Option Nat) := fun st =>
  let (result, after) := a
    { st with
      world := st.world.later startSteps.2.1, isCopy := true, starter := st.id, entries := []
      traps := st.traps.filter (·.2.isEmpty), endsWithProgram := false }
  let st := st.awaiting after.world
  match result with
  | .error .endless => (.error .endless, st)
  | .error (.killed signal) => (.ok (128 + signal, some signal), st)
  | _ => (.ok (after.status, none), st)

/-- Runs an action in a shell of its own, which ends with an exit code. -/
def isolated (a : Action Unit) : Action Nat := do return (← isolatedEnding a).1

end Inspection.Shell
