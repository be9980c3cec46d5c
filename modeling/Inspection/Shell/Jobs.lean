import Inspection.Shell.Arguments
import Inspection.Shell.Signal

/-!
# Shell — Commands in the background

A shell knows the commands that it has started in the background by numbers, the last one being the
current one.  One that has ended is forgotten when that has been told, or when its number is needed
after the shell has waited for it.

* `jobs`, `wait`, `kill`: listing such commands, waiting for them, sending them signals.
* `resume`: bringing one back, which needs a terminal.
-/

namespace Inspection.Shell

/-! ### Listing -/

/-- What is told of a command. -/
def jobState (j : Job) (hasEnded : Bool) : String :=
  if !hasEnded then "Running"
  else match j.signal with
    | some signal => Signal.title signal
    | none => if j.status == 0 then "Done" else "Done(" ++ Text.natText j.status ++ ")"

/-- The column at which commands themselves would be told. -/
def jobColumn : Nat := 33

/-- Tells a command, with its process on demand; one that has ended is forgotten. -/
def tellJob (withProcess : Bool) (e : Entry) : Action Unit := do
  let st ← get
  let j := st.jobOf e
  let ids := st.entries.map (·.id)
  let mark := if ids.head? == some e.id then "+" else if ids[1]? == some e.id then "-" else " "
  let text := "[" ++ Text.natText e.number ++ "] " ++ mark ++ " "
    ++ (if withProcess then Text.natText e.id ++ " " else "") ++ jobState j (st.hasEnded e)
  let blanks := List.replicate (max 1 (jobColumn - text.length)) ' '
  let pipes := (List.replicate (j.width - 1) [' ', '|', ' ']).flatten
  print (text.toList ++ blanks ++ pipes ++ ['\n'])
  if st.hasEnded e then
    modify fun st => { st with entries := st.entries.filter (·.id != e.id) }

/-- The command that a name such as `%1` is; without a name the current one. -/
def namedJob (name : Option String) : Action Entry := do
  let entries := (← get).entries
  let found (missing : String) (e : Option Entry) : Action Entry :=
    match e with
    | some e => return e
    | none => fail missing
  let none_ : String := "No such job: " ++ name.getD ""
  match name.map (·.toList) with
  | none | some ['%'] | some ['%', '+'] | some ['%', '%'] =>
    found "No current job" entries.head?
  | some ['%', '-'] => found "No previous job" entries[1]?
  | some ['%', '?'] =>
    match entries with
    | [e] => return e
    | _ => fail none_
  | some ('%' :: digits) =>
    found none_ ((Text.ofDigits? digits).bind fun n => entries.find? (·.number == n))
  | some _ => fail none_

/-- Lists commands in the background. -/
def jobs (args : List String) : Action Unit := do
  let (os, names) ← options ['l', 'p'] [] (args.length + 1) args
  setStatus 0
  let tell (e : Entry) : Action Unit :=
    if os.getLast?.any (·.1 == 'p') then printLine (Text.natText e.id)
    else tellJob (!os.isEmpty) e
  if names.isEmpty then
    modify State.reaped
    let all := (← get).entries
    -- Marks are told by the list as it shrinks.
    all.forM tell
  else names.forM fun name => do tell (← namedJob (some name))

/-- Brings a command back to the front, or sets it going; there is no terminal for that. -/
def resume (args : List String) : Action Unit := do
  let names ← operandsOf args
  let _ ← namedJob names.head?
  fail ("job " ++ names.headD "(null)" ++ " not created under job control")

/-! ### Waiting -/

/-- Waits for a command; others that end meanwhile are noticed. -/
def awaitEntry (e : Entry) : Action Unit :=
  modify fun st =>
    let j := st.jobOf e
    let st := { st with world := st.world.notBefore j.endsAt j.endTicks }.reaped
    { st with entries := st.entries.map fun f =>
        if f.id == e.id then { f with isReaped := true, isAwaited := true } else f }

/-- Waits for a command that is asked for; what has ended it is told unless that is known. -/
def awaitNamed (e : Entry) : Action Unit := do
  let st ← get
  awaitEntry e
  let j := st.jobOf e
  setStatus j.status
  match if e.isReaped then none else j.signal.bind Signal.obituary with
  | some message => printError message
  | none => return ()

/-- Waits for commands in the background. -/
def wait (args : List String) : Action Unit := do
  let names ← operandsOf args
  setStatus 0
  if names.isEmpty then (← get).entries.forM awaitEntry
  names.forM fun name => do
    if name.startsWith "%" then awaitNamed (← namedJob (some name))
    else
      let id ← number name
      match (← get).entries.find? (·.id == id) with
      | some e => awaitNamed e
      | none => setStatus 127

/-! ### Signals -/

/-- How `kill` is called. -/
def killUsage : String :=
  "Usage: kill [-s sigspec | -signum | -sigspec] [pid | job]... or\nkill -l [exitstatus]"

/-- Tells that there is no process to get a signal. -/
def noProcess : Action Unit := refuse 1 "No such process\n"

/-- Sends a signal to a shell or to a command in the background. -/
def sendSignal (signal id : Nat) : Action Unit := do
  let w := (← get).world
  match w.jobs.find? (·.id == id) with
  | some _ =>
    if signal != 0 && !Signal.isHarmless signal then
      modifyWorld fun w =>
        let jobs := w.jobs.map fun j =>
          if j.id == id && w.elapsed < j.endsAt then
            { j with
              endsAt := w.elapsed, endTicks := w.ticks, status := 128 + signal
              signal := some signal }
          else j
        { w with jobs }.keepingWritten fun p => p.job != some id || p.time ≤ w.elapsed
  | none =>
    if 2 ≤ id && id ≤ w.lastProcess then
      if signal != 0 then modifyWorld fun w => { w with signals := w.signals ++ [(id, signal)] }
    else if id != 1 || signal != 0 then noProcess

/-- Sends a signal to what an argument names.  Neither commands by their numbers nor groups get
one, since there are no groups. -/
def signalTo (signal : Nat) (name : String) : Action Unit := do
  match name.toList with
  | '%' :: _ => do
    let _ ← namedJob (some name)
    noProcess
  | '-' :: digits => do
    let _ ← number (String.ofList digits)
    noProcess
  | _ => sendSignal signal (← number name)

/-- Prints the names of signals. -/
def listSignals (operands : List String) : Action Unit := do
  match operands with
  | [] =>
    printLine "0"
    (List.range (Signal.count - 1)).forM fun n => printLine (Signal.name (n + 1))
  | s :: _ =>
    let n ← number s
    let n := if n > 128 then n - 128 else n
    if n == 0 || Signal.count ≤ n then fail ("invalid signal number or exit status: " ++ s)
    printLine (Signal.name n)

/-- Sends a signal. -/
def kill (args : List String) : Action Unit := do
  setStatus 0
  let named := match args with
    | a :: _ =>
      if a.startsWith "-" then Signal.read? false (String.ofList (a.toList.drop 1)) else none
    | [] => none
  let (signal, list, targets) ← match named with
    | some n => pure (n, false, args.drop 1)
    | none => do
      let (os, targets) ← options ['l'] ['s'] (args.length + 1) args
      let signal ← match os.lookup 's' with
        | some s =>
          match Signal.read? false s with
          | some n => pure n
          | none => fail ("invalid signal number or name: " ++ s)
        | none => pure Signal.usual
      pure (signal, os.any (·.1 == 'l'), targets)
  if list then listSignals targets
  else if targets.isEmpty then fail killUsage
  else targets.forM (signalTo signal)

end Inspection.Shell
