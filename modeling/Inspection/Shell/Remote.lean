import Inspection.Backend.Basic
import Inspection.Shell.Local

/-!
# Shell — Commands on nodes

A command runs on its node through `ssh`; on a local node it is a script of the shell.  Only the
variables on a list are handed on, and a command that runs too long is ended.

* `Settings.sshArguments`: the arguments of `ssh` for a command on a node.
* `sshFailure`: what an exit of `ssh` itself means.
* `Settings.run`: the outcome of a command.
-/

namespace Inspection.Shell

/-- How commands are run; times are in milliseconds. -/
structure Settings where
  connectTimeout : Nat := 10000
  commandTimeout : Nat := 60000
  /-- Where connections that are kept open are found; without it each command connects anew. -/
  controlDir : Option String := none
  /-- The variables handed on. -/
  allowed : List String := ["PATH", "HOME", "USER", "LANG", "SSH_AUTH_SOCK"]
deriving DecidableEq, Repr

/-- What a command leaves behind. -/
structure Outcome where
  stdout : List UInt8 := []
  stderr : List UInt8 := []
  /-- None if a signal has ended the command. -/
  exitCode : Option Nat := some 0
  /-- How long it took, in milliseconds. -/
  elapsed : Nat := 0
  /-- It would never have ended by itself. -/
  isEndless : Bool := false
deriving DecidableEq, Repr

namespace Settings

/-- The variables among those given that are handed on. -/
def handedOn (s : Settings) (environment : List (String × String)) : List (String × String) :=
  environment.filter fun (name, _) => s.allowed.contains name

/-- The options that keep connections open. -/
def controlOptions (dir : String) : List String :=
  ["-o", "ControlMaster=auto", "-o", "ControlPath=" ++ dir ++ "/%r@%h:%p", "-o",
    "ControlPersist=60s"]

/-- Where a command for a node is sent to. -/
def destination (node : Node) : String :=
  match node.sshUser with
  | some user => user ++ "@" ++ node.host
  | none => node.host

/-- The arguments of `ssh` for a command on a node. -/
def sshArguments (s : Settings) (node : Node) (command : String) : List String :=
  ["-o", "BatchMode=yes", "-o",
    "ConnectTimeout=" ++ Text.natText (max 1 (s.connectTimeout / 1000)), "-o",
    "StrictHostKeyChecking=accept-new"]
    ++ (s.controlDir.map controlOptions).getD []
    ++ ["-p", Text.natText node.sshPort]
    ++ (node.sshKey.map fun key => ["-i", key]).getD []
    ++ [destination node, command]

end Settings

/-- The exit code by which `ssh` reports a failure of its own. -/
def sshErrorCode : Nat := 255

/-- The texts by which `ssh` says that it was not let in. -/
def deniedTexts : List String := ["Permission denied", "Authentication failed"]

/-- What a failure of `ssh` itself means. -/
def sshFailure (node : Node) (stderr : String) : BackendError :=
  let message := node.host ++ ": " ++ Text.trimmed stderr
  if deniedTexts.any fun t => Text.contains t.toList stderr.toList then .auth message
  else .connect message

/-- What a started command comes to. -/
def Outcome.reply (o : Outcome) (node : Node) (timeout : Nat) : Except BackendError CommandOutput :=
  let stderr := Text.readLossy o.stderr
  if o.isEndless || timeout ≤ o.elapsed then .error (.timeout timeout)
  else if !node.isLocal && o.exitCode == some sshErrorCode then .error (sshFailure node stderr)
  else .ok { stdout := Text.readLossy o.stdout, stderr, exitCode := o.exitCode.map Int.ofNat }

/-- The outcome of a script of the shell. -/
def Outcome.ofShell (ending : Ending) (st : State) : Outcome :=
  { stdout := st.written 1
    stderr := st.written 2
    exitCode := match ending with
      | .exited code => some code
      | .killed | .endless => none
    elapsed := st.endsAt
    isEndless := ending == .endless }

/-- What runs on this machine. -/
structure Machine where
  files : Files.Entry := .empty
  environment : List (String × String) := []
  /-- What `ssh` does with its arguments; none if there is no such program. -/
  ssh : Option (List String → Outcome) := none

/-- The reason for which no program is started. -/
def noProgram : String := "No such file or directory (os error 2)"

/-- The character that no argument of a program may hold. -/
def hasNul (s : String) : Bool := s.toList.contains '\x00'

namespace Settings

/-- The outcome of a command on a node. -/
def run (s : Settings) (m : Machine) (node : Node) (command : String) :
    Except BackendError CommandOutput :=
  let program := if node.isLocal then "sh" else "ssh"
  let args := if node.isLocal then ["-c", command] else s.sshArguments node command
  if args.any hasNul then
    .error (.spawn (program ++ ": nul byte found in provided data"))
  else if node.isLocal then
    let (ending, st) := startScript m.files (s.handedOn m.environment) command
    (Outcome.ofShell ending st).reply node s.commandTimeout
  else match m.ssh with
    | some ssh => (ssh args).reply node s.commandTimeout
    | none => .error (.spawn (program ++ ": " ++ noProgram))

end Settings

end Inspection.Shell
