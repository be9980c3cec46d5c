import Inspection.Backend.Error
import Inspection.Node
import Inspection.Text.Blank

/-!
# Backend — Calls and replies

A backend is known by what it answers: a reply for each node and command, which may be a failure or
a panic.  Asking it leaves a trace of calls.

* `Backends.probe`: runs the command of a step and takes its output.
* `Backends.test`: has an expression decided.
-/

namespace Inspection

/-- The output of a command. -/
structure CommandOutput where
  stdout : String := ""
  stderr : String := ""
  /-- None if a signal has ended the command. -/
  exitCode : Option Int := some 0
deriving DecidableEq, Repr

/-- The command ended with exit code zero. -/
def CommandOutput.isSuccess (o : CommandOutput) : Bool := o.exitCode == some 0

/-- An answer of a backend. -/
inductive Reply (α : Type) where
  | ok (value : α)
  | failed (e : BackendError)
  | panicked (text : String)
deriving DecidableEq, Repr

/-- A call of a backend. -/
inductive Call where
  | shell (command : String)
  | query (sql : String)
deriving DecidableEq, Repr

/-- The command of a call to the shell. -/
def Call.command? : Call → Option String
  | .shell command => some command
  | .query _ => none

/-- The text of a query. -/
def Call.sql? : Call → Option String
  | .query sql => some sql
  | .shell _ => none

/-- An answer with the calls that led to it. -/
structure Traced (α : Type) where
  calls : List Call
  reply : Reply α

namespace Traced

/-- One call. -/
def call {α : Type} (c : Call) (reply : Reply α) : Traced α := ⟨[c], reply⟩

/-- An answer without a call. -/
def silent {α : Type} (reply : Reply α) : Traced α := ⟨[], reply⟩

/-- What `f` makes of the answer. -/
def bind {α β : Type} (t : Traced α) (f : α → Traced β) : Traced β :=
  match t.reply with
  | .ok a => let u := f a; ⟨t.calls ++ u.calls, u.reply⟩
  | .failed e => ⟨t.calls, .failed e⟩
  | .panicked text => ⟨t.calls, .panicked text⟩

instance : Monad Traced where
  pure a := silent (.ok a)
  bind := bind

end Traced

/-- Rows of cells. -/
abbrev Rows := List (List String)

/-- What a step asks of its backend. -/
inductive Request where
  | probe (kind : StepKind) (command : String)
  | test (kind : StepKind) (expression : String)
deriving DecidableEq, Repr

/-- The backends of a run. -/
structure Backends where
  shell : Node → String → Reply CommandOutput
  query : Node → String → Reply Rows
  /-- A parameter of the system; it may be read through the shell. -/
  parameter : Node → String → Traced String

/-- The first cell of the first row; empty if there is none. -/
def firstCell (rows : Rows) : String := (rows.head?.bind List.head?).getD ""

/-- Only a command that succeeds has an output, which is trimmed. -/
def successfulOutput (o : CommandOutput) : Reply String :=
  if o.isSuccess then .ok (Text.trimmed o.stdout)
  else .failed (.commandFailed o.exitCode (Text.trimmed o.stderr))

/-- The cells that count as false: none, zero, and the words for false and for no value. -/
def isTrueCell (cell : String) : Bool :=
  let cell := Text.trim cell.toList
  !(cell.isEmpty || cell == ['0'] || cell.map Char.toLower == "false".toList
    || cell.map Char.toLower == "null".toList)

namespace Backends

/-- Runs a command on a node. -/
def runShell (b : Backends) (node : Node) (command : String) : Traced CommandOutput :=
  .call (.shell command) (b.shell node command)

/-- Runs a query on a node. -/
def runQuery (b : Backends) (node : Node) (sql : String) : Traced Rows :=
  .call (.query sql) (b.query node sql)

/-- Runs the command of a step and takes its output. -/
def probe (b : Backends) (node : Node) (kind : StepKind) (command : String) : Traced String :=
  match kind with
  | .sql => firstCell <$> b.runQuery node command
  | .ssh => b.runShell node command >>= fun o => .silent (successfulOutput o)
  | .systemParameter => Text.trimmed <$> b.parameter node (Text.trimmed command)

/-- Has an expression decided: by a query, or by the exit code of a command. -/
def test (b : Backends) (node : Node) (kind : StepKind) (expression : String) : Traced Bool :=
  match kind with
  | .sql =>
    (fun rows => isTrueCell (firstCell rows)) <$> b.runQuery node ("SELECT (" ++ expression ++ ")")
  | .ssh | .systemParameter => CommandOutput.isSuccess <$> b.runShell node expression

/-- The calls that a request leads to. -/
def calls (b : Backends) (node : Node) : Request → List Call
  | .probe kind command => (b.probe node kind command).calls
  | .test kind expression => (b.test node kind expression).calls

end Backends

end Inspection
