import Inspection.Template
import Inspection.Task.Definition

/-!
# Backend — Errors

What can go wrong between a step and its output, and what can go wrong with a run as a whole.
-/

namespace Inspection

/-- A failure of a backend. -/
inductive BackendError where
  | connect (detail : String)
  | auth (detail : String)
  | timeout (milliseconds : Nat)
  | commandFailed (exitCode : Option Int) (stderr : String)
  | query (detail : String)
  | spawn (detail : String)
  | notConfigured (detail : String)
  | io (detail : String)
deriving DecidableEq, Repr

/-- The exit code in a message; a command that a signal has ended has none. -/
def exitCodeText : Option Int → String
  | some code => Text.intText code
  | none => "unknown (killed by signal)"

/-- The wording of a failure. -/
def BackendError.message : BackendError → String
  | .connect detail => "Connection failed: " ++ detail
  | .auth detail => "Authentication failed: " ++ detail
  | .timeout ms => "Timed out after " ++ Text.natText ms ++ "ms"
  | .commandFailed code stderr =>
    "Command exited with status " ++ exitCodeText code ++ ": " ++ stderr
  | .query detail => "Query failed: " ++ detail
  | .spawn detail => "Spawn failed: " ++ detail
  | .notConfigured detail => "Not configured: " ++ detail
  | .io detail => "IO error: " ++ detail

/-- What ends the steps on a node. -/
inductive NodeError where
  | binding (e : BindingError)
  | backend (e : BackendError)
deriving DecidableEq, Repr

/-- The wording of the error. -/
def NodeError.message : NodeError → String
  | .binding e => e.message
  | .backend e => e.message

/-- What prevents a run. -/
inductive RunError where
  | config (e : TaskError)
  | validation (detail : String)
  | io (detail : String)
  | notFound (detail : String)
  | backend (e : BackendError)
deriving DecidableEq, Repr

/-- The wording of the error. -/
def RunError.message : RunError → String
  | .config e => "Configuration error: " ++ e.message
  | .validation detail => "Validation error: " ++ detail
  | .io detail => "IO error: " ++ detail
  | .notFound detail => "Not found: " ++ detail
  | .backend e => "Backend error: " ++ e.message

end Inspection
