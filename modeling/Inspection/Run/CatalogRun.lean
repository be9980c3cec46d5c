import Inspection.Catalog.Selection
import Inspection.Run.TaskRun

/-!
# Run — The tasks of a catalog

The chosen tasks run one after another.  A task without a variant for the version is skipped, and
so is, from the interrupt on, every task that has not started.

* `runCatalog`: the report of a run, and the calls made.
* `detectVersion`: the version that the cluster itself names.
-/

namespace Inspection

/-- What is asked of a run. -/
structure RunRequest where
  version : Version
  mode : RunMode := .check
  selection : Selection := {}
  /-- Variables for every node; they come before a node's own. -/
  vars : List (String × String) := []

/-- The node with the variables of a request. -/
def Node.withVars (n : Node) (vars : List (String × String)) : Node :=
  { n with vars := n.vars ++ vars }

/-- What came of one task. -/
inductive TaskOutcome where
  | ran (run : TaskRun)
  | skipped (task : SkippedTask)

namespace TaskOutcome

/-- The report of a task that ran. -/
def report? : TaskOutcome → Option TaskReport
  | .ran run => some run.report
  | .skipped _ => none

/-- The task, if it was skipped. -/
def skipped? : TaskOutcome → Option SkippedTask
  | .ran _ => none
  | .skipped task => some task

/-- The calls of a task. -/
def calls : TaskOutcome → List TimedCall
  | .ran run => run.calls
  | .skipped _ => []

end TaskOutcome

/-- Runs or skips a task at an instant; the instant after it. -/
def runOrSkip (b : Backends) (engine : Engine) (stop : Option Nat) (nodes : List Node)
    (v : Version) (now : Nat) (task : Task) : TaskOutcome × Nat :=
  if !Schedule.isBefore now stop then (.skipped (.ofInterrupt task.name), now)
  else match task.select? v with
    | none => (.skipped (.noVariant task.name v), now)
    | some variant =>
      let run := runTask b engine stop now task variant nodes v
      (.ran run, run.course.finish)

/-- Runs or skips tasks one after another; the instant after the last. -/
def runTasks (b : Backends) (engine : Engine) (stop : Option Nat) (nodes : List Node)
    (v : Version) : Nat → List Task → List TaskOutcome × Nat
  | now, [] => ([], now)
  | now, task :: rest =>
    let (outcome, now) := runOrSkip b engine stop nodes v now task
    let (more, finish) := runTasks b engine stop nodes v now rest
    (outcome :: more, finish)

/-- A run with the calls that it made. -/
structure CatalogRun where
  report : RunReport
  calls : List TimedCall
  /-- The instant at which all is over. -/
  finish : Nat

/-- Runs all tasks of a catalog. -/
def runChosen (b : Backends) (engine : Engine) (stop : Option Nat) (chosen : Catalog)
    (nodes : List Node) (request : RunRequest) : CatalogRun :=
  let (outcomes, finish) := runTasks b engine stop nodes request.version 0 chosen.tasks
  { report :=
      RunReport.ofTasks request.version request.mode (outcomes.filterMap (·.report?))
        (outcomes.filterMap (·.skipped?)) chosen.broken
    calls := outcomes.flatMap (·.calls)
    finish := finish }

/-- Runs the tasks of a catalog that a request chooses; an interrupt comes at an instant after the
start. -/
def runCatalog (b : Backends) (engine : Engine) (stop : Option Nat) (catalog : Catalog)
    (nodes : List Node) (request : RunRequest) : Except RunError CatalogRun :=
  if nodes.isEmpty then .error (.validation "no target nodes")
  else
    (catalog.select request.selection).map fun chosen =>
      runChosen b engine stop chosen (nodes.map (·.withVars request.vars)) request

/-- The query whose first cell names the version. -/
def versionQuery : String := "SELECT version()"

/-- The version that the first node with a database names. -/
def versionOfRows (node : Node) (rows : Rows) : Except RunError Version :=
  match rows.head?.bind List.head? with
  | none => .error (.notFound ("version query returned no rows on " ++ node.id))
  | some banner =>
    match Version.extract banner with
    | some v => .ok v
    | none => .error (.validation ("no version in banner '" ++ banner ++ "'"))

/-- Asks the first node with a database for the version; the node asked, if there is one. -/
def detectVersion (query : Node → String → Reply Rows) (nodes : List Node) (sql : String) :
    Option Node × Except RunError Version :=
  match nodes.find? (·.sqlUrl.isSome) with
  | none => (none, .error (.validation "no node has a sql_url to detect the version"))
  | some node =>
    (some node,
      match query node sql with
      | .ok rows => versionOfRows node rows
      | .failed e => .error (.backend e)
      | .panicked text => .error (.backend (.query text)))

end Inspection
