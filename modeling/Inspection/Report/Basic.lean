import Inspection.Task.Basic

/-!
# Report — What a run has found

A step has a verdict and a severity; a node has the steps that were recorded and how they ended; a
task has its nodes; a run has its tasks.  The status of each is the greatest severity below it, and
`error` where something was not carried out.

* `NodeReport.status`, `TaskReport.status`, `RunReport.status`: the status at each level.
* `RunReport.exitCode`: what the process reports to its caller.
-/

namespace Inspection

/-- How serious a finding is. -/
inductive Severity where
  | pass
  | warning
  | critical
  | error
deriving DecidableEq, Repr

namespace Severity

/-- The place in the order of severities. -/
def rank : Severity → Nat
  | .pass => 0
  | .warning => 1
  | .critical => 2
  | .error => 3

/-- The more serious of two. -/
def worse (a b : Severity) : Severity := if a.rank ≤ b.rank then b else a

/-- The most serious of many. -/
def worst : List Severity → Severity
  | [] => .pass
  | s :: rest => s.worse (worst rest)

/-- The process fails. -/
def isFailure (s : Severity) : Bool := critical.rank ≤ s.rank

/-- The name of a severity. -/
def text : Severity → String
  | .pass => "pass"
  | .warning => "warning"
  | .critical => "critical"
  | .error => "error"

/-- The name of a severity as a label. -/
def label : Severity → String
  | .pass => "PASS"
  | .warning => "WARNING"
  | .critical => "CRITICAL"
  | .error => "ERROR"

end Severity

/-- What a check has said. -/
inductive Verdict where
  | passed
  | failed
deriving DecidableEq, Repr

/-- The name of a verdict. -/
def Verdict.text : Verdict → String
  | .passed => "passed"
  | .failed => "failed"

/-- A verdict counts as the report type of its step says. -/
def Verdict.severity (v : Verdict) (t : ReportType) : Severity :=
  match v, t with
  | .passed, _ => .pass
  | .failed, .execution => .pass
  | .failed, .warning => .warning
  | .failed, .critical => .critical

/-- A step that was carried out. -/
structure StepResult where
  index : Nat
  kind : StepKind
  /-- The command with its variables replaced. -/
  command : String
  output : String
  verdict : Verdict
  severity : Severity
  message : Option String := none
deriving DecidableEq, Repr

/-- How the steps on a node ended. -/
inductive NodeOutcome where
  | completed
  | aborted (step : Nat) (reason : String)
deriving DecidableEq, Repr

/-- One task on one node. -/
structure NodeReport where
  node : String
  steps : List StepResult
  outcome : NodeOutcome := .completed
deriving DecidableEq, Repr

namespace NodeReport

/-- The steps ended before the last one. -/
def isAborted (r : NodeReport) : Bool :=
  match r.outcome with
  | .completed => false
  | .aborted _ _ => true

/-- Why they did. -/
def abortReason? (r : NodeReport) : Option String :=
  match r.outcome with
  | .completed => none
  | .aborted _ reason => some reason

/-- The status of a node. -/
def status (r : NodeReport) : Severity :=
  match r.outcome with
  | .completed => Severity.worst (r.steps.map (·.severity))
  | .aborted _ _ => .error

end NodeReport

/-- The order of texts by code points. -/
def textAtMost (a b : String) : Bool := !decide (b < a)

/-- A list in the order of the names of its members; equal names stay as they came. -/
def sortBy {α : Type} (name : α → String) (l : List α) : List α :=
  l.mergeSort fun a b => textAtMost (name a) (name b)

/-- One task on all nodes. -/
structure TaskReport where
  task : String
  info : String
  range : VersionRange
  nodes : List NodeReport
  /-- Nodes without a report. -/
  unfinished : List String := []
deriving DecidableEq, Repr

namespace TaskReport

/-- The report of a task, its nodes in the order of their names. -/
def ofNodes (task info : String) (range : VersionRange) (nodes : List NodeReport)
    (unfinished : List String) : TaskReport where
  task := task
  info := info
  range := range
  nodes := sortBy (·.node) nodes
  unfinished := sortBy id unfinished

/-- The status of a task. -/
def status (r : TaskReport) : Severity :=
  if r.unfinished.isEmpty then Severity.worst (r.nodes.map NodeReport.status) else .error

/-- How many nodes were aborted. -/
def abortedCount (r : TaskReport) : Nat := r.nodes.countP NodeReport.isAborted

end TaskReport

/-- A task that did not run. -/
structure SkippedTask where
  task : String
  reason : String
  interrupted : Bool := false
deriving DecidableEq, Repr

namespace SkippedTask

/-- No variant of the task is for the version. -/
def noVariant (task : String) (v : Version) : SkippedTask where
  task := task
  reason := "no variant matches version " ++ v.text

/-- The run ended before the task started. -/
def ofInterrupt (task : String) : SkippedTask where
  task := task
  reason := "run interrupted before the task started"
  interrupted := true

end SkippedTask

/-- A task that is not defined properly. -/
structure BrokenTask where
  task : String
  message : String
deriving DecidableEq, Repr

/-- What a run is for; it only changes how the report is shown. -/
inductive RunMode where
  | check
  | display
deriving DecidableEq, Repr

/-- The name of a mode. -/
def RunMode.text : RunMode → String
  | .check => "check"
  | .display => "display"

/-- A whole run. -/
structure RunReport where
  version : Version
  mode : RunMode
  tasks : List TaskReport
  skipped : List SkippedTask := []
  broken : List BrokenTask := []
deriving DecidableEq, Repr

namespace RunReport

/-- The report of a run, its tasks in the order of their names. -/
def ofTasks (version : Version) (mode : RunMode) (tasks : List TaskReport)
    (skipped : List SkippedTask) (broken : List BrokenTask) : RunReport where
  version := version
  mode := mode
  tasks := sortBy (·.task) tasks
  skipped := skipped
  broken := broken

/-- Some task could not be run. -/
def isIncomplete (r : RunReport) : Bool := !r.broken.isEmpty || r.skipped.any (·.interrupted)

/-- The status of a run. -/
def status (r : RunReport) : Severity :=
  if r.isIncomplete then .error else Severity.worst (r.tasks.map TaskReport.status)

/-- One for a failure, else zero. -/
def exitCode (r : RunReport) : Nat := if r.status.isFailure then 1 else 0

end RunReport

end Inspection
