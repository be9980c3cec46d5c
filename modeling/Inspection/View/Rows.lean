import Inspection.Report.Basic
import Inspection.Text.Numeral

/-!
# View — Reports as rows

A task is shown with one row for each recorded step, one more for a node that was aborted, and one
for each node without a report.  A check shows what each row amounts to, a display what was done and
what came back.

* `TaskReport.checkRows`: the rows of a task in a check.
* `TaskReport.displayRows`: its rows in a display.
-/

namespace Inspection

/-- A row of a check. -/
structure CheckRow where
  task : String
  node : String
  step : String
  severity : Severity
  message : String
deriving DecidableEq, Repr

/-- A row of a display. -/
structure DisplayRow where
  task : String
  node : String
  step : String
  command : String
  output : String
deriving DecidableEq, Repr

/-- What is said about a node without a report. -/
def unfinishedText : String := "did not finish before the run was interrupted"

/-- The step at which a node was aborted, and why. -/
def NodeReport.problem? (r : NodeReport) : Option (String × String) :=
  match r.outcome with
  | .completed => none
  | .aborted step reason => some (Text.natText step, reason)

/-- The rows of a node in a check: its steps, and what ended them. -/
def NodeReport.checkRows (task : String) (r : NodeReport) : List CheckRow :=
  r.steps.map (fun s =>
      { task
        node := r.node
        step := Text.natText s.index
        severity := s.severity
        message := s.message.getD "" })
    ++ (r.problem?.map fun (step, reason) =>
      { task, node := r.node, step, severity := .error, message := reason }).toList

/-- The rows of a task in a check. -/
def TaskReport.checkRows (r : TaskReport) : List CheckRow :=
  r.nodes.flatMap (·.checkRows r.task)
    ++ r.unfinished.map fun node =>
      { task := r.task, node, step := "-", severity := .error, message := unfinishedText }

/-- The rows of a node in a display: its steps, and what ended them. -/
def NodeReport.displayRows (task : String) (r : NodeReport) : List DisplayRow :=
  r.steps.map (fun s =>
      { task
        node := r.node
        step := Text.natText s.index
        command := s.command
        output := s.output })
    ++ (r.problem?.map fun (step, reason) =>
      { task, node := r.node, step, command := "", output := "error: " ++ reason }).toList

/-- The rows of a task in a display. -/
def TaskReport.displayRows (r : TaskReport) : List DisplayRow :=
  r.nodes.flatMap (·.displayRows r.task)
    ++ r.unfinished.map fun node =>
      { task := r.task, node, step := "-", command := "", output := "error: " ++ unfinishedText }

end Inspection
