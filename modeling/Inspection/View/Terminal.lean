import Inspection.View.Rows
import Inspection.View.Style
import Inspection.View.Table

/-!
# View — Reports for a terminal

A report is shown as a table of all rows, followed by the tasks that did not run and, in a check, by
the status of each task and of the whole run.
-/

namespace Inspection.Terminal

/-- The cells of a row of a check. -/
def checkCells (x : CheckRow) : List String := [x.task, x.node, x.step, x.severity.label, x.message]

/-- The cells of a row of a display. -/
def displayCells (x : DisplayRow) : List String := [x.task, x.node, x.step, x.command, x.output]

/-- The table of the rows of all tasks. -/
def table (r : RunReport) : Table :=
  match r.mode with
  | .check =>
    { header := ["Task", "Node", "Step", "Status", "Message"]
      rows := (r.tasks.flatMap TaskReport.checkRows).map checkCells }
  | .display =>
    { header := ["Task", "Node", "Step", "Command", "Output"]
      rows := (r.tasks.flatMap TaskReport.displayRows).map displayCells }

/-- The line for a task that did not run. -/
def note (mark task what reason : String) : String :=
  "  " ++ mark ++ " " ++ task ++ " " ++ what ++ ": " ++ reason

/-- The line for a task that is not defined properly. -/
def brokenNote (color : Bool) (b : BrokenTask) : String :=
  note (Emphasis.red.apply color "✗") b.task "not loaded" b.message

/-- The lines of a report. -/
def lines (color : Bool) (r : RunReport) : List String :=
  [Emphasis.bold.apply color "Cluster version:" ++ " "
      ++ Emphasis.cyan.apply color r.version.text, ""]
    ++ (if r.tasks.isEmpty then [] else [(table r).render, ""])
    ++ r.skipped.map (fun s => note (Emphasis.dimmed.apply color "○") s.task "skipped" s.reason)
    ++ r.broken.map (brokenNote color)
    ++ match r.mode with
      | .display => []
      | .check =>
        r.tasks.map (fun t => "  " ++ t.status.styled color ++ " " ++ t.task)
          ++ ["", Emphasis.bold.apply color "Overall:" ++ " " ++ r.status.styled color]

/-- Lines with a break after each. -/
def unlines (ls : List String) : String := String.join (ls.map (· ++ "\n"))

/-- The text of a report. -/
def render (color : Bool) (r : RunReport) : String := unlines (lines color r)

end Inspection.Terminal
