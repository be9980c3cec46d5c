import Inspection.Data.Json
import Inspection.Data.Yaml
import Inspection.View.Html
import Inspection.View.Terminal
import Inspection.View.Xml

/-!
# View — The formats of a report

* `RunReport.data`: a report as a tree of named values.
* `ReportFormat.render`: the text of a report in a format.
-/

namespace Inspection

/-- A recorded step as data; without a message it has no field for one. -/
def StepResult.data (s : StepResult) : Data :=
  .record
    ([("index", .nat s.index), ("kind", .text s.kind.text), ("command", .text s.command),
      ("output", .text s.output), ("verdict", .text s.verdict.text),
      ("severity", .text s.severity.text)]
      ++ (s.message.map fun m => ("message", Data.text m)).toList)

/-- How a node's steps ended, as data. -/
def NodeOutcome.data : NodeOutcome → Data
  | .completed => .record [("state", .text "completed")]
  | .aborted step reason =>
    .record [("state", .text "aborted"), ("step", .nat step), ("reason", .text reason)]

/-- A node as data. -/
def NodeReport.data (r : NodeReport) : Data :=
  .record
    [("node", .text r.node), ("steps", .list (r.steps.map StepResult.data)),
      ("outcome", r.outcome.data), ("status", .text r.status.text)]

/-- A field that is left out when its list is empty. -/
def Data.listField (name : String) (items : List Data) : List (String × Data) :=
  if items.isEmpty then [] else [(name, .list items)]

/-- A task as data. -/
def TaskReport.data (r : TaskReport) : Data :=
  .record
    ([("task", .text r.task), ("info", .text r.info), ("range", .text r.range.text),
      ("nodes", .list (r.nodes.map NodeReport.data))]
      ++ Data.listField "unfinished" (r.unfinished.map .text)
      ++ [("status", .text r.status.text)])

/-- A task that did not run, as data. -/
def SkippedTask.data (s : SkippedTask) : Data :=
  .record
    ([("task", .text s.task), ("reason", .text s.reason)]
      ++ if s.interrupted then [("interrupted", .bool true)] else [])

/-- A task that is not defined properly, as data. -/
def BrokenTask.data (b : BrokenTask) : Data :=
  .record [("task", .text b.task), ("message", .text b.message)]

/-- A whole run as data. -/
def RunReport.data (r : RunReport) : Data :=
  .record
    ([("version", .text r.version.text), ("mode", .text r.mode.text),
      ("tasks", .list (r.tasks.map TaskReport.data))]
      ++ Data.listField "skipped" (r.skipped.map SkippedTask.data)
      ++ Data.listField "config_errors" (r.broken.map BrokenTask.data)
      ++ [("status", .text r.status.text)])

/-- A format of a report. -/
inductive ReportFormat where
  | table
  | json
  | yaml
  | html
  | xml
deriving DecidableEq, Repr

namespace ReportFormat

/-- The formats by name. -/
def names : List (String × ReportFormat) :=
  [("table", .table), ("json", .json), ("yaml", .yaml), ("html", .html), ("xml", .xml)]

/-- The name of a format, which is also the extension of its files. -/
def text : ReportFormat → String
  | .table => "table"
  | .json => "json"
  | .yaml => "yaml"
  | .html => "html"
  | .xml => "xml"

/-- The text of a report; only the table has colours. -/
def render (f : ReportFormat) (color : Bool) (r : RunReport) : String :=
  match f with
  | .table => Terminal.render color r
  | .json => Json.write r.data
  | .yaml => YamlForm.write r.data
  | .html => Html.render r
  | .xml => Xml.write (Xml.ofReport r)

end ReportFormat

end Inspection
