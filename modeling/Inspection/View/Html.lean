import Inspection.View.Markup
import Inspection.View.Rows
import Inspection.View.Terminal

/-!
# View — Reports as web pages

A page is a sequence of markup and texts.  The texts of a report are escaped, so that none of them
can change the markup around it; numbers and labels stand among the markup as they are.

* `Html.page`: the pieces of a page.
* `Html.render`: the text of a page.
-/

namespace Inspection.Html

/-- A piece of a page. -/
inductive Piece where
  | markup (s : String)
  | text (s : String)
deriving DecidableEq, Repr

/-- A piece as it is written. -/
def Piece.written : Piece → String
  | .markup s => s
  | .text s => Markup.escape s

/-- A cell of a table. -/
def cell (content : List Piece) : List Piece := [.markup "<td>"] ++ content ++ [.markup "</td>"]

/-- The heads of the columns. -/
def headings (names : List String) : Piece :=
  .markup ("<tr>" ++ String.join (names.map fun n => "<th>" ++ n ++ "</th>") ++ "</tr>\n")

/-- A row of a check. -/
def checkRow (r : CheckRow) : List Piece :=
  [.markup ("<tr class=\"" ++ r.severity.text ++ "\">")] ++ cell [.text r.node]
    ++ cell [.markup r.step] ++ cell [.markup r.severity.label] ++ cell [.text r.message]
    ++ [.markup "</tr>\n"]

/-- A row of a display. -/
def displayRow (r : DisplayRow) : List Piece :=
  [.markup "<tr>"] ++ cell [.text r.node] ++ cell [.markup r.step]
    ++ cell [.markup "<code>", .text r.command, .markup "</code>"]
    ++ cell [.markup "<pre>", .text r.output, .markup "</pre>"] ++ [.markup "</tr>\n"]

/-- The rows of a task under their heads. -/
def rows (mode : RunMode) (t : TaskReport) : List Piece :=
  match mode with
  | .check => headings ["Node", "Step", "Status", "Message"] :: t.checkRows.flatMap checkRow
  | .display => headings ["Node", "Step", "Command", "Output"] :: t.displayRows.flatMap displayRow

/-- The section of a task. -/
def taskSection (mode : RunMode) (t : TaskReport) : List Piece :=
  [.markup "<h2>", .text t.task, .markup (" <small>" ++ t.status.label ++ "</small></h2>\n<p>"),
    .text t.info, .markup "</p>\n<table>\n"] ++ rows mode t ++ [.markup "</table>\n"]

/-- The item for a task that did not run. -/
def note (task what reason : String) : List Piece :=
  [.markup "<li>", .text task, .markup (" " ++ what ++ ": "), .text reason, .markup "</li>\n"]

/-- The list of the tasks that did not run. -/
def notes (r : RunReport) : List Piece :=
  if r.skipped.isEmpty && r.broken.isEmpty then []
  else
    [.markup "<ul>\n"] ++ r.skipped.flatMap (fun s => note s.task "skipped" s.reason)
      ++ r.broken.flatMap (fun b => note b.task "not loaded" b.message) ++ [.markup "</ul>\n"]

/-- The start of a page, up to the version. -/
def opening : String :=
  "<!DOCTYPE html>\n<html><head><meta charset=\"utf-8\"><title>clusterdiag report</title></head>"
    ++ "<body>\n<h1>Cluster version "

/-- The pieces of a page. -/
def page (r : RunReport) : List Piece :=
  [.markup opening, .text r.version.text,
    .markup ("</h1>\n<p class=\"status " ++ r.status.text ++ "\">Overall: " ++ r.status.label
      ++ "</p>\n")]
    ++ r.tasks.flatMap (taskSection r.mode) ++ notes r ++ [.markup "</body></html>\n"]

/-- The text of a page. -/
def render (r : RunReport) : String := String.join ((page r).map Piece.written)

end Inspection.Html
