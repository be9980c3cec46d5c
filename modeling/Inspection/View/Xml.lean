import Inspection.Report.Basic
import Inspection.Text.Numeral
import Inspection.View.Markup

/-!
# View — Reports as XML

A document is a tree of elements.  An element that holds elements has each of them on lines of its
own, two columns to the right; one that holds a text stands on one line with it.

* `Xml.write`: the text of a tree.
* `Xml.ofReport`: the tree of a report.
-/

namespace Inspection

/-- A tree of elements. -/
inductive Xml where
  | element (name : String) (attributes : List (String × String)) (children : List Xml)
  | content (name : String) (attributes : List (String × String)) (text : String)
  | closed (name : String) (attributes : List (String × String))

namespace Xml

/-- The attributes of an element. -/
def writeAttributes : List (String × String) → List Char
  | [] => []
  | (name, value) :: rest =>
    [' '] ++ name.toList ++ ['=', '"'] ++ Markup.escapeChars value.toList ++ ['"']
      ++ writeAttributes rest

/-- The name and attributes of an element. -/
def writeHead (name : String) (attributes : List (String × String)) : List Char :=
  ['<'] ++ name.toList ++ writeAttributes attributes

/-- The end of an element. -/
def writeEnd (name : String) : List Char := ['<', '/'] ++ name.toList ++ ['>', '\n']

mutual

/-- The lines of a tree at a depth. -/
def writeAt (depth : Nat) : Xml → List Char
  | .element name attributes children =>
    List.replicate (2 * depth) ' ' ++ writeHead name attributes ++ ['>', '\n']
      ++ writeAll (depth + 1) children ++ List.replicate (2 * depth) ' ' ++ writeEnd name
  | .content name attributes text =>
    List.replicate (2 * depth) ' ' ++ writeHead name attributes ++ ['>']
      ++ Markup.escapeChars text.toList ++ writeEnd name
  | .closed name attributes =>
    List.replicate (2 * depth) ' ' ++ writeHead name attributes ++ ['/', '>', '\n']

/-- The lines of several trees. -/
def writeAll (depth : Nat) : List Xml → List Char
  | [] => []
  | x :: rest => writeAt depth x ++ writeAll depth rest

end

/-- The first line of a document. -/
def declaration : String := "<?xml version=\"1.0\" encoding=\"UTF-8\"?>\n"

/-- The text of a document. -/
def write (x : Xml) : String := declaration ++ String.ofList (writeAt 0 x)

/-! ### Reports -/

/-- A recorded step. -/
def ofStep (s : StepResult) : Xml :=
  .element "step"
    [("index", Text.natText s.index), ("kind", s.kind.text), ("verdict", s.verdict.text),
      ("severity", s.severity.text)]
    ([.content "command" [] s.command, .content "output" [] s.output]
      ++ (s.message.map (.content "message" [])).toList)

/-- The end of a node's steps, if they were aborted. -/
def ofOutcome : NodeOutcome → List Xml
  | .completed => []
  | .aborted step reason => [.content "aborted" [("step", Text.natText step)] reason]

/-- A node. -/
def ofNode (r : NodeReport) : Xml :=
  .element "node" [("id", r.node), ("status", r.status.text)]
    (r.steps.map ofStep ++ ofOutcome r.outcome)

/-- A task. -/
def ofTask (r : TaskReport) : Xml :=
  .element "task" [("name", r.task), ("range", r.range.text), ("status", r.status.text)]
    ([.content "info" [] r.info] ++ r.nodes.map ofNode
      ++ r.unfinished.map fun node => .closed "unfinished" [("node", node)])

/-- A task that did not run. -/
def ofSkipped (s : SkippedTask) : Xml :=
  .content "skipped"
    [("task", s.task), ("interrupted", if s.interrupted then "true" else "false")] s.reason

/-- A task that is not defined properly. -/
def ofBroken (b : BrokenTask) : Xml := .content "config_error" [("task", b.task)] b.message

/-- A whole run. -/
def ofReport (r : RunReport) : Xml :=
  .element "report"
    [("version", r.version.text), ("mode", r.mode.text), ("status", r.status.text)]
    (r.tasks.map ofTask ++ r.skipped.map ofSkipped ++ r.broken.map ofBroken)

end Xml

end Inspection
