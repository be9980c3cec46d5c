import Inspection.Backend.Error
import Inspection.Catalog.Glob
import Inspection.Report.Basic

/-!
# Catalog — Tasks and which of them run

A catalog holds the tasks that could be read and, for the others, why not.  A selection names tasks
by patterns: those that any of `included` fits, or all if there is none, without those that any
of `excluded` fits.

* `Selection.chooser`: whether a selection chooses a name.
-/

namespace Inspection

/-- Tasks, and what is wrong with those that are not among them. -/
structure Catalog where
  tasks : List Task := []
  broken : List BrokenTask := []
deriving DecidableEq, Repr

/-- Which tasks run. -/
structure Selection where
  included : List String := []
  excluded : List String := []
deriving DecidableEq, Repr

namespace Selection

/-- The pattern, without the blanks around it. -/
def compile (pattern : String) : Except RunError Glob :=
  (Glob.parse (Text.trim pattern.toList)).mapError fun e =>
    .validation ("invalid task pattern '" ++ pattern ++ "': " ++ e.message)

/-- Whether the selection chooses a name; the first pattern at fault is an error. -/
def chooser (s : Selection) : Except RunError (String → Bool) := do
  let included ← s.included.mapM compile
  let excluded ← s.excluded.mapM compile
  return fun name =>
    (included.isEmpty || included.any (·.fits name)) && !excluded.any (·.fits name)

end Selection

/-- The part of the catalog that a selection chooses. -/
def Catalog.select (c : Catalog) (s : Selection) : Except RunError Catalog :=
  s.chooser.map fun chosen =>
    { tasks := c.tasks.filter fun t => chosen t.name
      broken := c.broken.filter fun b => chosen b.task }

/-- The catalog of tasks that were read one after another: those that are defined in the order of
their names, the others as they came. -/
def Catalog.ofResults (results : List (String × Except TaskError Task)) : Catalog where
  tasks := sortBy (·.name) (results.filterMap fun (_, r) => r.toOption)
  broken := results.filterMap fun (name, r) =>
    match r with
    | .error e => some { task := name, message := e.message }
    | .ok _ => none

end Inspection
