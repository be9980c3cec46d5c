import Inspection.Catalog.Package
import Inspection.View.Terminal

/-!
# View — What there is to run

The packages and the tasks of a catalog, each in a table, and the tasks that are not defined
properly.
-/

namespace Inspection.Listing

/-- The table of packages; the first row stands for naming none. -/
def packageTable (p : Packages) : Table where
  header := ["Package", "Tasks", "Info"]
  rows :=
    ["(default)", "*", "every task except the filter list"]
      :: p.packages.map fun x => [x.name, "\n".intercalate x.tasks, x.info]

/-- The table of tasks, each with the ranges of its variants. -/
def taskTable (c : Catalog) : Table where
  header := ["Task", "Versions", "Info"]
  rows := c.tasks.map fun t =>
    [t.name, " ".intercalate (t.variants.map (·.range.text)), t.info]

/-- The lines of a listing. -/
def lines (color : Bool) (c : Catalog) (p : Packages) : List String :=
  [Emphasis.bold.apply color "Check packages", (packageTable p).render]
    ++ (if p.exclusions.isEmpty then [] else ["  filter: " ++ ", ".intercalate p.exclusions])
    ++ ["", Emphasis.bold.apply color "Tasks", (taskTable c).render]
    ++ c.broken.map (Terminal.brokenNote color)

/-- The text of a listing. -/
def render (color : Bool) (c : Catalog) (p : Packages) : String :=
  Terminal.unlines (lines color c p)

end Inspection.Listing
