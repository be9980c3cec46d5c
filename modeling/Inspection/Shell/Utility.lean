import Inspection.Shell.Programs.Columns
import Inspection.Shell.Programs.Copies
import Inspection.Shell.Programs.Launch
import Inspection.Shell.Programs.Letters
import Inspection.Shell.Programs.Lines
import Inspection.Shell.Programs.Listing
import Inspection.Shell.Programs.Repeats
import Inspection.Shell.Programs.Sort

/-!
# Shell — Programs by their names

* `table`: the programs that run no others.
* `launchers`: the programs that do.
-/

namespace Inspection.Shell.Program

/-- The programs that run no others, by their names. -/
def table : List (String × Program) :=
  [("basename", basename), ("cat", cat), ("cp", cp), ("cut", cut), ("dirname", dirname),
    ("echo", echo), ("false", fun _ => setStatus 1), ("head", head), ("ls", ls),
    ("mkdir", mkdir), ("mv", mv), ("printenv", printenv), ("rev", rev), ("rm", rm),
    ("rmdir", rmdir), ("seq", seq), ("sleep", sleep), ("sort", sort), ("tac", tac),
    ("tail", tail), ("tee", tee), ("touch", touch), ("tr", tr),
    ("true", fun _ => setStatus 0), ("uname", uname), ("uniq", uniq), ("wc", wc), ("yes", yes)]

/-- The programs that run others, by their names. -/
def launchers : List (String × (Finder → Program)) :=
  [("env", env), ("nohup", nohup), ("timeout", timeout), ("xargs", xargs)]

end Inspection.Shell.Program
