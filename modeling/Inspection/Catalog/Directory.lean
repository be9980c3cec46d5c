import Inspection.Catalog.Selection
import Inspection.Files.Tree
import Inspection.Text.Octets

/-!
# Catalog — Tasks in a directory

Every file below a directory whose extension is `yaml` or `yml` defines a task.  Its name comes from
its path: `observer/system/aio.yaml` is `observer.system.aio`.  A file that defines no task leaves
the others alone.

The directory is a tree, so the walk comes to every entry and the only reason why a file cannot be
read is that its octets are no text.  What a file system may refuse besides, an entry which a walk
passes by or a file that is barred, is not described here.

* `Catalog.ofDirectory`: the catalog of a directory.
-/

namespace Inspection

/-- The file defines a task. -/
def isTaskFile (path : List String) : Bool :=
  match path.getLast?.bind Files.extension? with
  | some "yaml" | some "yml" => true
  | _ => false

/-- The wording for octets that are no text. -/
def notUtf8 : String := "stream did not contain valid UTF-8"

/-- The name of a task file and what it defines; `path` is shown if it cannot be read. -/
def readTask (name path : String) (octets : List UInt8) : Except TaskError Task :=
  if Text.isUtf8 octets then Task.ofText name (Text.readLossy octets)
  else .error (.file (path ++ ": " ++ notUtf8))

/-- The tasks of a directory's files in the order of their names; `shown` is how messages name the
directory. -/
def taskResults (shown : String) (directory : Files.Entry) :
    List (String × Except TaskError Task) :=
  (directory.files.filter fun (path, _) => isTaskFile path).map fun (path, octets) =>
    let name := Files.dottedName path
    (name, readTask name (Files.join shown ("/".intercalate path)) octets)

/-- The catalog of a directory. -/
def Catalog.ofDirectory (shown : String) (entry : Option Files.Entry) :
    Except RunError Catalog :=
  match entry with
  | some (.folder entries) => .ok (Catalog.ofResults (taskResults shown (.folder entries)))
  | _ => .error (.notFound ("task directory '" ++ shown ++ "'"))

end Inspection
