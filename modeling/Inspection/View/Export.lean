import Inspection.Calendar
import Inspection.Files.Tree
import Inspection.Text.Octets
import Inspection.View.Format

/-!
# View — Reports in files

A report is written to a folder, which is made with the folders around it.  Its file is named for
the mode, the time and the format, and never holds colours.

* `exportReport`: the tree of files with the report in it, and the path of its file.
-/

namespace Inspection

/-- The name of a report's file, with the time in its written form. -/
def reportFileName (mode : RunMode) (f : ReportFormat) (time : String) : String :=
  "clusterdiag_" ++ mode.text ++ "_report_" ++ time ++ "." ++ f.text

/-- What prevents a report from being written, with the path that is at fault and the cause. -/
inductive ExportError where
  | folder (path cause : String)
  | file (path cause : String)
deriving DecidableEq, Repr

/-- The wording of the error, without its cause. -/
def ExportError.message : ExportError → String
  | .folder path _ => "Failed to create store dir " ++ path
  | .file path _ => "Failed to write report " ++ path

/-- The wording of the cause. -/
def ExportError.cause : ExportError → String
  | .folder _ cause | .file _ cause => cause

/-- Why the folder at a path cannot be made: a file stands at its end, or in its way. -/
def folderCause (parts : List String) (tree : Files.Entry) : String :=
  match Files.Entry.find? parts tree with
  | some _ => "File exists (os error 17)"
  | none => "Not a directory (os error 20)"

/-- Writes a report to the folder at `parts`, which messages call `store`: the tree with the report,
and the path of its file. -/
def exportReport (r : RunReport) (f : ReportFormat) (store : String) (parts : List String)
    (time : String) (tree : Files.Entry) : Except ExportError (Files.Entry × String) :=
  let path := Files.join store (reportFileName r.mode f time)
  match Files.Entry.makeFolder? parts tree with
  | none => .error (.folder store (folderCause parts tree))
  | some tree =>
    match Files.Entry.find? (parts ++ [reportFileName r.mode f time]) tree with
    | some (.folder _) => .error (.file path "Is a directory (os error 21)")
    | _ =>
      match Files.Entry.put? (.file (Text.encode (f.render false r)))
          (parts ++ [reportFileName r.mode f time]) tree with
      | some tree => .ok (tree, path)
      | none => .error (.file path "Not a directory (os error 20)")

end Inspection
