import Inspection.CommandLine.Program
import Std.Time.DateTime.Timestamp

/-!
# The command line

The files that the program may read are named on standard input, one path a line.  Commands of
local nodes are run by the library's own shell; no other node and no server is reached.
-/

namespace Inspection.Main

/-- The variables of the environment that mean something to the program or to its commands. -/
def variableNames : List String :=
  ["HOME", "PATH", "USER", "LANG", "SSH_AUTH_SOCK", "CLICOLOR_FORCE", "CLUSTERDIAG_CONFIG",
    "CLUSTERDIAG_TASKS", "CLUSTERDIAG_PACKAGES", "CLUSTERDIAG_DEFAULT_SQL_URL",
    "CLUSTERDIAG_SSH_USER", "CLUSTERDIAG_SSH_PORT", "CLUSTERDIAG_SSH_KEY", "CLUSTERDIAG_WORKERS",
    "CLUSTERDIAG_COMMAND_TIMEOUT_SECS", "CLUSTERDIAG_CONNECT_TIMEOUT_SECS",
    "CLUSTERDIAG_DEADLINE_SECS", "CLUSTERDIAG_GRACE_PERIOD_SECS"]

/-- The variables among those that are set. -/
def environment : IO (List (String × String)) :=
  variableNames.filterMapM fun name => do return (← IO.getEnv name).map fun value => (name, value)

/-- The paths that standard input names. -/
partial def readPaths (input : IO.FS.Stream) : IO (List String) := do
  let line ← input.getLine
  if line.isEmpty then return []
  return Text.trimmed line :: (← readPaths input)

/-- The tree of the files at paths. -/
def readFiles (paths : List String) : IO Files.Entry :=
  paths.foldlM (fun tree (path : String) => do
    let octets := (← IO.FS.readBinFile path).toList
    return (Files.Entry.put? (.file octets) (Program.Surroundings.place path) tree).getD tree)
    Files.Entry.empty

/-- Writes the files of a tree that differ from those of another. -/
def writeChanges (before after : Files.Entry) : IO Unit :=
  after.files.forM fun (path, octets) => do
    let same := match before.find? path with
      | some (.file old) => old == octets
      | _ => false
    unless same do
      IO.FS.createDirAll ("/".intercalate path.dropLast)
      IO.FS.writeBinFile ("/".intercalate path) ⟨octets.toArray⟩

end Inspection.Main

/-- Runs the program on its arguments. -/
def main (args : List String) : IO UInt32 := do
  let paths ← Inspection.Main.readPaths (← IO.getStdin)
  let files ← Inspection.Main.readFiles (paths.filter (!·.isEmpty))
  let now ← Std.Time.Timestamp.now
  let s : Inspection.Program.Surroundings :=
    { files, environment := ← Inspection.Main.environment
      time := (Inspection.Timestamp.ofSeconds now.toSecondsSinceUnixEpoch.val).text
      network := .down "no network" }
  let o := Inspection.Program.run s args
  IO.print o.stdout
  IO.eprint o.stderr
  Inspection.Main.writeChanges files o.files
  return o.exitCode.toUInt32
