import Inspection.Backend.Sysctl
import Inspection.Catalog.Package
import Inspection.Cluster.Config
import Inspection.CommandLine.Options
import Inspection.Sql.Endpoint
import Inspection.View.Export
import Inspection.View.Listing

/-!
# CommandLine — The program

The program reads the tasks, the packages and the description of the cluster, runs the chosen tasks
on the nodes and prints the report; it may also write the report to a folder.

* `Program.run`: the outcome of a command line.
-/

namespace Inspection.Program

/-- What the program finds around it. -/
structure Surroundings where
  /-- The files below the folder it is started in. -/
  files : Files.Entry := .empty
  environment : List (String × String) := []
  /-- The time, as the names of reports have it. -/
  time : String
  network : Sql.Network
  /-- What `ssh` does with its arguments, if there is such a program. -/
  ssh : Option (List String → Shell.Outcome) := none

/-- What the program leaves behind. -/
structure Outcome where
  exitCode : Nat
  stdout : String := ""
  stderr : String := ""
  files : Files.Entry

/-- Why the program ends without a report, or without its file. -/
inductive Failure where
  | tasks (path : String) (e : RunError)
  | packages (path : String) (e : RunError)
  | config (e : Cluster.ConfigError)
  | version (e : VersionError)
  | detection (e : RunError)
  | run (e : RunError)
  | written (e : ExportError)
deriving DecidableEq, Repr

/-- What lies behind an error, from the outside in. -/
def innerCauses : RunError → List String
  | .config e => [e.message]
  | .io detail => [detail]
  | .backend e => [e.message]
  | .validation _ | .notFound _ => []

/-- The messages of a failure, from the outside in; there is one at least. -/
def Failure.messages : Failure → String × List String
  | .tasks path e => ("Failed to load tasks from " ++ path, e.message :: innerCauses e)
  | .packages path e => ("Failed to load check packages from " ++ path, e.message :: innerCauses e)
  | .config e => (e.message, e.causes)
  | .version e => ("Invalid --version", [e.message])
  | .detection e =>
    ("Version detection failed; pass --version explicitly", e.message :: innerCauses e)
  | .run e => (e.message, innerCauses e)
  | .written e => (e.message, [e.cause])

/-- A text whose lines after the first are indented. -/
def indentRest (margin : String) (s : String) : String :=
  String.ofList (Text.joinWith ('\n' :: margin.toList) (Text.splitAll (· == '\n') s.toList))

/-- The lines of causes, which are numbered if there are several. -/
def causeLines (causes : List String) : List String :=
  match causes with
  | [only] => ["    " ++ indentRest "    " only]
  | _ =>
    causes.zipIdx.map fun (c, i) =>
      let number := Text.natText i
      String.ofList (List.replicate (5 - number.length) ' ') ++ number ++ ": "
        ++ indentRest "       " c

/-- How the program reports a failure. -/
def Failure.text (f : Failure) : String :=
  let (outer, causes) := f.messages
  let lines := if causes.isEmpty then [] else ["", "Caused by:"] ++ causeLines causes
  "\n".intercalate (("Error: " ++ outer) :: lines) ++ "\n"

namespace Surroundings

/-- The folder that home paths start with; where the environment names none, the tilde stays. -/
def home (s : Surroundings) : String := (s.environment.lookup "HOME").getD "~"

/-- The path with the home folder. -/
def expand (s : Surroundings) (path : String) : String :=
  Cluster.ClusterConfig.expandHome s.home path

/-- The parts of a path below the folder the program is started in. -/
def place (path : String) : List String := (Files.parts path).filter (· != ".")

/-- Colours are asked for although the output goes to no terminal. -/
def color (s : Surroundings) : Bool := (s.environment.lookup "CLICOLOR_FORCE").any (· != "0")

end Surroundings

/-- A reply of a backend. -/
def replyOf {α : Type} : Except BackendError α → Reply α
  | .ok a => .ok a
  | .error e => .failed e

/-- The backends of a cluster. -/
def backends (s : Surroundings) (settings : Shell.Settings) : Backends where
  shell node command := replyOf (settings.run ⟨s.files, s.environment, s.ssh⟩ node command)
  query node sql := replyOf (Sql.ask s.network node sql)
  parameter node name :=
    Sysctl.read (fun node command =>
      replyOf (settings.run ⟨s.files, s.environment, s.ssh⟩ node command)) node name

/-- Where connections that are kept open are found. -/
def controlDir : String := "/tmp/clusterdiag"

/-- The tasks and the packages that the options name. -/
def loadTasks (s : Surroundings) (o : Options) : Except Failure (Catalog × Packages) := do
  let tasks := s.expand o.tasks
  let packages := s.expand o.packages
  let find (path : String) := s.files.find? (Surroundings.place path)
  let c ← (Catalog.ofDirectory tasks (find tasks)).mapError (Failure.tasks tasks)
  let p ← (Packages.ofFile (find packages)).mapError (Failure.packages packages)
  return (c, p)

/-- The version to run for: the one that is given, or the one that the cluster names. -/
def versionOf (b : Backends) (nodes : List Node) (o : Options) : Except Failure Version :=
  match o.version with
  | some raw => (Version.parse raw).mapError .version
  | none => (detectVersion b.query nodes o.versionQuery).2.mapError .detection

/-- The report that the options ask for. -/
def reportOf (s : Surroundings) (o : Options) (c : Catalog) (p : Packages) :
    Except Failure RunReport := do
  let selection ← (p.selection o.package o.filter).mapError .run
  let cluster ←
    (Cluster.ClusterConfig.load (s.expand o.config) s.files s.environment).mapError .config
  let nodes := cluster.nodes s.home
  let b := backends s (cluster.shellSettings (some controlDir))
  let version ← versionOf b nodes o
  let request : RunRequest := { version, mode := o.mode, selection, vars := o.vars }
  let run ← (runCatalog b (cluster.engine o.workers) (cluster.deadline.map (1000 * ·)) c nodes
    request).mapError .run
  return run.report

/-- Prints a report, and writes it to a folder if the options name one. -/
def deliver (s : Surroundings) (o : Options) (r : RunReport) : Outcome :=
  let stdout := o.format.render s.color r ++ "\n"
  match o.storeDir with
  | none => { exitCode := r.exitCode, stdout, files := s.files }
  | some dir =>
    let dir := s.expand dir
    match exportReport r o.format dir (Surroundings.place dir) s.time s.files with
    | .error e =>
      { exitCode := 1, stdout, stderr := (Failure.written e).text, files := s.files }
    | .ok (files, path) =>
      { exitCode := r.exitCode, stdout, stderr := "Report saved to " ++ path ++ "\n", files }

/-- The outcome of options. -/
def runOptions (s : Surroundings) (o : Options) : Outcome :=
  let failed (f : Failure) : Outcome := { exitCode := 1, stderr := f.text, files := s.files }
  match loadTasks s o with
  | .error f => failed f
  | .ok (c, p) =>
    if o.list then { exitCode := 0, stdout := Listing.render s.color c p, files := s.files }
    else match reportOf s o c p with
      | .error f => failed f
      | .ok r => deliver s o r

/-- The exit code for a command line that asks for nothing that can be done. -/
def usageCode : Nat := 2

/-- How the program is called. -/
def usage : String := "Usage: clusterdiag [OPTIONS]\n"

/-- The outcome of a command line. -/
def run (s : Surroundings) (args : List String) : Outcome :=
  match Options.parse args s.environment with
  | .ok o => runOptions s o
  | .error .help => { exitCode := 0, stdout := usage, files := s.files }
  | .error _ => { exitCode := usageCode, stderr := usage, files := s.files }

end Inspection.Program
