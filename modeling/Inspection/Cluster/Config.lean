import Inspection.Cluster.Source
import Inspection.Files.Tree
import Inspection.Run.TaskRun
import Inspection.Shell.Remote

/-!
# Cluster — The description of a cluster

A cluster is described by its nodes and by what all of them share.  What a node does not say for
itself is taken from the cluster.

* `ClusterConfig.ofSettings`: the description that settings give, or where they have another form.
* `ClusterConfig.problem?`: why a description is refused.
* `ClusterConfig.load`: the description in a file, with the environment.
* `ClusterConfig.nodes`: the nodes with all that holds for them.
-/

namespace Inspection.Cluster

/-- A node as a description has it. -/
structure NodeEntry where
  id : String
  host : String
  sshUser : Option String := none
  sshPort : Option Nat := none
  sshKey : Option String := none
  sqlUrl : Option String := none
  isLocal : Bool := false
  vars : List (String × String) := []
deriving DecidableEq, Repr

/-- The description of a cluster; times are in seconds. -/
structure ClusterConfig where
  entries : List NodeEntry := []
  /-- For nodes without their own. -/
  defaultSqlUrl : Option String := none
  sshUser : Option String := none
  sshPort : Option Nat := none
  sshKey : Option String := none
  workers : Nat := 4
  commandTimeout : Nat := 60
  connectTimeout : Nat := 10
  deadline : Option Nat := none
  grace : Nat := 5
  /-- The variables handed on to commands. -/
  allowed : List String := ({} : Shell.Settings).allowed
deriving DecidableEq, Repr

/-! ### Form -/

/-- Settings by the names of the fields they are for, and how the misfit of a field is seen from
outside. -/
structure Fields where
  entries : List (String × Setting)
  seen : String → Misfit → Misfit := Misfit.under

namespace Fields

/-- The fields that a list gives in their order. -/
def ofList (names : List String) (items : List Setting) : Fields where
  entries := names.zip items
  seen name := Misfit.atIndex (names.idxOf name)

/-- A field read from its setting, if there is one. -/
def read? {α : Type} (fs : Fields) (read : Setting → Except Misfit α) (name : String) :
    Except Misfit (Option α) :=
  match fs.entries.lookup name with
  | none => .ok none
  | some s => ((read s).mapError (fs.seen name)).map some

/-- A field that must be there. -/
def required {α : Type} (fs : Fields) (read : Setting → Except Misfit α) (name : String) :
    Except Misfit α := do
  match ← fs.read? read name with
  | some a => return a
  | none => throw ⟨.missing name, none⟩

/-- A field that may be missing or unset. -/
def optional {α : Type} (fs : Fields) (read : Setting → Except Misfit α) (name : String) :
    Except Misfit (Option α) :=
  let orUnset (s : Setting) : Except Misfit (Option α) :=
    match s with
    | .plain _ .unset => .ok none
    | s => (read s).map some
  (fs.read? orUnset name).map Option.join

/-- A field that stands for something else when it is missing. -/
def defaulted {α : Type} (fs : Fields) (read : Setting → Except Misfit α) (missing : α)
    (name : String) : Except Misfit α :=
  (fs.read? read name).map (·.getD missing)

end Fields

/-- One more than the largest number of a port. -/
def portBound : Nat := 0x10000

/-- The number of a port. -/
def port (s : Setting) : Except Misfit Nat := do
  let n ← s.natural
  if n < portBound then return n
  else
    let found := "64-bit unsigned integer \x60" ++ Text.natText n ++ "\x60"
    throw ⟨.unsuited found "an unsigned 16 bit integer" none, none⟩

/-- Items read one by one, the first of them at an index. -/
def itemsFrom {α : Type} (read : Setting → Except Misfit α) :
    Nat → List Setting → Except Misfit (List α)
  | _, [] => .ok []
  | i, s :: rest => do
    let a ← (read s).mapError (·.atIndex i)
    return a :: (← itemsFrom read (i + 1) rest)

/-- A list, item by item. -/
def listOf {α : Type} (read : Setting → Except Misfit α) (s : Setting) : Except Misfit (List α) :=
  match s with
  | .list _ items => itemsFrom read 0 items
  | _ => .error (s.unsuitedInPlace "a sequence")

/-- A table of texts. -/
def texts (s : Setting) : Except Misfit (List (String × String)) :=
  match s with
  | .table _ es => es.mapM fun (name, s) => do
    return (name, ← s.text.mapError (·.under name))
  | _ => .error (s.unsuitedInPlace "a map")

/-- The fields of a node, in the order in which a list gives them. -/
def nodeFields : List String :=
  ["id", "host", "ssh_user", "ssh_port", "ssh_key", "sql_url", "local", "vars"]

/-- How many fields a list must give: all that have no other value. -/
def fewestNodeFields : Nat := 6

/-- A node that fields give; a field that is wrong is told before one that is missing. -/
def NodeEntry.ofFields (fs : Fields) : Except Misfit NodeEntry := do
  let sshUser ← fs.optional Setting.text "ssh_user"
  let sshPort ← fs.optional port "ssh_port"
  let sshKey ← fs.optional Setting.text "ssh_key"
  let sqlUrl ← fs.optional Setting.text "sql_url"
  let isLocal ← fs.defaulted Setting.flag false "local"
  let vars ← fs.defaulted texts [] "vars"
  let _ ← fs.read? Setting.text "host"
  let id ← fs.required Setting.text "id"
  let host ← fs.required Setting.text "host"
  return { id, host, sshUser, sshPort, sshKey, sqlUrl, isLocal, vars }

/-- A node as a setting has it: a table, or a list of its fields. -/
def NodeEntry.ofSetting (s : Setting) : Except Misfit NodeEntry :=
  let wanted := "struct NodeConfig"
  match s with
  | .table _ entries => NodeEntry.ofFields { entries }
  | .list _ items =>
    let node := NodeEntry.ofFields (.ofList nodeFields items)
    if fewestNodeFields ≤ items.length then node
    else match node with
      | .error ⟨.unsuited found wanted source, key⟩ =>
        .error ⟨.unsuited found wanted source, key⟩
      | _ => .error ⟨.short items.length (wanted ++ " with 8 elements"), none⟩
  | _ => .error (s.unsuitedInPlace wanted)

/-- The description that settings give. -/
def ClusterConfig.ofSettings (s : Setting) : Except Misfit ClusterConfig := do
  let fs : Fields := { entries := s.entries }
  let absent : ClusterConfig := {}
  return {
    entries := ← fs.defaulted (listOf NodeEntry.ofSetting) [] "nodes"
    defaultSqlUrl := ← fs.optional Setting.text "default_sql_url"
    sshUser := ← fs.optional Setting.text "ssh_user"
    sshPort := ← fs.optional port "ssh_port"
    sshKey := ← fs.optional Setting.text "ssh_key"
    workers := ← fs.defaulted Setting.natural absent.workers "workers"
    commandTimeout := ← fs.defaulted Setting.natural absent.commandTimeout "command_timeout_secs"
    connectTimeout := ← fs.defaulted Setting.natural absent.connectTimeout "connect_timeout_secs"
    deadline := ← fs.optional Setting.natural "deadline_secs"
    grace := ← fs.defaulted Setting.natural absent.grace "grace_period_secs"
    allowed := ← fs.defaulted (listOf Setting.text) absent.allowed "env_allowlist" }

/-! ### Content -/

/-- Why there is no description. -/
inductive ConfigError where
  | missing (path : String)
  | unreadable (path detail : String)
  | malformed (path : String) (misfit : Misfit)
  | noNodes
  | duplicateNode (id : String)
  | noWorkers
deriving DecidableEq, Repr

/-- The wording of the error. -/
def ConfigError.message : ConfigError → String
  | .missing path | .unreadable path _ => "Failed to read cluster config " ++ path
  | .malformed path _ => "Invalid cluster config " ++ path
  | .noNodes => "cluster config declares no nodes"
  | .duplicateNode id => "duplicate node id '" ++ id ++ "'"
  | .noWorkers => "workers must be at least 1"

/-- The wording of what lies behind the error. -/
def ConfigError.causes : ConfigError → List String
  | .missing path => ["configuration file \"" ++ path ++ "\" not found"]
  | .unreadable _ detail => [detail]
  | .malformed _ misfit => [misfit.message]
  | .noNodes | .duplicateNode _ | .noWorkers => []

/-- The first text that stands before it already. -/
def firstRepeated? (seen : List String) : List String → Option String
  | [] => none
  | s :: rest => if seen.contains s then some s else firstRepeated? (s :: seen) rest

namespace ClusterConfig

/-- Why a description is refused. -/
def problem? (c : ClusterConfig) : Option ConfigError :=
  if c.entries.isEmpty then some .noNodes
  else match firstRepeated? [] (c.entries.map (·.id)) with
    | some id => some (.duplicateNode id)
    | none => if c.workers = 0 then some .noWorkers else none

/-- The description in a text, with the environment; messages call the text `path`, and the file
that holds it `file`. -/
def ofText (path file text : String) (environment : List (String × String)) :
    Except ConfigError ClusterConfig :=
  match Setting.ofFile file text with
  | .error f => .error (.unreadable path (f.message ++ " in " ++ file))
  | .ok settings =>
    match ofSettings (settings.withEnvironment environment) with
    | .error misfit => .error (.malformed path misfit)
    | .ok c =>
      match c.problem? with
      | some e => .error e
      | none => .ok c

/-- The first file there is, at a path or at the path with an extension: its parts and octets. -/
def file? (path : String) (tree : Files.Entry) : Option (List String × List UInt8) :=
  ["", ".yaml", ".yml"].findSome? fun extension =>
    let parts := (Files.parts (path ++ extension)).filter (· != ".")
    match Files.Entry.find? parts tree with
    | some (.file octets) => some (parts, octets)
    | _ => none

/-- The description in a file, with the environment. -/
def load (path : String) (tree : Files.Entry) (environment : List (String × String)) :
    Except ConfigError ClusterConfig :=
  match file? path tree with
  | none => .error (.missing path)
  | some (parts, octets) =>
    if Text.isUtf8 octets then
      ofText path ("/".intercalate parts) (Text.readLossy octets) environment
    else .error (.unreadable path "stream did not contain valid UTF-8")

/-! ### What follows from a description -/

/-- A path with the home folder for the tilde that it starts with. -/
def expandHome (home path : String) : String :=
  match path.toList with
  | ['~'] => home
  | '~' :: '/' :: rest => home ++ "/" ++ String.ofList rest
  | _ => path

/-- A node with what it takes from the cluster. -/
def resolve (c : ClusterConfig) (home : String) (n : NodeEntry) : Node :=
  { id := n.id
    host := n.host
    sshUser := n.sshUser.or c.sshUser
    sshPort := (n.sshPort.or c.sshPort).getD 22
    sshKey := (n.sshKey.or c.sshKey).map (expandHome home)
    sqlUrl := n.sqlUrl.or c.defaultSqlUrl
    isLocal := n.isLocal
    vars := n.vars }

/-- The nodes with all that holds for them. -/
def nodes (c : ClusterConfig) (home : String) : List Node := c.entries.map (c.resolve home)

/-- The number of nodes at a time, where the command line may have its own. -/
def workerCount (c : ClusterConfig) (override : Option Nat) : Nat :=
  max 1 (override.getD c.workers)

/-- What bounds a run. -/
def engine (c : ClusterConfig) (override : Option Nat) : Engine :=
  { workers := c.workerCount override, grace := 1000 * c.grace }

/-- How commands are run. -/
def shellSettings (c : ClusterConfig) (controlDir : Option String) : Shell.Settings :=
  { connectTimeout := 1000 * c.connectTimeout
    commandTimeout := 1000 * c.commandTimeout
    controlDir
    allowed := c.allowed }

end ClusterConfig

end Inspection.Cluster
