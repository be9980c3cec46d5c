import Inspection.CommandLine.Assignment
import Inspection.Run.CatalogRun
import Inspection.View.Format

/-!
# CommandLine — Options

An option has a long name after two dashes, and most have a letter after one.  Its value is the
next argument, or stands in the same one: after an equals sign, or right after the letter.  A value
that is an argument of its own does not start with a dash.  No option but two may be given twice.

* `Options.parse`: the options that arguments and the environment give.
-/

namespace Inspection

/-- An option by its meaning. -/
inductive OptionName where
  | config
  | tasks
  | packages
  | package
  | filter
  | binding
  | version
  | versionQuery
  | workers
  | format
  | mode
  | storeDir
  | list
  | help
deriving DecidableEq, Repr

namespace OptionName

/-- The options by their long names. -/
def byName : List (String × OptionName) :=
  [("config", .config), ("tasks", .tasks), ("packages", .packages), ("package", .package),
    ("filter", .filter), ("env", .binding), ("version", .version),
    ("version-query", .versionQuery), ("workers", .workers), ("format", .format), ("mode", .mode),
    ("store-dir", .storeDir), ("list", .list), ("help", .help)]

/-- The options by their letters. -/
def byLetter : List (Char × OptionName) :=
  [('c', .config), ('t', .tasks), ('p', .package), ('f', .filter), ('e', .binding),
    ('w', .workers), ('m', .mode), ('h', .help)]

/-- The option stands alone, without a value. -/
def isFlag (o : OptionName) : Bool := o == .list || o == .help

/-- The option may be given more than once. -/
def isRepeatable (o : OptionName) : Bool := o == .filter || o == .binding

end OptionName

/-- What the command line asks for. -/
structure Options where
  config : String := "cluster.yaml"
  tasks : String := "tasks"
  packages : String := "check_package.yaml"
  package : Option String := none
  filter : List String := []
  vars : List (String × String) := []
  version : Option String := none
  versionQuery : String := Inspection.versionQuery
  workers : Option Nat := none
  format : ReportFormat := .table
  mode : RunMode := .check
  storeDir : Option String := none
  list : Bool := false

/-- Why the command line asks for nothing that can be done. -/
inductive UsageError where
  | unknownOption (arg : String)
  | unexpectedArgument (arg : String)
  | unexpectedValue (o : OptionName)
  | missingValue (o : OptionName)
  | invalidValue (o : OptionName) (value : String)
  | repeated (o : OptionName)
  | packageWithFilter
  /-- Help is asked for, which is no error but ends the reading too. -/
  | help
deriving DecidableEq, Repr

namespace Options

/-- The modes by name. -/
def modes : List (String × RunMode) := [("check", .check), ("display", .display)]

/-- The options with the value of one set. -/
def set (o : OptionName) (value : String) (opts : Options) : Except UsageError Options :=
  let path (f : String → Options) : Except UsageError Options :=
    if value.isEmpty then .error (.invalidValue o value) else .ok (f value)
  let chosen {α : Type} (a : Option α) (f : α → Options) : Except UsageError Options :=
    match a with
    | some a => .ok (f a)
    | none => .error (.invalidValue o value)
  match o with
  | .config => path fun v => { opts with config := v }
  | .tasks => path fun v => { opts with tasks := v }
  | .packages => path fun v => { opts with packages := v }
  | .storeDir => path fun v => { opts with storeDir := some v }
  | .package => .ok { opts with package := some value }
  | .filter =>
    .ok { opts with
      filter := opts.filter ++ (Text.splitAll (· == ',') value.toList).map String.ofList }
  | .binding =>
    chosen (Assignment.parse value).toOption fun v => { opts with vars := opts.vars ++ [v] }
  | .version => .ok { opts with version := some value }
  | .versionQuery => .ok { opts with versionQuery := value }
  | .workers =>
    chosen (Text.nat? Text.unsignedBound value.toList) fun n => { opts with workers := some n }
  | .format => chosen (ReportFormat.names.lookup value) fun f => { opts with format := f }
  | .mode => chosen (modes.lookup value) fun m => { opts with mode := m }
  | .list => .ok { opts with list := true }
  | .help => .error .help

/-- The options read so far, and which have been given. -/
structure Draft where
  options : Options := {}
  given : List OptionName := []

/-- The draft with one option more. -/
def Draft.give (d : Draft) (o : OptionName) (value : String) : Except UsageError Draft :=
  if d.given.contains o && !o.isRepeatable then .error (.repeated o)
  else (d.options.set o value).map fun options => { options, given := o :: d.given }

/-- The argument is an option rather than a value. -/
def isOption (arg : String) : Bool :=
  match arg.toList with
  | '-' :: _ :: _ => true
  | _ => false

/-- An argument taken apart: the option, and the value that stands with it. -/
def splitArgument (arg : String) : Except UsageError (OptionName × Option String) :=
  match arg.toList with
  | '-' :: '-' :: s =>
    let (name, value) := match Text.splitFirst? (· == '=') s with
      | some (name, value) => (name, some (String.ofList value))
      | none => (s, none)
    match OptionName.byName.lookup (String.ofList name) with
    | some o => .ok (o, value)
    | none => .error (.unknownOption arg)
  | '-' :: c :: s =>
    match OptionName.byLetter.lookup c with
    | none => .error (.unknownOption arg)
    | some o =>
      let value := (Text.dropHead? ['='] s).getD s
      .ok (o, if s.isEmpty || o.isFlag then none else some (String.ofList value))
  | _ => .error (.unexpectedArgument arg)

/-- Reads arguments one after another. -/
def readAll (d : Draft) : List String → Except UsageError Draft
  | [] => .ok d
  | ["--"] => .ok d
  | arg :: rest =>
    match splitArgument arg with
    | .error e => .error e
    | .ok (o, some value) =>
      if o.isFlag then .error (.unexpectedValue o)
      else d.give o value >>= fun d => readAll d rest
    | .ok (o, none) =>
      if o.isFlag then d.give o "" >>= fun d => readAll d rest
      else match rest with
        | value :: rest =>
          if isOption value then .error (.missingValue o)
          else d.give o value >>= fun d => readAll d rest
        | [] => .error (.missingValue o)

/-- The variables of the environment that stand for an option. -/
def environmentNames : List (String × OptionName) :=
  [("CLUSTERDIAG_CONFIG", .config), ("CLUSTERDIAG_TASKS", .tasks),
    ("CLUSTERDIAG_PACKAGES", .packages)]

/-- The draft with what the environment gives for options that are not given. -/
def Draft.complete (d : Draft) (environment : List (String × String)) : Except UsageError Draft :=
  environmentNames.foldlM (fun d (name, o) =>
    match environment.lookup name with
    | some value => if d.given.contains o then .ok d else d.give o value
    | none => .ok d) d

/-- The options that arguments and the environment give. -/
def parse (args : List String) (environment : List (String × String)) :
    Except UsageError Options := do
  let d ← readAll {} args
  let d ← d.complete environment
  if d.given.contains .package && d.given.contains .filter then throw .packageWithFilter
  return d.options

end Options

end Inspection
