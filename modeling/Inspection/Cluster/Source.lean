import Inspection.Cluster.Notation.Document
import Inspection.Cluster.Setting

/-!
# Cluster — Sources of settings

Settings come from a file, and then from the variables of the environment whose names start with
`CLUSTERDIAG_`.

* `Setting.ofFile`: the settings of a file.
* `Setting.withEnvironment`: the settings with those of the environment.
-/

namespace Inspection.Cluster

open Notation (Value)

/-! ### Files -/

/-- Why a file gives no settings. -/
inductive FileFault where
  | malformed (f : Notation.Fault)
  | severalDocuments (count : Nat)
  /-- A number that no setting may have. -/
  | number (written : String)
  /-- A key that is neither a text nor an integer. -/
  | key (shown : String)
  /-- The file is not a table. -/
  | noTable (m : Misfit)
deriving DecidableEq, Repr

/-- The wording of the fault, without the file. -/
def FileFault.message : FileFault → String
  | .malformed f => f.message
  | .severalDocuments count => "Got " ++ Text.natText count ++ " YAML documents, expected 1"
  | .number written => "Parsing " ++ written ++ " as floating point number failed"
  | .key shown => "Cannot parse " ++ shown ++ " because it is an unsupported hash key type"
  | .noTable m => m.message

/-- The name that a key gives: only texts and integers are names. -/
def keyName? : Value → Option String
  | .text s => some s
  | .integer i => some (Text.intText i)
  | _ => none

namespace Setting

mutual

/-- The setting that a value stands for. -/
def ofValue (source : Source) : Value → Except FileFault Setting
  | .missing | .empty => .ok (.plain source .unset)
  | .flag b => .ok (.plain source (.flag b))
  | .integer i => .ok (.plain source (.integer i))
  | .number written =>
    match Decimal.Reading.ofChars? Decimal.binary64 written.toList with
    | some r => .ok (.plain source (.number r))
    | none => .error (.number written)
  | .text s => .ok (.plain source (.text s))
  | .list items => (ofItems source items).map (.list source)
  | .table entries => (ofEntries source entries []).map (.table source)

/-- The settings that the items of a list stand for. -/
def ofItems (source : Source) : List Value → Except FileFault (List Setting)
  | [] => .ok []
  | v :: rest => do return (← ofValue source v) :: (← ofItems source rest)

/-- The settings that the entries of a table stand for, behind others. -/
def ofEntries (source : Source) :
    List (Value × Value) → List (String × Setting) → Except FileFault (List (String × Setting))
  | [], es => .ok es
  | (k, v) :: rest, es =>
    match keyName? k with
    | none => .error (.key k.shown)
    | some name => do ofEntries source rest (putEntry es name (← ofValue source v))

end

/-- The settings of a file, which is empty or holds a single table. -/
def ofFile (path text : String) : Except FileFault Setting := do
  match ← (Value.documents text).mapError .malformed with
  | [] => return emptyTable
  | [root] =>
    let s ← ofValue (.file path) root
    match s with
    | .table _ es => return es.foldl (fun root (name, s) => root.put name s) emptyTable
    | _ => throw (.noTable (s.unsuited "a map"))
  | docs => throw (.severalDocuments docs.length)

/-! ### The environment -/

/-- What the names of the variables start with, in any case. -/
def environmentPrefix : String := "clusterdiag_"

/-- The name with a dot for every two underscores. -/
def dotted : List Char → List Char
  | '_' :: '_' :: s => '.' :: dotted s
  | c :: s => c :: dotted s
  | [] => []

/-- The setting that a variable's name means, if it means one. -/
def settingName? (name : String) : Option String :=
  (Text.dropHead? environmentPrefix.toList (Text.lowered name).toList).map fun s =>
    String.ofList (dotted s)

/-- What the value of a variable stands for. -/
def ofVariable (value : String) : Setting :=
  .plain (some .environment) <|
    if Text.lowered value = "true" then .flag true
    else if Text.lowered value = "false" then .flag false
    else match Text.int? Text.signedBound value.toList with
      | some i => .integer i
      | none =>
        match Decimal.Reading.ofChars? Decimal.binary64 value.toList with
        | some r => .number r
        | none => .text value

/-- The settings with those of the environment. -/
def withEnvironment (root : Setting) (environment : List (String × String)) : Setting :=
  environment.foldl (fun root (name, value) =>
    match settingName? name with
    | some setting => root.put setting (ofVariable value)
    | none => root) root

end Setting

end Inspection.Cluster
