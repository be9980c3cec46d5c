import Inspection.Backend.Error
import Inspection.Calendar
import Inspection.Decimal.Layout
import Inspection.Text.Octets

/-!
# Sql — Database servers

A server names the type of each column; the type says how the values of the column are read.  One
value that cannot be read fails the whole query.

* `CellKind.ofType`: how the values of a type are read.
* `Server.rows`: the texts that a server answers with, or its error.
-/

namespace Inspection.Sql

/-- An error that a server reports. -/
structure ServerError where
  state : Option String
  message : String
deriving DecidableEq, Repr

/-- The states that mean that access is denied: to the server, or to one of its databases. -/
def deniedStates : List String := ["1045", "1044"]

/-- The failure that an error of a server is. -/
def ServerError.failure (e : ServerError) : BackendError :=
  match e.state with
  | none => .query e.message
  | some state =>
    if deniedStates.contains state then .auth e.message
    else .query ("[" ++ state ++ "] " ++ e.message)

/-- How the values of a column are read. -/
inductive CellKind where
  | signed
  | unsigned
  | single
  | double
  | date
  | time
  | dateTime
  /-- These hang on the time zone of the session, and are not read. -/
  | timestamp
  /-- The octets are the text. -/
  | text
deriving DecidableEq, Repr

/-- How the values of a type are read, by its name. -/
def CellKind.ofType (name : String) : CellKind :=
  match name with
  | "BOOLEAN" | "TINYINT" | "SMALLINT" | "MEDIUMINT" | "INT" | "BIGINT" => .signed
  | "YEAR" | "BIT" => .unsigned
  | "FLOAT" => .single
  | "DOUBLE" => .double
  | "DATE" => .date
  | "TIME" => .time
  | "DATETIME" => .dateTime
  | "TIMESTAMP" => .timestamp
  | _ => if (Text.dropTail? " UNSIGNED".toList name.toList).isSome then .unsigned else .text

/-- A column of an answer. -/
structure Column where
  name : String
  typeName : String
deriving DecidableEq, Repr

/-- A value as the server sends it. -/
inductive Sent where
  | null
  | octets (octets : List UInt8)
  /-- The numbers of a date or a time, largest unit first. -/
  | numbers (parts : List Nat)
deriving DecidableEq, Repr

/-- The time that up to four numbers give; those that are left out are zero. -/
def clockOf (parts : List Nat) : Clock :=
  ⟨parts.getD 0 0, parts.getD 1 0, parts.getD 2 0, parts.getD 3 0⟩

/-- The text of a date, if the calendar has it. -/
def dateText? : List Nat → Option String
  | year :: month :: day :: _ =>
    let d : Date := ⟨year, month, day⟩
    if d.isReal then some d.text else none
  | _ => none

/-- The text of a time, if a day has it; it comes with a sign and a count of days. -/
def timeText? : List Nat → Option String
  | sign :: days :: rest =>
    let c := clockOf rest
    if sign = 0 ∧ days = 0 ∧ c.isReal then some c.text else none
  | _ => none

/-- The text of a date and a time. -/
def dateTimeText? (parts : List Nat) : Option String := do
  let date ← dateText? parts
  let c := clockOf (parts.drop 3)
  if c.isReal then some (date ++ " " ++ c.text) else none

/-- The text of a value. -/
def CellKind.read? (k : CellKind) : Sent → Option String
  | .null => some ""
  | .octets octets =>
    let s := Text.readLossy octets
    match k with
    | .signed => (Text.int? Text.signedBound s.toList).map Text.intText
    | .unsigned => (Text.nat? Text.unsignedBound s.toList).map Text.natText
    | .single =>
      (Decimal.Reading.ofChars? Decimal.binary32 s.toList).map
        (Decimal.plain.write Decimal.binary32)
    | .double =>
      (Decimal.Reading.ofChars? Decimal.binary64 s.toList).map
        (Decimal.plain.write Decimal.binary64)
    | .text => some s
    | .date | .time | .dateTime | .timestamp => none
  | .numbers parts =>
    match k with
    | .date => dateText? parts
    | .time => timeText? parts
    | .dateTime => dateTimeText? parts
    | .signed | .unsigned | .single | .double | .timestamp | .text => none

/-- The text of a value of a column. -/
def Column.read (c : Column) (v : Sent) : Except BackendError String :=
  match (CellKind.ofType c.typeName).read? v with
  | some text => .ok text
  | none => .error (.query ("column " ++ c.name ++ ": value cannot be read"))

/-- How a server answers. -/
inductive Server where
  /-- It turns the connection down. -/
  | refusing (e : ServerError)
  /-- It turns the query down. -/
  | failing (e : ServerError)
  | answering (columns : List Column) (rows : List (List Sent))
deriving DecidableEq, Repr

/-- The texts that a server answers with, or its error. -/
def Server.rows : Server → Except BackendError (List (List String))
  | .refusing e | .failing e => .error e.failure
  | .answering columns rows =>
    rows.mapM fun row => (columns.zip row).mapM fun (c, v) => c.read v

end Inspection.Sql
