import Inspection.Template

/-!
# CommandLine — Variables on the command line

A variable is given as a name, an equals sign and a value.  Both are trimmed; one pair of matching
quotes around the value is dropped, so that a quoted value keeps its blanks.

* `Assignment.parse`: the name and the value.
-/

namespace Inspection.Assignment

/-- Why a text gives no variable. -/
inductive Fault where
  | noEquals (raw : String)
  | invalidName (name : String)
deriving DecidableEq, Repr

/-- The wording of the fault. -/
def Fault.message : Fault → String
  | .noEquals raw => "expected KEY=VALUE, got '" ++ raw ++ "'"
  | .invalidName name => "invalid variable name '" ++ name ++ "'"

/-- What stands between two quotes, if they are the two ends of the text. -/
def within? (quote : Char) (s : List Char) : Option (List Char) :=
  (Text.dropHead? [quote] s).bind (Text.dropTail? [quote])

/-- The text without one pair of matching quotes around it. -/
def unquote (s : List Char) : List Char :=
  ((within? '"' s).or (within? '\'' s)).getD s

/-- The name and the value that a text gives. -/
def parse (raw : String) : Except Fault (String × String) :=
  match Text.splitFirst? (· == '=') raw.toList with
  | none => .error (.noEquals raw)
  | some (key, value) =>
    let name := Text.trim key
    if Template.isName name then
      .ok (String.ofList name, String.ofList (unquote (Text.trim value)))
    else .error (.invalidName (String.ofList name))

end Inspection.Assignment
