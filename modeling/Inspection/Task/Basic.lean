import Inspection.Version.Range

/-!
# Task — Tasks, variants and steps

A task has variants for ranges of versions; a variant is a list of steps; a step sends a command to
a backend and may check the output against a rule.

* `Task.select?`: the first variant whose range holds a version.
-/

namespace Inspection

/-- Which backend a step addresses. -/
inductive StepKind where
  | sql
  | ssh
  | systemParameter
deriving DecidableEq, Repr

namespace StepKind

/-- The name of a kind. -/
def text : StepKind → String
  | .sql => "sql"
  | .ssh => "ssh"
  | .systemParameter => "system_parameter"

/-- The field of a step that holds the command for a kind. -/
def field : StepKind → String
  | .sql => "sql"
  | .ssh => "ssh"
  | .systemParameter => "parameter"

/-- The kind that a trimmed text names. -/
def ofTrimmed? (tag : String) : Option StepKind :=
  match tag with
  | "sql" => some .sql
  | "ssh" => some .ssh
  | "get_system_parameter" | "system_parameter" => some .systemParameter
  | _ => none

end StepKind

/-- How a failed check of a step counts. -/
inductive ReportType where
  | execution
  | warning
  | critical
deriving DecidableEq, Repr

/-- The report types by name. -/
def ReportType.names : List (String × ReportType) :=
  [("execution", .execution), ("warning", .warning), ("critical", .critical)]

/-- How an output is compared. -/
inductive Comparison where
  | equal
  | min
  | max
  | between
  | expression
deriving DecidableEq, Repr

namespace Comparison

/-- The name of a comparison. -/
def text : Comparison → String
  | .equal => "equal"
  | .min => "min"
  | .max => "max"
  | .between => "between"
  | .expression => "expression"

/-- The comparisons by name. -/
def names : List (String × Comparison) :=
  [.equal, .min, .max, .between, .expression].map fun c => (c.text, c)

end Comparison

/-- What an output is compared with. -/
inductive Operand where
  | scalar (text : String)
  | range (low high : String)
deriving DecidableEq, Repr

/-- A comparison and its operand. -/
structure Rule where
  comparison : Comparison
  operand : Operand
deriving DecidableEq, Repr

/-- The operand has two bounds exactly when the comparison asks for them. -/
def Rule.isFitting (r : Rule) : Bool :=
  match r.comparison, r.operand with
  | .between, .range _ _ => true
  | .between, .scalar _ => false
  | _, .scalar _ => true
  | _, .range _ _ => false

/-- One step.  The command, the operand and the message are templates. -/
structure Step where
  /-- The place in the variant, from one. -/
  index : Nat
  kind : StepKind
  command : String
  /-- The variable that the output is bound to. -/
  setValue : Option String := none
  reportType : ReportType := .critical
  /-- Without a rule the step only gathers its output. -/
  rule : Option Rule := none
  /-- What a failed check reports in place of its default. -/
  failureMessage : Option String := none
deriving DecidableEq, Repr

/-- The steps for a range of versions. -/
structure Variant where
  range : VersionRange
  steps : List Step
deriving DecidableEq, Repr

/-- A task. -/
structure Task where
  name : String
  info : String
  variants : List Variant
deriving DecidableEq, Repr

/-- The first variant whose range holds the version. -/
def Task.select? (t : Task) (v : Version) : Option Variant :=
  t.variants.find? fun variant => variant.range.contains v

end Inspection
