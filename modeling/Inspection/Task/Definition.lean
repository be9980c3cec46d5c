import Inspection.Task.Basic
import Inspection.Text.Blank
import Inspection.Yaml.Decode

/-!
# Task — Definitions of tasks

A task is defined by a text with a fixed form.  The text is first read as data (`TaskForm`), then
every part of it is resolved in the order in which it stands; the first fault refuses the task.

* `Task.ofText`: the task that a text defines.
-/

namespace Inspection

/-- Why a rule is no rule. -/
inductive RuleFault where
  | noOperand (comparison : Comparison)
  | noPairText (text : String)
  | noPair (shown : String)
  | noScalar (shown : String)
deriving DecidableEq, Repr

/-- The wording of a fault. -/
def RuleFault.message : RuleFault → String
  | .noOperand c => "verify_type '" ++ c.text ++ "' without verify"
  | .noPairText s => "between expects [lo, hi], got '" ++ s ++ "'"
  | .noPair shown => "between expects [lo, hi], got " ++ shown
  | .noScalar shown => "expected a scalar verify value, got " ++ shown

/-- Why a text defines no task. -/
inductive TaskError where
  | version (e : VersionError)
  | unknownKind (tag : String)
  | missingCommand (step : Nat) (tag : String) (field : String)
  | invalidRule (step : Nat) (fault : RuleFault)
  | noVariants
  | unreadable (detail : String)
  | file (detail : String)
deriving DecidableEq, Repr

/-- The wording of an error. -/
def TaskError.message : TaskError → String
  | .version e => e.message
  | .unknownKind tag => "Unregistered step type '" ++ tag ++ "'"
  | .missingCommand step tag field =>
    "Step " ++ Text.natText step ++ ": missing '" ++ field ++ "' field for type '" ++ tag ++ "'"
  | .invalidRule step fault =>
    "Step " ++ Text.natText step ++ ": invalid verification rule: " ++ fault.message
  | .noVariants => "Task has no version variants"
  | .unreadable detail => "Parse error: " ++ detail
  | .file detail => "IO error: " ++ detail

/-! ### The form -/

/-- What the text says about a step's output. -/
structure ResultForm where
  setValue : Option String := none
  reportType : Option ReportType := none
  comparison : Option Comparison := none
  operand : Option Yaml.Value := none
  failureMessage : Option String := none

/-- What the text says about a step. -/
structure StepForm where
  tag : String
  sql : Option String := none
  ssh : Option String := none
  parameter : Option String := none
  result : ResultForm := {}

/-- What the text says about a variant. -/
structure VariantForm where
  version : Option String := none
  steps : List StepForm := []

/-- What the text says about a task. -/
structure TaskForm where
  info : String := ""
  variants : List VariantForm := []

open Yaml Decode in
/-- Reads what is said about an output; `depth` bounds how deep an operand may be nested. -/
def ResultForm.read (depth : Nat) (n : Yaml.Node) : Decode ResultForm := do
  let fs ← fields ["set_value", "report_type", "verify_type", "verify", "err_msg"] n
  return {
    setValue := ← field fs "set_value" none (optional? text)
    reportType := ← field fs "report_type" none (optional? (choice ReportType.names))
    comparison := ← field fs "verify_type" none (optional? (choice Comparison.names))
    operand := ← field fs "verify" none (optional? (value depth))
    failureMessage := ← field fs "err_msg" none (optional? text) }

open Yaml Decode in
/-- Reads what is said about a step. -/
def StepForm.read (depth : Nat) (n : Yaml.Node) : Decode StepForm := do
  let fs ← fields ["type", "sql", "ssh", "parameter", "result"] n
  return {
    tag := ← required fs "type" text
    sql := ← field fs "sql" none (optional? text)
    ssh := ← field fs "ssh" none (optional? text)
    parameter := ← field fs "parameter" none (optional? text)
    result := ← field fs "result" {} (ResultForm.read (depth - 1)) }

open Yaml Decode in
/-- Reads what is said about a variant. -/
def VariantForm.read (depth : Nat) (n : Yaml.Node) : Decode VariantForm := do
  let fs ← fields ["version", "steps"] n
  return {
    version := ← field fs "version" none (optional? text)
    steps := ← field fs "steps" [] fun n => do (← items n).mapM (StepForm.read (depth - 2)) }

open Yaml Decode in
/-- Reads what is said about a task. -/
def TaskForm.read (n : Yaml.Node) : Decode TaskForm := do
  let fs ← fields ["info", "task"] n
  return {
    info := ← field fs "info" "" text
    variants := ← field fs "task" [] fun n => do
      (← items n).mapM (VariantForm.read (depthLimit - 3)) }

/-! ### Resolving -/

/-- The text of a scalar operand. -/
def scalarOperand : Yaml.Value → Except RuleFault String
  | .text s => .ok s
  | .integer i => .ok (Text.intText i)
  | .float r => .ok (Yaml.Value.numberText r)
  | .bool b => .ok (Yaml.Value.boolText b)
  | other => .error (.noScalar other.shown)

/-- The two bounds of a text `[low, high]`. -/
def bracketedPair? (s : String) : Option (String × String) := do
  let inner ← VersionRange.inner? (Text.trim s.toList)
  let (low, high) ← Text.splitFirst? (· == ',') inner
  if high.contains ',' then none
  else some (String.ofList (Text.trim low), String.ofList (Text.trim high))

/-- The operand that a comparison takes from a value. -/
def Operand.ofValue (c : Comparison) (v : Yaml.Value) : Except RuleFault Operand :=
  match c with
  | .between =>
    match v with
    | .sequence [low, high] => do
      let low ← scalarOperand low
      let high ← scalarOperand high
      return .range low high
    | .text s =>
      match bracketedPair? s with
      | some (low, high) => .ok (.range low high)
      | none => .error (.noPairText s)
    | other => .error (.noPair other.shown)
  | _ => (scalarOperand v).map .scalar

/-- The rule of a step; without a comparison the output is to be equal. -/
def ResultForm.rule? (f : ResultForm) : Except RuleFault (Option Rule) :=
  match f.comparison, f.operand with
  | none, none => .ok none
  | some c, none => .error (.noOperand c)
  | c?, some v =>
    let c := c?.getD .equal
    (Operand.ofValue c v).map fun operand => some ⟨c, operand⟩

/-- The command for a kind. -/
def StepForm.command? (f : StepForm) : StepKind → Option String
  | .sql => f.sql
  | .ssh => f.ssh
  | .systemParameter => f.parameter

/-- The kind that a text names. -/
def StepKind.ofTag (tag : String) : Except TaskError StepKind :=
  match StepKind.ofTrimmed? (Text.trimmed tag) with
  | some kind => .ok kind
  | none => .error (.unknownKind (Text.trimmed tag))

/-- The step with a given index. -/
def StepForm.resolve (index : Nat) (f : StepForm) : Except TaskError Step :=
  match StepKind.ofTag f.tag with
  | .error e => .error e
  | .ok kind =>
    match (f.command? kind).filter fun c => !Text.isBlankText c with
    | none => .error (.missingCommand index f.tag kind.field)
    | some command =>
      match f.result.rule? with
      | .error fault => .error (.invalidRule index fault)
      | .ok rule =>
        .ok
          { index, kind, command, rule
            setValue := (f.result.setValue.map Text.trimmed).filter (· ≠ "")
            reportType := f.result.reportType.getD .critical
            failureMessage := f.result.failureMessage }

/-- The steps from a given index on. -/
def resolveSteps (index : Nat) : List StepForm → Except TaskError (List Step)
  | [] => .ok []
  | f :: rest => do
    let step ← f.resolve index
    let steps ← resolveSteps (index + 1) rest
    return step :: steps

/-- The variant; without a version it is for all of them. -/
def VariantForm.resolve (f : VariantForm) : Except TaskError Variant := do
  let range ← (VersionRange.parse (f.version.getD "[*, *]")).mapError .version
  let steps ← resolveSteps 1 f.steps
  return { range, steps }

/-- The task of a name. -/
def TaskForm.resolve (name : String) (f : TaskForm) : Except TaskError Task :=
  if f.variants.isEmpty then .error .noVariants
  else do
    let variants ← f.variants.mapM VariantForm.resolve
    return { name, info := Text.trimmed f.info, variants }

/-- The task of a name that a text defines. -/
def Task.ofText (name text : String) : Except TaskError Task := do
  let form ← (Yaml.decode text TaskForm.read).mapError fun f => .unreadable f.message
  form.resolve name

end Inspection
