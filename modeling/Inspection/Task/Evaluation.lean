import Inspection.Decimal.Reader
import Inspection.Task.Basic
import Inspection.Text.Blank
import Inspection.Text.Quoted

/-!
# Task — Checking an output against a rule

Outputs and operands are trimmed.  A text is numeric when it denotes a finite number; numbers are
those of 64 bits, so that two numerals are equal when they round to the same one.  An expression
is not decided here, but by the backend of its step.

* `Rule.evaluate`: the verdict of a rule about an output.
-/

namespace Inspection

/-- Why an output fails a rule. -/
inductive Mismatch where
  | unequal (expected output : String)
  | notAtLeast (output bound : String)
  | notAtMost (output bound : String)
  | notWithin (output low high : String)
  | notComparable (output : String) (sign : String) (bound : String)
  | notComparableRange (output low high : String)
  | unfitting (operand : Operand) (comparison : Comparison)
  | falseExpression (expression : String)
deriving DecidableEq, Repr

/-- An operand as messages show it. -/
def Operand.shown : Operand → String
  | .scalar s => "Scalar(" ++ Text.quoted s ++ ")"
  | .range low high => "Range(" ++ Text.quoted low ++ ", " ++ Text.quoted high ++ ")"

/-- The wording of a mismatch. -/
def Mismatch.message : Mismatch → String
  | .unequal expected output => "expected '" ++ expected ++ "', got '" ++ output ++ "'"
  | .notAtLeast output bound => "value " ++ output ++ " is not >= " ++ bound
  | .notAtMost output bound => "value " ++ output ++ " is not <= " ++ bound
  | .notWithin output low high =>
    "value " ++ output ++ " not within [" ++ low ++ ", " ++ high ++ "]"
  | .notComparable output sign bound =>
    "non-numeric comparison: '" ++ output ++ "' " ++ sign ++ " '" ++ bound ++ "'"
  | .notComparableRange output low high =>
    "non-numeric comparison: '" ++ output ++ "' between [" ++ low ++ ", " ++ high ++ "]"
  | .unfitting operand comparison =>
    "verify operand " ++ operand.shown ++ " does not fit verify_type '" ++ comparison.text ++ "'"
  | .falseExpression expression => "expression is false: " ++ expression

/-- What a rule says about an output. -/
inductive Evaluation where
  | passed
  | failed (mismatch : Mismatch)
  | expression (text : String)
deriving DecidableEq, Repr

namespace Evaluation

/-- Passed, or failed for a reason. -/
def check (holds : Bool) (mismatch : Mismatch) : Evaluation :=
  if holds then .passed else .failed mismatch

end Evaluation

/-- The finite number that a text denotes, counted in the least positive number of 64 bits. -/
def numericValue? (s : String) : Option Int :=
  (Decimal.Reading.ofChars? Decimal.binary64 (Text.trim s.toList)).bind Decimal.Reading.value?

namespace Rule

/-- Equal as numbers if both are numeric, else as trimmed texts. -/
def evaluateEqual (output expected : String) : Evaluation :=
  let output := Text.trimmed output
  let expected := Text.trimmed expected
  let equal := match numericValue? output, numericValue? expected with
    | some a, some b => a == b
    | _, _ => output == expected
  .check equal (.unequal expected output)

/-- Both are numeric, and the output is not below the bound. -/
def evaluateMin (output bound : String) : Evaluation :=
  let output := Text.trimmed output
  match numericValue? output, numericValue? bound with
  | some v, some b => .check (b ≤ v) (.notAtLeast output (Text.trimmed bound))
  | _, _ => .failed (.notComparable output ">=" bound)

/-- Both are numeric, and the output is not above the bound. -/
def evaluateMax (output bound : String) : Evaluation :=
  let output := Text.trimmed output
  match numericValue? output, numericValue? bound with
  | some v, some b => .check (v ≤ b) (.notAtMost output (Text.trimmed bound))
  | _, _ => .failed (.notComparable output "<=" bound)

/-- All three are numeric, and the output lies between the bounds. -/
def evaluateBetween (output low high : String) : Evaluation :=
  let output := Text.trimmed output
  match numericValue? output, numericValue? low, numericValue? high with
  | some v, some l, some h =>
    .check (l ≤ v && v ≤ h) (.notWithin output (Text.trimmed low) (Text.trimmed high))
  | _, _, _ => .failed (.notComparableRange output low high)

/-- What the rule says about an output. -/
def evaluate (r : Rule) (output : String) : Evaluation :=
  match r.comparison, r.operand with
  | .expression, .scalar text => .expression text
  | .equal, .scalar expected => evaluateEqual output expected
  | .min, .scalar bound => evaluateMin output bound
  | .max, .scalar bound => evaluateMax output bound
  | .between, .range low high => evaluateBetween output low high
  | comparison, operand => .failed (.unfitting operand comparison)

end Rule

/-- What an optional rule says: without one everything passes. -/
def evaluateRule (rule : Option Rule) (output : String) : Evaluation :=
  match rule with
  | none => .passed
  | some r => r.evaluate output

end Inspection
