import Inspection.Report.Basic

/-!
# View — Colours of a terminal

A text is set off by a code before it and one after it; without colours it stands as it is.
-/

namespace Inspection

/-- How a text is set off. -/
inductive Emphasis where
  | bold
  | dimmed
  | red
  | cyan
  | boldGreen
  | boldYellow
  | boldRed
deriving DecidableEq, Repr

namespace Emphasis

/-- The parameters of the code. -/
def code : Emphasis → String
  | .bold => "1"
  | .dimmed => "2"
  | .red => "31"
  | .cyan => "36"
  | .boldGreen => "1;32"
  | .boldYellow => "1;33"
  | .boldRed => "1;31"

/-- The text set off, if there are colours. -/
def apply (e : Emphasis) (color : Bool) (text : String) : String :=
  if color then "\x1b[" ++ e.code ++ "m" ++ text ++ "\x1b[0m" else text

/-- How the label of a severity is set off. -/
def ofSeverity : Severity → Emphasis
  | .pass => .boldGreen
  | .warning => .boldYellow
  | .critical | .error => .boldRed

end Emphasis

/-- The label of a severity. -/
def Severity.styled (s : Severity) (color : Bool) : String :=
  (Emphasis.ofSeverity s).apply color s.label

end Inspection
