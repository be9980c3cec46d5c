import Inspection.Backend.Basic

/-!
# Backend — Parameters of the kernel

A parameter is read by a command whose last word is its name.  The name stands there unquoted, so
only names without a blank or a character that a shell treats specially are read.
-/

namespace Inspection.Sysctl

/-- A character of a parameter's name. -/
def isNameChar (c : Char) : Bool :=
  c.isAlphanum || c == '.' || c == '_' || c == '-' || c == '/'

/-- The text is a parameter's name. -/
def isName (s : List Char) : Bool := !s.isEmpty && s.all isNameChar

/-- The command that prints a parameter. -/
def command (name : String) : String := "sysctl -n " ++ name

/-- Reads a parameter through a shell. -/
def read (shell : Node → String → Reply CommandOutput) (node : Node) (raw : String) :
    Traced String :=
  let name := Text.trimmed raw
  if isName name.toList then
    .call (.shell (command name)) (shell node (command name)) >>= fun o =>
      .silent (successfulOutput o)
  else .silent (.failed (.query ("invalid system parameter name '" ++ name ++ "'")))

end Inspection.Sysctl
