import Inspection.Backend.Sysctl
import Inspection.Text.Split

/-!
# Backend — Scripted backends

Backends whose answers are given by rules, for trying out tasks without a cluster.  A rule is for a
command that contains its pattern, on one node or on all; of several the last one counts.
-/

namespace Inspection.Scripted

/-- An answer for the commands that contain a pattern. -/
structure ReplyRule (α : Type) where
  node : Option String
  pattern : String
  reply : Reply α

/-- The rule is for the command. -/
def ReplyRule.applies {α : Type} (r : ReplyRule α) (node : Node) (command : String) : Bool :=
  r.node.all (· == node.id) && Text.contains r.pattern.toList command.toList

/-- The answer of the last rule for the command. -/
def lookup? {α : Type} (rules : List (ReplyRule α)) (node : Node) (command : String) :
    Option (Reply α) :=
  ((rules.reverse).find? (·.applies node command)).map (·.reply)

/-- An answer for a parameter. -/
structure ParameterRule where
  node : Option String
  name : String
  reply : Reply String

/-- The rule is for the parameter. -/
def ParameterRule.applies (r : ParameterRule) (node : Option String) (name : String) : Bool :=
  r.node == node && r.name == name

/-- What scripted backends answer. -/
structure Script where
  /-- These come before the rules in `shell`. -/
  rawShell : List (ReplyRule CommandOutput) := []
  shell : List (ReplyRule CommandOutput) := []
  query : List (ReplyRule Rows) := []
  parameters : List ParameterRule := []
  /-- These come before the rules in `parameters`. -/
  failedParameters : List (String × BackendError) := []
  /-- Parameters are read through the shell. -/
  sysctl : Bool := false

namespace Script

/-- The answer to a command; without a rule it succeeds with an empty output. -/
def runShell (s : Script) (node : Node) (command : String) : Reply CommandOutput :=
  match lookup? s.rawShell node command with
  | some reply => reply
  | none => (lookup? s.shell node command).getD (.ok {})

/-- The answer to a query; without a rule there are no rows. -/
def runQuery (s : Script) (node : Node) (sql : String) : Reply Rows :=
  (lookup? s.query node sql).getD (.ok [])

/-- The value of a parameter: a rule for the node comes before one for all nodes. -/
def parameterValue (s : Script) (node : Node) (name : String) : Reply String :=
  match s.failedParameters.reverse.lookup name with
  | some e => .failed e
  | none =>
    let find (scope : Option String) := s.parameters.reverse.find? (·.applies scope name)
    match (find (some node.id)).or (find none) with
    | some r => r.reply
    | none => .failed (.commandFailed (some 255) ("unknown parameter '" ++ name ++ "'"))

/-- The backends that answer as the script says. -/
def backends (s : Script) : Backends where
  shell := s.runShell
  query := s.runQuery
  parameter node name :=
    if s.sysctl then Sysctl.read s.runShell node name else .silent (s.parameterValue node name)

end Script

end Inspection.Scripted
