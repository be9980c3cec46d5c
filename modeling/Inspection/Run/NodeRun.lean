import Inspection.Backend.Basic
import Inspection.Report.Basic
import Inspection.Task.Evaluation

/-!
# Run — One variant on one node

The steps of a variant are carried out in order, each with the variables that the ones before it
have bound.  A failed check is recorded and the next step follows; a backend's failure or a
variable without a value ends the node's run; a panic replaces all that it has recorded.  The
backends may answer a request in one way now and in another later.

* `runStep`: one step.
* `Session.runNode`: all steps, with the requests made on the way.
* `runNode`: the same, with backends that answer equal requests alike.
-/

namespace Inspection

/-- The backends as the requests of a node find them, one after another. -/
structure Session where
  backends : Nat → Backends

namespace Session

/-- The backends stay as they are. -/
def steady (b : Backends) : Session := ⟨fun _ => b⟩

/-- The session from a number of requests on. -/
def after (s : Session) (count : Nat) : Session := ⟨fun k => s.backends (k + count)⟩

end Session

/-- The variables that a node starts with: its own, then the built-in ones. -/
def Bindings.ofNode (node : Node) (v : Version) : Bindings :=
  (((Bindings.empty.bindAll node.vars).bind "node.id" node.id).bind "node.host" node.host).bind
    "version" v.text

/-- The operand with its variables replaced. -/
def Bindings.substituteOperand (b : Bindings) : Operand → Except BindingError Operand
  | .scalar text => (b.substitute text).map .scalar
  | .range low high => do
    let low ← b.substitute low
    let high ← b.substitute high
    return .range low high

/-- The rule with its variables replaced. -/
def Bindings.substituteRule (b : Bindings) : Option Rule → Except BindingError (Option Rule)
  | none => .ok none
  | some r => (b.substituteOperand r.operand).map fun operand => some ⟨r.comparison, operand⟩

/-- How a step ends. -/
inductive StepEnd where
  | recorded (result : StepResult) (vars : Bindings)
  | refused (e : NodeError)
  | panicked (text : String)

/-- The message of a failed check: the step's own, or what is wrong. -/
def Step.messageFor (step : Step) (vars : Bindings) (m : Mismatch) :
    Except BindingError String :=
  match step.failureMessage with
  | some template => vars.substitute template
  | none => .ok m.message

/-- The record of a step whose check has been decided. -/
def Step.record (step : Step) (vars : Bindings) (command output : String) :
    Option Mismatch → StepEnd
  | none =>
    .recorded
      { index := step.index, kind := step.kind, command, output
        verdict := .passed, severity := Verdict.passed.severity step.reportType } vars
  | some m =>
    match step.messageFor vars m with
    | .error e => .refused (.binding e)
    | .ok message =>
      .recorded
        { index := step.index, kind := step.kind, command, output, message := some message
          verdict := .failed, severity := Verdict.failed.severity step.reportType } vars

/-- Checks the output of a step; an expression takes a request of its own. -/
def checkOutput (b : Backends) (node : Node) (vars : Bindings) (step : Step)
    (command output : String) : List Request × StepEnd :=
  match vars.substituteRule step.rule with
  | .error e => ([], .refused (.binding e))
  | .ok rule =>
    match evaluateRule rule output with
    | .passed => ([], step.record vars command output none)
    | .failed m => ([], step.record vars command output (some m))
    | .expression text =>
      ([.test step.kind text],
        match (b.test node step.kind text).reply with
        | .failed e => .refused (.backend e)
        | .panicked text => .panicked text
        | .ok true => step.record vars command output none
        | .ok false => step.record vars command output (some (.falseExpression text)))

/-- The variables after a step has its output. -/
def Step.bindOutput (step : Step) (vars : Bindings) (output : String) : Bindings :=
  match step.setValue with
  | some name => vars.bind name output
  | none => vars

/-- Carries out a step: the requests it makes and how it ends. -/
def runStep (s : Session) (node : Node) (vars : Bindings) (step : Step) :
    List Request × StepEnd :=
  match vars.substitute step.command with
  | .error e => ([], .refused (.binding e))
  | .ok command =>
    let probe := Request.probe step.kind command
    match ((s.backends 0).probe node step.kind command).reply with
    | .failed e => ([probe], .refused (.backend e))
    | .panicked text => ([probe], .panicked text)
    | .ok output =>
      let (requests, ending) :=
        checkOutput (s.backends 1) node (step.bindOutput vars output) step command output
      (probe :: requests, ending)

/-- How the steps on a node end. -/
inductive StepsEnd where
  | reported (steps : List StepResult) (outcome : NodeOutcome)
  | panicked (text : String)

/-- With one more record in front. -/
def StepsEnd.after (result : StepResult) : StepsEnd → StepsEnd
  | .reported steps outcome => .reported (result :: steps) outcome
  | .panicked text => .panicked text

/-- Carries out steps one after another. -/
def runSteps (s : Session) (node : Node) (vars : Bindings) :
    List Step → List Request × StepsEnd
  | [] => ([], .reported [] .completed)
  | step :: rest =>
    let (requests, ending) := runStep s node vars step
    match ending with
    | .refused e => (requests, .reported [] (.aborted step.index e.message))
    | .panicked text => (requests, .panicked text)
    | .recorded result vars =>
      let (more, last) := runSteps (s.after requests.length) node vars rest
      (requests ++ more, last.after result)

/-- What a node has been asked, and how its run ended. -/
structure NodeRun where
  requests : List Request
  ending : StepsEnd

/-- Carries out the steps of a variant on a node. -/
def Session.runNode (s : Session) (node : Node) (steps : List Step) (v : Version) : NodeRun :=
  let (requests, ending) := runSteps s node (Bindings.ofNode node v) steps
  { requests, ending }

/-- Carries out the steps of a variant on a node, with backends that stay as they are. -/
def runNode (b : Backends) (node : Node) (steps : List Step) (v : Version) : NodeRun :=
  (Session.steady b).runNode node steps v

/-- The step of an abort that no step accounts for. -/
def unattributedStep : Nat := 0

/-- The report on a node; a panic leaves none of the records. -/
def StepsEnd.report (node : String) : StepsEnd → NodeReport
  | .reported steps outcome => { node, steps, outcome }
  | .panicked text =>
    { node, steps := []
      outcome := .aborted unattributedStep ("node execution panicked: " ++ text) }

/-- The calls of a node's run, in order. -/
def NodeRun.calls (r : NodeRun) (b : Backends) (node : Node) : List Call :=
  r.requests.flatMap (b.calls node)

/-- What a panic carries. -/
inductive PanicPayload where
  | text (s : String)
  | other
deriving DecidableEq, Repr

/-- The wording of a panic. -/
def PanicPayload.message : PanicPayload → String
  | .text s => s
  | .other => "Unknown panic"

/-- Where a node's run stands. -/
inductive NodeState where
  | notStarted
  | running (step : Nat)
  | completed
  | aborted (reason : String)
deriving DecidableEq, Repr

/-- A state in the log. -/
def NodeState.text : NodeState → String
  | .notStarted => "NOT_STARTED"
  | .running step => "RUNNING(" ++ Text.natText step ++ ")"
  | .completed => "COMPLETED"
  | .aborted _ => "ABORTED"

end Inspection
