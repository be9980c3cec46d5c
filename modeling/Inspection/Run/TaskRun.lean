import Inspection.Run.NodeRun
import Inspection.Run.Schedule

/-!
# Run — One task on all nodes

The steps of a variant are carried out on every node, on a bounded number of nodes at a time.  Each
call takes a known time and all else takes none, so that a node's run has a known duration and each
of its calls a known instant.

* `runTask`: the report of a task, the calls made, and the instant at which all is over.
-/

namespace Inspection

/-- How many milliseconds each call for a node takes. -/
structure CallTime where
  of : String → Call → Nat

/-- The calls of the shell all take the same time, the others none. -/
def CallTime.uniform (ms : Nat) : CallTime := ⟨fun _ c => if c.command?.isSome then ms else 0⟩

instance : Coe Nat CallTime := ⟨CallTime.uniform⟩

/-- What bounds a run. -/
structure Engine where
  /-- The number of nodes at a time; zero counts as one. -/
  workers : Nat := 4
  callTime : CallTime := .uniform 0
  /-- Milliseconds that running nodes get after an interrupt. -/
  grace : Nat := 5000

/-- A node with its run and the calls it makes. -/
structure Execution where
  node : Node
  run : NodeRun
  calls : List Call

namespace Execution

/-- The run of a variant's steps on a node. -/
def ofNode (b : Backends) (steps : List Step) (v : Version) (node : Node) : Execution :=
  let run := runNode b node steps v
  { node, run, calls := run.calls b node }

/-- The time that calls take one after another. -/
def totalTime (time : Call → Nat) : List Call → Nat
  | [] => 0
  | c :: rest => time c + totalTime time rest

/-- The time that the run takes. -/
def duration (callTime : CallTime) (e : Execution) : Nat :=
  totalTime (callTime.of e.node.id) e.calls

/-- The calls, made one after another, with the instants at which they are. -/
def timed (time : Call → Nat) : Nat → List Call → List (Nat × Call)
  | _, [] => []
  | instant, c :: rest => (instant, c) :: timed time (instant + time c) rest

/-- The report on the node. -/
def report (e : Execution) : NodeReport := e.run.ending.report e.node.id

end Execution

/-- A call, its node, and its instant. -/
structure TimedCall where
  instant : Nat
  node : String
  call : Call
deriving DecidableEq, Repr

/-- How many calls of the shell are going on at an instant. -/
def shellCallsAt (callTime : CallTime) (instant : Nat) (calls : List TimedCall) : Nat :=
  calls.countP fun c =>
    c.call.command?.isSome &&
      decide (c.instant ≤ instant ∧ instant < c.instant + callTime.of c.node c.call)

/-- The calls made for a node, in order. -/
def callsFor (node : String) (calls : List TimedCall) : List Call :=
  (calls.filter (·.node == node)).map (·.call)

/-- A task that has been run. -/
structure TaskRun where
  report : TaskReport
  course : Course Execution
  /-- The calls in the order of their instants. -/
  calls : List TimedCall

namespace TaskRun

/-- The calls of a job, those only that are made before its end if it was cut. -/
def jobCalls (callTime : CallTime) (isCut : Bool) (j : Job Execution) : List TimedCall :=
  let node := j.item.node.id
  let all := (Execution.timed (callTime.of node) j.start j.item.calls).map fun (instant, call) =>
    { instant, node, call : TimedCall }
  if isCut then all.filter (·.instant < j.finish) else all

/-- All calls of a course, in the order of their instants. -/
def courseCalls (callTime : CallTime) (c : Course Execution) : List TimedCall :=
  let finished := c.finished.flatMap (jobCalls callTime false)
  let abandoned := c.abandoned.flatMap (jobCalls callTime true)
  (finished ++ abandoned).mergeSort fun a b => decide (a.instant ≤ b.instant)

/-- The nodes without a report, each once. -/
def unfinished (nodes : List Node) (reports : List NodeReport) : List String :=
  (nodes.map (·.id)).eraseDups.filter fun id => !reports.any (·.node == id)

/-- The largest number of calls of the shell that were going on at once; a call that takes no time
goes on alone. -/
def mostShellCalls (callTime : CallTime) (r : TaskRun) : Nat :=
  let calls := r.calls.filter (·.call.command?.isSome)
  ((calls.map fun c => max 1 (shellCallsAt callTime c.instant r.calls)).max?).getD 0

end TaskRun

/-- What the executions on nodes keep to. -/
def Engine.plan (engine : Engine) (stop : Option Nat) : Plan Execution where
  slots := max 1 engine.workers
  duration := Execution.duration engine.callTime
  stop := stop
  grace := engine.grace

/-- Runs a variant of a task on nodes from an instant on, until the interrupt if there is one. -/
def runTask (b : Backends) (engine : Engine) (stop : Option Nat) (now : Nat) (task : Task)
    (variant : Variant) (nodes : List Node) (v : Version) : TaskRun :=
  let course :=
    schedule (engine.plan stop) now (nodes.map (Execution.ofNode b variant.steps v))
  let reports := course.finished.map (·.item.report)
  { report :=
      TaskReport.ofNodes task.name task.info variant.range reports
        (TaskRun.unfinished nodes reports)
    course := course
    calls := TaskRun.courseCalls engine.callTime course }

end Inspection
