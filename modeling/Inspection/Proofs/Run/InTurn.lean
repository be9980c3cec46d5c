import Inspection.Proofs.Run.Calls
import Inspection.Run.CatalogRun

/-!
# Run — One thing after another

What a run comes to when nothing goes on at the same time: the steps of each task that has a variant
for the version are carried out on one node after another, and nothing interrupts them.  There is no
schedule here, nor any time.

* `catalogInTurn`, `callsInTurn`: the report of such a run, and the calls for a node.
* `report_eq_taskInTurn`: the report of a task with no unfinished node.
* `prefix_filter_nodes`: the reports of any other task are among those.
* `reportInTurn_congr`: what a node's report depends on.
-/

namespace Inspection

/-- The report of a node's steps, carried out on their own; a panic leaves none of the records. -/
def reportInTurn (b : Backends) (steps : List Step) (v : Version) (node : Node) : NodeReport :=
  match (runNode b node steps v).ending with
  | .reported results outcome => { node := node.id, steps := results, outcome }
  | .panicked text =>
    { node := node.id, steps := [], outcome := .aborted 0 ("node execution panicked: " ++ text) }

/-- The report of a task whose steps are carried out on one node after another. -/
def taskInTurn (b : Backends) (nodes : List Node) (v : Version) (task : Task) (variant : Variant) :
    TaskReport :=
  .ofNodes task.name task.info variant.range (nodes.map (reportInTurn b variant.steps v)) []

/-- The reports of the tasks that have a variant for a version. -/
def reportsInTurn (b : Backends) (nodes : List Node) (v : Version) (tasks : List Task) :
    List TaskReport :=
  tasks.filterMap fun task => (task.select? v).map (taskInTurn b nodes v task)

/-- The tasks that have none. -/
def skippedInTurn (v : Version) (tasks : List Task) : List SkippedTask :=
  tasks.filterMap fun task =>
    if (task.select? v).isNone then some (.noVariant task.name v) else none

/-- The report of all tasks of a catalog, one carried out after another. -/
def chosenInTurn (b : Backends) (chosen : Catalog) (nodes : List Node) (request : RunRequest) :
    RunReport :=
  .ofTasks request.version request.mode (reportsInTurn b nodes request.version chosen.tasks)
    (skippedInTurn request.version chosen.tasks) chosen.broken

/-- The report of the tasks that a request chooses, one carried out after another. -/
def catalogInTurn (b : Backends) (catalog : Catalog) (nodes : List Node) (request : RunRequest) :
    Except RunError RunReport :=
  if nodes.isEmpty then .error (.validation "no target nodes")
  else
    (catalog.select request.selection).map fun chosen =>
      chosenInTurn b chosen (nodes.map (·.withVars request.vars)) request

/-- The calls for a node, task after task. -/
def callsInTurn (b : Backends) (v : Version) (tasks : List Task) (node : Node) : List Call :=
  tasks.flatMap fun task =>
    match task.select? v with
    | none => []
    | some variant => (runNode b node variant.steps v).calls b node

theorem reportInTurn_node (b : Backends) (steps : List Step) (v : Version) (n : Node) :
    (reportInTurn b steps v n).node = n.id := by
  rw [reportInTurn]
  split <;> rfl

theorem report_ofNode (b : Backends) (steps : List Step) (v : Version) (n : Node) :
    (Execution.ofNode b steps v n).report = reportInTurn b steps v n := by
  show (runNode b n steps v).ending.report n.id = reportInTurn b steps v n
  rw [reportInTurn]
  cases (runNode b n steps v).ending <;> rfl

theorem map_node_reportInTurn (b : Backends) (steps : List Step) (v : Version)
    (nodes : List Node) :
    (nodes.map (reportInTurn b steps v)).map (·.node) = nodes.map (·.id) := by
  rw [List.map_map]
  exact List.map_congr_left fun n _ => reportInTurn_node b steps v n

/-! ### A node -/

/-- Two backends give the same replies for a node. -/
structure Backends.AgreeAt (b b' : Backends) (n : Node) : Prop where
  shell : b.shell n = b'.shell n
  query : b.query n = b'.query n
  parameter : b.parameter n = b'.parameter n

section Node

variable {b b' : Backends} {n : Node}

theorem Backends.AgreeAt.probe (h : b.AgreeAt b' n) (kind : StepKind) (command : String) :
    b.probe n kind command = b'.probe n kind command := by
  cases kind <;>
    simp only [Backends.probe, Backends.runShell, Backends.runQuery, h.shell, h.query, h.parameter]

theorem Backends.AgreeAt.test (h : b.AgreeAt b' n) (kind : StepKind) (expression : String) :
    b.test n kind expression = b'.test n kind expression := by
  cases kind <;>
    simp only [Backends.test, Backends.runShell, Backends.runQuery, h.shell, h.query]

theorem checkOutput_congr (h : b.AgreeAt b' n) (vars : Bindings) (step : Step)
    (command output : String) :
    checkOutput b n vars step command output = checkOutput b' n vars step command output := by
  simp only [checkOutput, h.test]

variable {s t : Session}

theorem runStep_congr (h : ∀ k, (s.backends k).AgreeAt (t.backends k) n) (vars : Bindings)
    (step : Step) : runStep s n vars step = runStep t n vars step := by
  simp only [runStep, (h 0).probe, checkOutput_congr (h 1)]

theorem runSteps_congr (h : ∀ k, (s.backends k).AgreeAt (t.backends k) n) (vars : Bindings)
    (steps : List Step) : runSteps s n vars steps = runSteps t n vars steps := by
  induction steps generalizing s t vars with
  | nil => rfl
  | cons step rest ih =>
    have hrest (count : Nat) := ih (s := s.after count) (t := t.after count)
      fun k => h (k + count)
    simp only [runSteps, runStep_congr h, hrest]

/-- What a node's steps report depends on the replies for the node and on nothing else. -/
theorem reportInTurn_congr (h : b.AgreeAt b' n) (steps : List Step) (v : Version) :
    reportInTurn b steps v n = reportInTurn b' steps v n := by
  have hsteps := runSteps_congr (s := .steady b) (t := .steady b') (fun _ => h)
  simp only [reportInTurn, runNode, Session.runNode, hsteps]

end Node

/-! ### A task -/

section Task

variable (b : Backends) (engine : Engine) (stop : Option Nat) (now : Nat) (task : Task)
  (variant : Variant) (nodes : List Node) (v : Version)

/-- The nodes' reports, those of a task that is carried out on one node after another, are of the
executions that end, that were given up, and that never started. -/
theorem reports_perm :
    let c := (runTask b engine stop now task variant nodes v).course
    (c.finished.map (·.item.report) ++
      (c.abandoned.map (·.item.report) ++ c.unstarted.map (·.report))).Perm
        (nodes.map (reportInTurn b variant.steps v)) := by
  have := (executions_perm b engine stop now task variant nodes v).map (·.report)
  simpa only [Course.jobs, List.map_append, List.append_assoc, List.map_map, Function.comp_def,
    report_ofNode] using this

variable {nodes}

/-- A task with no unfinished node has the report of one that is carried out on one node after
another. -/
theorem report_eq_taskInTurn (hids : (nodes.map (·.id)).Nodup)
    (h : (runTask b engine stop now task variant nodes v).report.unfinished = []) :
    (runTask b engine stop now task variant nodes v).report =
      taskInTurn b nodes v task variant := by
  have hperm := reports_perm b engine stop now task variant nodes v
  have hrest := (unfinished_report_perm b engine stop now task variant v hids).symm
  simp only [h] at hrest
  -- every execution has ended
  obtain ⟨habandoned, hunstarted⟩ := List.append_eq_nil_iff.1 hrest.eq_nil
  simp only [List.map_eq_nil_iff.1 habandoned, List.map_eq_nil_iff.1 hunstarted, List.map_nil,
    List.append_nil] at hperm
  have hnodes : (runTask b engine stop now task variant nodes v).report.nodes =
      (taskInTurn b nodes v task variant).nodes := by
    refine sortBy_eq_of_perm hperm ((hperm.map (·.node)).nodup_iff.2 ?_)
    rw [map_node_reportInTurn]
    exact hids
  have hunfinished : (taskInTurn b nodes v task variant).unfinished = [] := List.mergeSort_nil
  rw [TaskReport.mk.injEq]
  exact ⟨rfl, rfl, rfl, hnodes, h.trans hunfinished.symm⟩

/-- The parts of a list of at most one member. -/
theorem prefix_of_append_perm {α : Type} {l rest whole : List α} (h : (l ++ rest).Perm whole)
    (hone : whole.length ≤ 1) : l <+: whole := by
  match whole, hone with
  | [], _ => exact ⟨rest, h.eq_nil⟩
  | [a], _ => exact ⟨rest, List.perm_singleton.1 h⟩

/-- What a task reports of a node is what the node's steps report on their own, or nothing. -/
theorem prefix_filter_nodes (hids : (nodes.map (·.id)).Nodup) (id : String) :
    (runTask b engine stop now task variant nodes v).report.nodes.filter (·.node == id) <+:
      (taskInTurn b nodes v task variant).nodes.filter (·.node == id) := by
  have hperm := (reports_perm b engine stop now task variant nodes v).filter (·.node == id)
  rw [List.filter_append] at hperm
  show (sortBy _ _).filter _ <+: (sortBy _ _).filter _
  rw [filter_sortBy, filter_sortBy]
  refine prefix_of_append_perm hperm ?_
  have hcount := List.nodup_iff_count_le_one.1 hids id
  rw [← map_node_reportInTurn b variant.steps v, List.count, List.countP_map] at hcount
  rwa [List.countP_eq_length_filter] at hcount

end Task

end Inspection
