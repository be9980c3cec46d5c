import Inspection.Proofs.Report.Order
import Inspection.Proofs.Schedule.Course
import Inspection.Run.TaskRun
import Mathlib.Data.List.Permutation

/-!
# Run — Every node is accounted for

A task on nodes with different ids is a course of executions, one for each node.  What the course
says of the executions, the report says of the nodes.

* `nodes_report`, `unfinished_report_perm`: the nodes that are reported and the unfinished ones, as
  the course has them.
* `runTask_accounts`: each node has a report or is unfinished, and which of the two depends on when
  its execution started and how long it takes.
-/

namespace Inspection

open Schedule (isBefore isBefore_some)

/-- What is left of names that differ once some of them are taken away. -/
theorem filter_not_mem_perm {done rest names : List String} (h : (done ++ rest).Perm names)
    (hnames : names.Nodup) : (names.filter fun name => !done.contains name).Perm rest := by
  have hnodup := h.nodup_iff.2 hnames
  refine (h.symm.filter _).trans (.of_eq ?_)
  rw [List.filter_append, List.filter_eq_nil_iff.2 (by simp), List.nil_append]
  refine List.filter_eq_self.2 fun name hname => ?_
  simpa using fun hdone => List.disjoint_of_nodup_append hnodup hdone hname

theorem eraseDups_eq_self {names : List String} (h : names.Nodup) : names.eraseDups = names := by
  induction names with
  | nil => rfl
  | cons name rest ih =>
    obtain ⟨hne, hrest⟩ := List.nodup_cons.1 h
    have hfilter : (rest.filter fun other => !other == name) = rest :=
      List.filter_eq_self.2 fun other hother => by
        simpa using fun heq : other = name => hne (heq ▸ hother)
    rw [List.eraseDups_cons, hfilter, ih hrest]

theorem Engine.plan_slots_pos (engine : Engine) (stop : Option Nat) :
    0 < (engine.plan stop).slots :=
  Nat.lt_of_lt_of_le Nat.one_pos (le_max_left 1 engine.workers)

theorem Execution.node_report (e : Execution) : e.report.node = e.node.id := by
  rw [Execution.report]
  cases e.run.ending <;> rfl

/-! ### A small run -/

namespace Sample

def nodes : List Node :=
  [{ id := "c", host := "c" }, { id := "b", host := "b" }, { id := "a", host := "a" }]

/-- The shell echoes its commands, but panics on one node. -/
def backends : Backends where
  shell node command :=
    if node.id = "b" then .panicked "no shell" else .ok { stdout := command }
  query _ _ := .ok []
  parameter _ _ := .silent (.ok "")

def variant : Variant where
  range := .any
  steps :=
    [{ index := 1, kind := .ssh, command := "uptime" },
      { index := 2, kind := .ssh, command := "date" }]

def task : Task := { name := "time", info := "", variants := [variant] }

def engine : Engine := { workers := 2, callTime := .uniform 10, grace := 3 }

end Sample

/-! ### A task -/

section Task

variable (b : Backends) (engine : Engine) (stop : Option Nat) (now : Nat) (task : Task)
  (variant : Variant) (nodes : List Node) (v : Version)

/-- Each execution ends, is given up or never starts, and only one of these. -/
theorem executions_perm :
    let c := (runTask b engine stop now task variant nodes v).course
    (c.jobs.map (·.item) ++ c.unstarted).Perm (nodes.map (Execution.ofNode b variant.steps v)) :=
  schedule_perm (engine.plan_slots_pos stop)

theorem nodes_report :
    let run := runTask b engine stop now task variant nodes v
    run.report.nodes = sortBy (·.node) (run.course.finished.map (·.item.report)) :=
  rfl

/-- The nodes of the executions that ended. -/
theorem nodes_report_perm :
    let run := runTask b engine stop now task variant nodes v
    (run.report.nodes.map (·.node)).Perm (run.course.finished.map (·.item.node.id)) := by
  intro run
  rw [nodes_report]
  refine ((sortBy_perm _ _).map _).trans (.of_eq ?_)
  rw [List.map_map]
  exact List.map_congr_left fun j _ => j.item.node_report

/-- The nodes of the executions that ended, of those given up, and of those that never started. -/
theorem ids_perm :
    let c := (runTask b engine stop now task variant nodes v).course
    (c.finished.map (·.item.node.id) ++
      (c.abandoned.map (·.item.node.id) ++ c.unstarted.map (·.node.id))).Perm
        (nodes.map (·.id)) := by
  have := (executions_perm b engine stop now task variant nodes v).map (·.node.id)
  simpa [Course.jobs, List.map_map, Function.comp_def, Execution.ofNode] using this

variable {nodes}

/-- The unfinished nodes are those whose execution did not end. -/
theorem unfinished_report (hids : (nodes.map (·.id)).Nodup) :
    let run := runTask b engine stop now task variant nodes v
    run.report.unfinished = sortBy id ((nodes.map (·.id)).filter fun name =>
      !(run.course.finished.map (·.item.node.id)).contains name) := by
  intro run
  have hreported : ∀ name : String,
      (run.course.finished.map (·.item.report)).any (·.node == name) =
        (run.course.finished.map (·.item.node.id)).contains name := fun name => by
    rw [List.contains_eq_any_beq]
    simp only [List.any_map, Function.comp_def, Execution.node_report]
    simp only [Bool.beq_comm]
  show sortBy id (TaskRun.unfinished nodes (run.course.finished.map (·.item.report))) = _
  rw [TaskRun.unfinished, eraseDups_eq_self hids]
  simp only [hreported]

/-- The nodes of the executions that were given up or never started. -/
theorem unfinished_report_perm (hids : (nodes.map (·.id)).Nodup) :
    let run := runTask b engine stop now task variant nodes v
    run.report.unfinished.Perm
      (run.course.abandoned.map (·.item.node.id) ++ run.course.unstarted.map (·.node.id)) := by
  intro run
  rw [unfinished_report b engine stop now task variant v hids]
  exact (sortBy_perm _ _).trans
    (filter_not_mem_perm (ids_perm b engine stop now task variant nodes v) hids)

/-- Executions of nodes with different ids are told apart by their nodes' ids. -/
theorem execution_eq_of_id (hids : (nodes.map (·.id)).Nodup) {n : Node} (hn : n ∈ nodes)
    {e : Execution} (he : e ∈ nodes.map (Execution.ofNode b variant.steps v))
    (hid : e.node.id = n.id) : e.node = n := by
  obtain ⟨m, hm, rfl⟩ := List.mem_map.1 he
  exact List.inj_on_of_nodup_map hids hm hn hid

/-- The course has executed a node's steps to their end exactly if the node has a report. -/
theorem exists_report_iff (hids : (nodes.map (·.id)).Nodup) {n : Node} (hn : n ∈ nodes) :
    let run := runTask b engine stop now task variant nodes v
    (∃ r ∈ run.report.nodes, r.node = n.id) ↔ ∃ j ∈ run.course.finished, j.item.node = n := by
  intro run
  have hmem : n.id ∈ run.report.nodes.map (·.node) ↔
      n.id ∈ run.course.finished.map (·.item.node.id) :=
    (nodes_report_perm b engine stop now task variant nodes v).mem_iff
  rw [List.mem_map, List.mem_map] at hmem
  refine hmem.trans ⟨fun ⟨j, hj, hid⟩ => ⟨j, hj, ?_⟩, fun ⟨j, hj, hnode⟩ => ⟨j, hj, by rw [hnode]⟩⟩
  refine execution_eq_of_id b variant v hids hn ?_ hid
  have hitem : j.item ∈ run.course.jobs.map (·.item) ++ run.course.unstarted :=
    List.mem_append_left _ (List.mem_map_of_mem (List.mem_append_left _ hj))
  exact (executions_perm b engine stop now task variant nodes v).mem_iff.1 hitem

/-- Each node's id occurs exactly once among the reports and the unfinished nodes. -/
theorem report_perm (hids : (nodes.map (·.id)).Nodup) :
    let run := runTask b engine stop now task variant nodes v
    (run.report.nodes.map (·.node) ++ run.report.unfinished).Perm (nodes.map (·.id)) :=
  ((nodes_report_perm b engine stop now task variant nodes v).append
    (unfinished_report_perm b engine stop now task variant v hids)).trans
      (ids_perm b engine stop now task variant nodes v)

/-- A task that is over before the interrupt leaves no node unfinished. -/
theorem unfinished_eq_nil (hids : (nodes.map (·.id)).Nodup)
    (h : isBefore (runTask b engine stop now task variant nodes v).course.finish stop = true) :
    (runTask b engine stop now task variant nodes v).report.unfinished = [] := by
  obtain ⟨habandoned, hunstarted⟩ :
      (runTask b engine stop now task variant nodes v).course.abandoned = [] ∧
        (runTask b engine stop now task variant nodes v).course.unstarted = [] :=
    schedule_whole (engine.plan_slots_pos stop) h
  refine ((unfinished_report_perm b engine stop now task variant v hids).trans (.of_eq ?_)).eq_nil
  rw [habandoned, hunstarted]
  rfl

section Interrupt

variable {instant : Nat} (hstop : stop = some instant) {j : Job Execution}

include hstop

/-- No execution starts at the interrupt or after it. -/
theorem start_lt_of_mem_jobs
    (hj : j ∈ (runTask b engine stop now task variant nodes v).course.jobs) :
    now ≤ j.start ∧ j.start < instant := by
  obtain ⟨hle, hbefore⟩ := schedule_started (engine.plan_slots_pos stop) hj
  rw [Engine.plan, hstop, isBefore_some] at hbefore
  exact ⟨hle, hbefore⟩

/-- A task is over at the latest when the grace period is; if the interrupt came before the task,
that is at once. -/
theorem finish_runTask_le :
    (runTask b engine stop now task variant nodes v).course.finish ≤
      max now (instant + engine.grace) := by
  have hslots := engine.plan_slots_pos stop
  rcases le_total now instant with hle | hle
  · have := schedule_finish_le hslots now (nodes.map (Execution.ofNode b variant.steps v)) hstop
    rw [max_eq_right hle] at this
    exact this.trans (le_max_right _ _)
  · -- nothing can have started, so nothing keeps the task from being over
    refine (not_lt.1 fun hlt => ?_ : _ ≤ now).trans (le_max_left _ _)
    obtain ⟨j, hj, -, -⟩ := schedule_draining hslots hstop (max_le le_rfl hle) hlt
    obtain ⟨hbegan, hbefore⟩ := start_lt_of_mem_jobs b engine stop now task variant v hstop hj
    exact absurd (hbegan.trans_lt hbefore) (not_lt.2 hle)

/-- A node has a report exactly if its execution comes to an end before the grace period is over. -/
theorem exists_report_iff_due (hids : (nodes.map (·.id)).Nodup) {n : Node} (hn : n ∈ nodes) :
    let run := runTask b engine stop now task variant nodes v
    (∃ r ∈ run.report.nodes, r.node = n.id) ↔ ∃ j ∈ run.course.jobs, j.item.node = n ∧
      j.start + j.item.duration engine.callTime < instant + engine.grace := by
  intro run
  have hslots := engine.plan_slots_pos stop
  refine (exists_report_iff b engine stop now task variant v hids hn).trans ⟨?_, ?_⟩
  · rintro ⟨j, hj, hnode⟩
    have hjobs := List.mem_append_left run.course.abandoned hj
    exact ⟨j, hjobs, hnode, (mem_finished_iff_of_mem_jobs hslots hstop hjobs).1 hj⟩
  · rintro ⟨j, hjobs, hnode, hdue⟩
    exact ⟨j, (mem_finished_iff_of_mem_jobs hslots hstop hjobs).2 hdue, hnode⟩

/-- The task does not end before an execution does, unless it is given up. -/
theorem due_le_finish_or_eq
    (hj : j ∈ (runTask b engine stop now task variant nodes v).course.jobs) :
    let run := runTask b engine stop now task variant nodes v
    j.start + j.item.duration engine.callTime ≤ run.course.finish ∨
      run.course.finish = instant + engine.grace := by
  intro run
  have hslots := engine.plan_slots_pos stop
  rcases List.mem_append.1 hj with hfinished | habandoned
  · obtain ⟨hdue, hle, -⟩ := schedule_finished hslots hfinished
    exact .inl (hdue.ge.trans hle)
  · obtain ⟨stop', hstop', hfinish, -, -⟩ := schedule_abandoned hslots habandoned
    obtain rfl := Option.some.inj (hstop.symm.trans hstop')
    obtain ⟨hle, hlt⟩ := start_lt_of_mem_jobs b engine stop now task variant v hstop hj
    rw [max_eq_right (hle.trans hlt.le)] at hfinish
    exact .inr hfinish

end Interrupt

end Task

/-- **Every node is accounted for.**  Each execution starts at most once.  Each node's id occurs
exactly once among the reports and the unfinished nodes, both in the order of ids; without an
interrupt no node is unfinished.  With one, no execution starts at the interrupt or after it, and a
node has a report exactly if its execution started before the interrupt and takes it to an end
before the grace period is over.  From the interrupt on, the task is over as soon as no execution
that started is left before its end, and at the latest when the grace period is. -/
theorem runTask_accounts (b : Backends) (engine : Engine) (stop : Option Nat) (now : Nat)
    (task : Task) (variant : Variant) (nodes : List Node) (v : Version)
    (hids : (nodes.map (·.id)).Nodup) :
    let run := runTask b engine stop now task variant nodes v
    let due := fun j : Job Execution => j.start + j.item.duration engine.callTime
    (run.course.started.map (·.item) ++ run.course.unstarted).Perm
      (nodes.map (Execution.ofNode b variant.steps v)) ∧
    (run.report.nodes.map (·.node) ++ run.report.unfinished).Perm (nodes.map (·.id)) ∧
    run.report.nodes.Pairwise (fun r r' => textAtMost r.node r'.node = true) ∧
    run.report.unfinished.Pairwise (fun id id' => textAtMost id id' = true) ∧
    (stop = none → run.report.unfinished = []) ∧
    ∀ instant, stop = some instant →
      (∀ j ∈ run.course.started, j.start < instant) ∧
      (∀ n ∈ nodes, (∃ r ∈ run.report.nodes, r.node = n.id) ↔
        ∃ j ∈ run.course.started, j.item.node = n ∧ j.start < instant ∧
          due j < instant + engine.grace) ∧
      (∀ i, max now instant ≤ i → i < run.course.finish →
        ∃ j ∈ run.course.started, j.start ≤ i ∧ i < due j) ∧
      (∀ j ∈ run.course.started, due j ≤ run.course.finish ∨
        run.course.finish = instant + engine.grace) ∧
      run.course.finish ≤ max now (instant + engine.grace) := by
  intro run due
  have hslots := engine.plan_slots_pos stop
  have hjobs : ∀ {j}, j ∈ run.course.started ↔ j ∈ run.course.jobs :=
    run.course.started_perm.mem_iff
  refine ⟨?_, report_perm b engine stop now task variant v hids, pairwise_sortBy _ _,
    pairwise_sortBy _ _, ?_, ?_⟩
  · exact ((run.course.started_perm.map _).append_right _).trans
      (executions_perm b engine stop now task variant nodes v)
  · rintro rfl
    exact unfinished_eq_nil b engine none now task variant v hids rfl
  intro instant hstop
  have hstarted : ∀ {j}, j ∈ run.course.started → j.start < instant := fun hj =>
    (start_lt_of_mem_jobs b engine stop now task variant v hstop (hjobs.1 hj)).2
  refine ⟨fun j hj => hstarted hj, fun n hn => ?_, fun i hle hlt => ?_, fun j hj => ?_,
    finish_runTask_le b engine stop now task variant v hstop⟩
  · refine (exists_report_iff_due b engine stop now task variant v hstop hids hn).trans ⟨?_, ?_⟩
    · rintro ⟨j, hj, hnode, hdue⟩
      exact ⟨j, hjobs.2 hj, hnode, hstarted (hjobs.2 hj), hdue⟩
    · rintro ⟨j, hj, hnode, -, hdue⟩
      exact ⟨j, hjobs.1 hj, hnode, hdue⟩
  · obtain ⟨j, hj, hi⟩ := schedule_draining hslots hstop hle hlt
    exact ⟨j, hjobs.2 hj, hi⟩
  · exact due_le_finish_or_eq b engine stop now task variant v hstop (hjobs.1 hj)

/-- The node that panics gives its slot back at ten; the other two are at work when the interrupt
comes, and are given up at the end of the grace period. -/
theorem runTask_accounts_sample :
    let run := runTask Sample.backends Sample.engine (some 15) 0 Sample.task Sample.variant
      Sample.nodes .latest
    (Sample.nodes.map (·.id)).Nodup ∧
      (run.report.nodes.map (·.node), run.report.unfinished, run.course.finish) =
        (["b"], ["a", "c"], 18) ∧
      (run.report.nodes.map (·.node) ++ run.report.unfinished).Perm ["c", "b", "a"] := by
  have hids : (Sample.nodes.map (·.id)).Nodup := by decide
  refine ⟨hids, by decide_cbv, ?_⟩
  exact (runTask_accounts Sample.backends Sample.engine (some 15) 0 Sample.task Sample.variant
    Sample.nodes .latest hids).2.1

end Inspection
