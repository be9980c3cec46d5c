import Inspection.Proofs.Report.Status
import Inspection.View.Html

/-!
# View — What rows show of a status

The rows of a check, the rows of a display and the status of a task are made from its report apart
from each other.  They tell one story: both lists have a row for each step that was recorded, for
each abort and for each node without a report, in the same order, and the status of the task is the
most serious of what its rows show in a check.

* `TaskReport.keys`: which rows a task has.
* `TaskReport.worst_checkRows`: the status from the rows.
* `TaskReport.rows_agree`: the two lists and the status, and where the rows are shown.
-/

namespace Inspection

/-- What a row of a check is about: the task, the node and the step. -/
def CheckRow.key (x : CheckRow) : String × String × String := (x.task, x.node, x.step)

/-- What a row of a display is about. -/
def DisplayRow.key (x : DisplayRow) : String × String × String := (x.task, x.node, x.step)

/-- What the rows of a node are about: each step that was recorded, and the one that was not. -/
def NodeReport.keys (task : String) (r : NodeReport) : List (String × String × String) :=
  r.steps.map (fun s => (task, r.node, Text.natText s.index))
    ++ match r.outcome with
      | .completed => []
      | .aborted step _ => [(task, r.node, Text.natText step)]

/-- What the rows of a task are about: node by node in the order of the report, then the nodes
without a report. -/
def TaskReport.keys (r : TaskReport) : List (String × String × String) :=
  r.nodes.flatMap (·.keys r.task) ++ r.unfinished.map fun node => (r.task, node, "-")

/-! ### A node -/

namespace NodeReport

theorem map_key_checkRows (task : String) (r : NodeReport) :
    (r.checkRows task).map CheckRow.key = r.keys task := by
  cases houtcome : r.outcome <;>
    simp [checkRows, keys, problem?, houtcome, CheckRow.key, Function.comp_def]

theorem map_key_displayRows (task : String) (r : NodeReport) :
    (r.displayRows task).map DisplayRow.key = r.keys task := by
  cases houtcome : r.outcome <;>
    simp [displayRows, keys, problem?, houtcome, DisplayRow.key, Function.comp_def]

/-- The status of a node is the most serious of its rows. -/
theorem worst_checkRows (task : String) (r : NodeReport) :
    Severity.worst ((r.checkRows task).map (·.severity)) = r.status := by
  cases houtcome : r.outcome with
  | completed => simp [checkRows, problem?, status, houtcome, Function.comp_def]
  | aborted step reason =>
    rw [status, houtcome, Severity.worst_eq_error_iff]
    simp [checkRows, problem?, houtcome]

end NodeReport

/-! ### A task -/

namespace TaskReport

theorem map_key_checkRows (r : TaskReport) : r.checkRows.map CheckRow.key = r.keys := by
  simp [checkRows, keys, List.map_flatMap, NodeReport.map_key_checkRows, CheckRow.key,
    Function.comp_def]

theorem map_key_displayRows (r : TaskReport) : r.displayRows.map DisplayRow.key = r.keys := by
  simp [displayRows, keys, List.map_flatMap, NodeReport.map_key_displayRows, DisplayRow.key,
    Function.comp_def]

theorem key_mem_keys_of_checkRows {r : TaskReport} {x : CheckRow} (hx : x ∈ r.checkRows) :
    (x.task, x.node, x.step) ∈ r.keys := by
  rw [← r.map_key_checkRows]
  exact List.mem_map_of_mem hx

theorem key_mem_keys_of_displayRows {r : TaskReport} {y : DisplayRow} (hy : y ∈ r.displayRows) :
    (y.task, y.node, y.step) ∈ r.keys := by
  rw [← r.map_key_displayRows]
  exact List.mem_map_of_mem hy

/-- What a row is about: a step of a node, by its number, or a node without a report. -/
theorem mem_keys {r : TaskReport} {task node step : String} (h : (task, node, step) ∈ r.keys) :
    task = r.task
      ∧ ((∃ n ∈ r.nodes, n.node = node ∧ ∃ i, Text.natText i = step)
        ∨ node ∈ r.unfinished ∧ step = "-") := by
  simp only [keys, List.mem_append, List.mem_flatMap, List.mem_map, Prod.mk.injEq] at h
  rcases h with ⟨n, hn, hkey⟩ | ⟨_, hnode, rfl, rfl, rfl⟩
  · simp only [NodeReport.keys, List.mem_append, List.mem_map, Prod.mk.injEq] at hkey
    rcases hkey with ⟨s, -, rfl, rfl, rfl⟩ | hkey
    · exact ⟨rfl, .inl ⟨n, hn, rfl, s.index, rfl⟩⟩
    · cases houtcome : n.outcome with
      | completed => simp [houtcome] at hkey
      | aborted i reason =>
        simp only [houtcome, List.mem_singleton, Prod.mk.injEq] at hkey
        obtain ⟨rfl, rfl, rfl⟩ := hkey
        exact ⟨rfl, .inl ⟨n, hn, rfl, i, rfl⟩⟩
  · exact ⟨rfl, .inr ⟨hnode, rfl⟩⟩

/-- **The status of a task is the most serious of its rows in a check.** -/
theorem worst_checkRows (r : TaskReport) :
    Severity.worst (r.checkRows.map (·.severity)) = r.status := by
  by_cases hnone : r.unfinished = []
  · simp [checkRows, status, hnone, List.map_flatMap, Severity.worst_flatMap,
      NodeReport.worst_checkRows]
  · obtain ⟨node, hnode⟩ := List.exists_mem_of_ne_nil _ hnone
    rw [status_eq_error_of_unfinished hnone, Severity.worst_eq_error_iff]
    exact List.mem_map.2 ⟨_, List.mem_append_right _ (List.mem_map_of_mem hnode), rfl⟩

end TaskReport

/-- The status of a run from which no task is missing is the most serious of the rows of all its
tasks. -/
theorem RunReport.worst_checkRows {r : RunReport} (h : r.isIncomplete = false) :
    Severity.worst ((r.tasks.flatMap TaskReport.checkRows).map (·.severity)) = r.status := by
  rw [RunReport.status, h, List.map_flatMap, Severity.worst_flatMap]
  simp [TaskReport.worst_checkRows]

/-! ### Where the rows are shown -/

variable {r : RunReport} {t : TaskReport} {x : CheckRow}

theorem Terminal.checkCells_mem_table (ht : t ∈ r.tasks) (hmode : r.mode = .check)
    (hx : x ∈ t.checkRows) : Terminal.checkCells x ∈ (Terminal.table r).rows := by
  rw [Terminal.table, hmode]
  exact List.mem_map_of_mem (List.mem_flatMap_of_mem ht hx)

theorem Html.checkRow_infix_page (ht : t ∈ r.tasks) (hmode : r.mode = .check)
    (hx : x ∈ t.checkRows) : Html.checkRow x <:+: Html.page r := by
  have hrow : Html.checkRow x <:+: Html.rows r.mode t := by
    rw [hmode]
    exact List.infix_cons (List.infix_of_mem_flatten (List.mem_map_of_mem hx))
  have hsection : Html.rows r.mode t <:+: Html.taskSection r.mode t := List.infix_append ..
  have hpage : Html.taskSection r.mode t <:+: Html.page r := by
    have htasks : Html.taskSection r.mode t <:+: r.tasks.flatMap (Html.taskSection r.mode) :=
      List.infix_of_mem_flatten (List.mem_map_of_mem ht)
    rw [Html.page, List.append_assoc]
    exact htasks.trans (List.infix_append ..)
  exact (hrow.trans hsection).trans hpage

/-- **Table and page show what they end with.**  The rows of a task are the same ones in a check and
in a display; none of them shows anything more serious than the status of the task, and unless that
is `pass`, one of them shows it.  A check has all of them in its table and on its page, and what it
ends with is the most serious of all rows, unless a task is missing from it. -/
theorem TaskReport.rows_agree (t : TaskReport) :
    t.checkRows.map CheckRow.key = t.keys
      ∧ t.displayRows.map DisplayRow.key = t.keys
      ∧ Severity.worst (t.checkRows.map (·.severity)) = t.status
      ∧ (∀ x ∈ t.checkRows, x.severity.rank ≤ t.status.rank)
      ∧ (t.status = .pass ∨ ∃ x ∈ t.checkRows, x.severity = t.status)
      ∧ (∀ r : RunReport, t ∈ r.tasks → r.mode = .check → ∀ x ∈ t.checkRows,
        Terminal.checkCells x ∈ (Terminal.table r).rows ∧ Html.checkRow x <:+: Html.page r)
      ∧ ∀ r : RunReport, r.isIncomplete = false →
        Severity.worst ((r.tasks.flatMap TaskReport.checkRows).map (·.severity)) = r.status := by
  obtain ⟨hbound, hattained⟩ := Severity.worst_eq_iff.1 t.worst_checkRows
  refine ⟨t.map_key_checkRows, t.map_key_displayRows, t.worst_checkRows, ?_, ?_, ?_,
    fun r => RunReport.worst_checkRows⟩
  · intro x hx
    exact hbound _ (List.mem_map_of_mem hx)
  · exact hattained.imp_right List.mem_map.1
  · intro r ht hmode x hx
    exact ⟨Terminal.checkCells_mem_table ht hmode hx, Html.checkRow_infix_page ht hmode hx⟩

namespace Sample

/-- A task that passed on one node, was aborted on another and never came to a third. -/
def interruptedTask : TaskReport where
  task := "disk"
  info := ""
  range := .any
  nodes :=
    [{ node := "a"
       steps := [⟨1, .ssh, "df", "42", .passed, .pass, none⟩] },
      { node := "b", steps := [], outcome := .aborted 1 "no route" }]
  unfinished := ["c"]

/-- A check that had only this task to run. -/
def interruptedCheck : RunReport where
  version := .latest
  mode := .check
  tasks := [interruptedTask]

end Sample

/-- The error that the task ends with stands in a row for the node without a report. -/
theorem TaskReport.rows_agree_interrupted :
    let task := Sample.interruptedTask
    let check := Sample.interruptedCheck
    task ∈ check.tasks ∧ check.mode = .check ∧ check.isIncomplete = false
      ∧ task.keys = [("disk", "a", "1"), ("disk", "b", "1"), ("disk", "c", "-")]
      ∧ task.checkRows.map CheckRow.key = task.keys
      ∧ ["disk", "c", "-", "ERROR", unfinishedText] ∈ (Terminal.table check).rows
      ∧ Severity.worst (task.checkRows.map (·.severity)) = .error := by
  intro task check
  obtain ⟨hcheck, -, hworst, -, -, hshown, -⟩ := task.rows_agree
  have hmem : task ∈ check.tasks := List.mem_singleton_self _
  have hrow : ⟨"disk", "c", "-", .error, unfinishedText⟩ ∈ task.checkRows := by decide
  exact ⟨hmem, rfl, by decide, by decide, hcheck, (hshown _ hmem rfl _ hrow).1, hworst⟩

end Inspection
