import Inspection.Proofs.Report.Status
import Inspection.Proofs.Run.Sequential

/-!
# Run — What an interrupt leaves

A run that is interrupted is the beginning of the run that is not: up to the task that is cut, its
tasks are those of the other run, and from there on it says what is missing.

* `Follows.prefix_reportsOn`, `Follows.prefix_callsFor`: no report and no call that the other run
  does not have.
* `Follows.whole_or_cut`, `status_eq_error_of_cut`: a report without a gap, or a run in error.
* `runCatalog_interrupted`: the two runs side by side.
-/

namespace Inspection

variable {b : Backends} {nodes : List Node} {v : Version} {task : Task} {tasks : List Task}
  {outcome : TaskOutcome} {outcomes : List TaskOutcome}

theorem report_interrupted (tasks : List Task) :
    (interrupted tasks).filterMap (·.report?) = [] := by
  induction tasks with
  | nil => rfl
  | cons task rest ih => exact ih

theorem calls_interrupted (tasks : List Task) : (interrupted tasks).flatMap (·.calls) = [] := by
  induction tasks with
  | nil => rfl
  | cons task rest ih => exact ih

/-! ### One task -/

theorem filterMap_cons_eq_append {α β : Type} (f : α → Option β) (a : α) (rest : List α) :
    (a :: rest).filterMap f = (f a).toList ++ rest.filterMap f := by
  rw [List.filterMap_cons]
  cases f a <;> rfl

/-- What a task that is cut reports of a node is what the whole task reports, or nothing. -/
theorem Cut.prefix_reportsOn (h : Cut b nodes v task outcome) (name id : String) :
    reportsOn name id outcome.report?.toList <+:
      reportsOn name id ((task.select? v).map (taskInTurn b nodes v task)).toList := by
  cases h with
  | @ran run variant hvariant hname _ hreports _ =>
    have htask : (taskInTurn b nodes v task variant).task = task.name := rfl
    rw [hvariant, TaskOutcome.report?, Option.map_some, Option.toList_some, Option.toList_some,
      reportsOn_cons, reportsOn_cons, hname, htask]
    split
    · simpa [reportsOn] using hreports id
    · exact List.prefix_rfl
  | skipped => exact List.nil_prefix

theorem Cut.prefix_callsFor (h : Cut b nodes v task outcome) {n : Node} (hn : n ∈ nodes) :
    callsFor n.id outcome.calls <+: callsInTurn b v [task] n := by
  cases h with
  | ran hvariant _ _ _ hcalls =>
    simpa [callsInTurn, hvariant, TaskOutcome.calls] using hcalls n hn
  | skipped => exact List.nil_prefix

/-- A task that is cut makes its run an error. -/
theorem status_eq_error_of_cut (h : Cut b nodes v task outcome) (hmem : outcome ∈ outcomes)
    (version : Version) (mode : RunMode) (broken : List BrokenTask) :
    (RunReport.ofTasks version mode (outcomes.filterMap (·.report?))
      (outcomes.filterMap (·.skipped?)) broken).status = .error := by
  cases h with
  | @ran run _ _ _ hunfinished _ _ =>
    have htask : run.report ∈ outcomes.filterMap (·.report?) :=
      List.mem_filterMap.2 ⟨_, hmem, rfl⟩
    exact RunReport.status_eq_error_of_task ((sortBy_perm _ _).mem_iff.2 htask)
      (TaskReport.status_eq_error_of_unfinished hunfinished)
  | skipped =>
    have htask : SkippedTask.ofInterrupt task.name ∈ outcomes.filterMap (·.skipped?) :=
      List.mem_filterMap.2 ⟨_, hmem, rfl⟩
    exact RunReport.status_eq_error_of_skip htask rfl

/-! ### All tasks -/

theorem Follows.whole_or_cut (h : Follows b nodes v tasks outcomes) :
    List.Forall₂ (Whole b nodes v) tasks outcomes ∨
      ∃ task, ∃ outcome ∈ outcomes, Cut b nodes v task outcome := by
  induction h with
  | nil => exact .inl .nil
  | whole h _ ih =>
    rcases ih with hall | ⟨task, outcome, hmem, hcut⟩
    · exact .inl (.cons h hall)
    · exact .inr ⟨task, outcome, List.mem_cons_of_mem _ hmem, hcut⟩
  | cut h => exact .inr ⟨_, _, List.mem_cons_self, h⟩

/-- Of a node and under the name of a task, nothing is reported that is not reported when one thing
goes on after another. -/
theorem Follows.prefix_reportsOn (h : Follows b nodes v tasks outcomes) (name id : String) :
    reportsOn name id (outcomes.filterMap (·.report?)) <+:
      reportsOn name id (reportsInTurn b nodes v tasks) := by
  induction h with
  | nil => exact List.prefix_rfl
  | whole h _ ih =>
    rw [reportsInTurn, filterMap_cons_eq_append, filterMap_cons_eq_append, reportsOn_append,
      reportsOn_append, h.report?]
    exact (List.prefix_append_right_inj _).2 ih
  | cut h =>
    rw [reportsInTurn, filterMap_cons_eq_append, filterMap_cons_eq_append, report_interrupted,
      List.append_nil, reportsOn_append]
    exact (h.prefix_reportsOn name id).trans (List.prefix_append _ _)

/-- For a node, no call is made that is not made when one thing goes on after another. -/
theorem Follows.prefix_callsFor (h : Follows b nodes v tasks outcomes) {n : Node} (hn : n ∈ nodes) :
    callsFor n.id (outcomes.flatMap (·.calls)) <+: callsInTurn b v tasks n := by
  induction h with
  | nil => exact List.prefix_rfl
  | @whole task rest _ _ h _ ih =>
    rw [List.flatMap_cons, callsFor_append, h.callsFor hn, callsInTurn_cons b v task rest]
    exact (List.prefix_append_right_inj _).2 ih
  | @cut task rest _ h =>
    rw [List.flatMap_cons, calls_interrupted, List.append_nil, callsInTurn_cons b v task rest]
    exact (h.prefix_callsFor hn).trans (List.prefix_append _ _)

/-! ### Two runs -/

section Runs

variable (b : Backends) (engine : Engine) (stop : Option Nat) (chosen : Catalog)
  (hids : (nodes.map (·.id)).Nodup) (request : RunRequest)

include hids

/-- A run has the report of one thing after another, or it is in error. -/
theorem report_eq_or_error :
    (runChosen b engine stop chosen nodes request).report = chosenInTurn b chosen nodes request ∨
      (runChosen b engine stop chosen nodes request).report.status = .error := by
  rcases (runTasks_follows b engine stop hids request.version 0 chosen.tasks).whole_or_cut with
    hwhole | ⟨task, outcome, hmem, hcut⟩
  · left
    rw [runChosen, chosenInTurn, ← reports_of_whole hwhole, ← skipped_of_whole hwhole]
  · exact .inr (status_eq_error_of_cut hcut hmem request.version request.mode chosen.broken)

theorem prefix_reportsOn_runChosen (name id : String) :
    reportsOn name id (runChosen b engine stop chosen nodes request).report.tasks <+:
      reportsOn name id (chosenInTurn b chosen nodes request).tasks := by
  simp only [runChosen, chosenInTurn, RunReport.ofTasks, reportsOn_sortBy]
  exact (runTasks_follows b engine stop hids request.version 0 chosen.tasks).prefix_reportsOn
    name id

theorem prefix_callsFor_runChosen {n : Node} (hn : n ∈ nodes) :
    callsFor n.id (runChosen b engine stop chosen nodes request).calls <+:
      callsInTurn b request.version chosen.tasks n :=
  (runTasks_follows b engine stop hids request.version 0 chosen.tasks).prefix_callsFor hn

/-- A run without an interrupt has the report of one thing after another, and makes its calls. -/
theorem runChosen_none :
    (runChosen b engine none chosen nodes request).report = chosenInTurn b chosen nodes request ∧
      ∀ n ∈ nodes, callsFor n.id (runChosen b engine none chosen nodes request).calls =
        callsInTurn b request.version chosen.tasks n :=
  ⟨runChosen_report hids rfl, fun _ hn => runChosen_calls hids rfl hn⟩

omit hids

/-- **No silent truncation.**  A run that an interrupt may disturb either has the report of the run
that none disturbs, or its status is an error and it exits with one.  What it reports of a node
under the name of a task is the beginning of what the other run does, and so are the calls that it
makes for a node; and it is over at the latest when the grace period is. -/
theorem runCatalog_interrupted (b : Backends) (engine : Engine) (instant : Nat) (catalog : Catalog)
    (nodes : List Node) (request : RunRequest) (hids : (nodes.map (·.id)).Nodup) :
    (∃ e, runCatalog b engine (some instant) catalog nodes request = .error e ∧
      runCatalog b engine none catalog nodes request = .error e) ∨
    ∃ cut whole, runCatalog b engine (some instant) catalog nodes request = .ok cut ∧
      runCatalog b engine none catalog nodes request = .ok whole ∧
      (cut.report = whole.report ∨ cut.report.status = .error ∧ cut.report.exitCode = 1) ∧
      (∀ t ∈ cut.report.tasks, ∀ r ∈ t.nodes,
        ∃ t' ∈ whole.report.tasks, t'.task = t.task ∧ r ∈ t'.nodes) ∧
      (∀ task id, reportsOn task id cut.report.tasks <+: reportsOn task id whole.report.tasks) ∧
      (∀ n ∈ nodes, callsFor n.id cut.calls <+: callsFor n.id whole.calls) ∧
      cut.finish ≤ instant + engine.grace := by
  rcases runCatalog_error_or_ok b catalog nodes request with ⟨e, hrun, -⟩ | ⟨chosen, -, hrun, -⟩
  · exact .inl ⟨e, hrun engine _, hrun engine _⟩
  rw [← ids_withVars nodes request.vars] at hids
  obtain ⟨hreport, hcalls⟩ := runChosen_none b engine chosen hids request
  have hbegins := prefix_reportsOn_runChosen b engine (some instant) chosen hids request
  rw [← hreport] at hbegins
  refine .inr ⟨_, _, hrun engine _, hrun engine _, ?_, fun t ht r hr => ?_, hbegins,
    fun n hn => ?_, ?_⟩
  · rw [hreport]
    exact (report_eq_or_error b engine _ chosen hids request).imp_right fun herror =>
      ⟨herror, RunReport.exitCode_eq_one herror⟩
  · have hmem := (hbegins t.task r.node).subset (mem_reportsOn.2 ⟨t, ht, rfl, hr, rfl⟩)
    obtain ⟨t', ht', hname, hr', -⟩ := mem_reportsOn.1 hmem
    exact ⟨t', ht', hname, hr'⟩
  · have hmem : n.withVars request.vars ∈ nodes.map (·.withVars request.vars) :=
      List.mem_map_of_mem hn
    have hid : (n.withVars request.vars).id = n.id := rfl
    rw [← hid, hcalls _ hmem]
    exact prefix_callsFor_runChosen b engine _ chosen hids request hmem
  · exact finish_runTasks_le rfl (Nat.zero_le _)

/-- At fifteen the task has two nodes at work, and another task is to come. -/
theorem runCatalog_interrupted_sample :
    (Sample.nodes.map (·.id)).Nodup ∧
    ∃ cut whole, runCatalog Sample.backends Sample.engine (some 15) Sample.catalog Sample.nodes
        Sample.request = .ok cut ∧
      runCatalog Sample.backends Sample.engine none Sample.catalog Sample.nodes Sample.request =
        .ok whole ∧
      (cut.report = whole.report ∨ cut.report.status = .error ∧ cut.report.exitCode = 1) ∧
      cut.report.tasks.map (·.unfinished) = [["a", "c"]] ∧
      whole.report.tasks.map (·.unfinished) = [[]] ∧
      cut.finish ≤ 18 := by
  have hids : (Sample.nodes.map (·.id)).Nodup := by decide
  have hcut : (runCatalog Sample.backends Sample.engine (some 15) Sample.catalog Sample.nodes
      Sample.request).toOption.map (·.report.tasks.map (·.unfinished)) = some [["a", "c"]] := by
    decide_cbv
  have hwhole : (runCatalog Sample.backends Sample.engine none Sample.catalog Sample.nodes
      Sample.request).toOption.map (·.report.tasks.map (·.unfinished)) = some [[]] := by
    decide_cbv
  rcases runCatalog_interrupted Sample.backends Sample.engine 15 Sample.catalog Sample.nodes
      Sample.request hids with ⟨e, he, -⟩ | ⟨cut, whole, hok, hok', hreport, -, -, -, hfinish⟩
  · rw [he] at hcut
    cases hcut
  · rw [hok] at hcut
    rw [hok'] at hwhole
    exact ⟨hids, cut, whole, hok, hok', hreport, Option.some.inj hcut, Option.some.inj hwhole,
      hfinish⟩

end Runs

end Inspection
