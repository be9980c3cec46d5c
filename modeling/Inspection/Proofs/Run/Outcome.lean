import Inspection.Proofs.Run.Carried
import Inspection.Proofs.Run.Filed

/-!
# Run — What a status says

Each record of a report is that of a step of some task's variant, carried out on some node, and
counts as the report type of that step says.  So the status of a run tells what has been left out,
and else what has failed.

* `Executed`: a step that a run has carried out, and its record.
* `exists_executed`: every record is that of such a step.
* `runCatalog_status`: each status, and the exit code, by what was carried out.
-/

namespace Inspection

namespace Sample

/-- A check that fails where a query has no rows. -/
def check (index : Nat) (reportType : ReportType) : Step :=
  { index, reportType, kind := .sql, command := "SELECT 1"
    rule := some ⟨.expression, .scalar "1 = 0"⟩, failureMessage := some "off" }

/-- Both checks fail, and only the second counts; another task has no variant. -/
def checkedCatalog : Catalog where
  tasks :=
    [{ task with variants := [{ range := .any, steps := [check 1 .execution, check 2 .warning] }] },
      { task with name := "none", variants := [] }]

end Sample

theorem Verdict.severity_ne_error (v : Verdict) (t : ReportType) : v.severity t ≠ .error := by
  cases v <;> cases t <;> decide

theorem Verdict.severity_eq_critical_iff {v : Verdict} {t : ReportType} :
    v.severity t = .critical ↔ v = .failed ∧ t = .critical := by
  cases v <;> cases t <;> decide

theorem Verdict.severity_eq_warning_iff {v : Verdict} {t : ReportType} :
    v.severity t = .warning ↔ v = .failed ∧ t = .warning := by
  cases v <;> cases t <;> decide

/-- A step that was carried out on a node for one of the tasks, and its record. -/
inductive Executed (b : Backends) (nodes : List Node) (v : Version) (tasks : List Task)
    (report : RunReport) (step : Step) (r : StepResult) : Prop where
  | intro {t : TaskReport} {task : Task} {variant : Variant} {n : Node} (ht : t ∈ report.tasks)
      (htask : task ∈ tasks) (hname : t.task = task.name)
      (hvariant : task.select? v = some variant) (hn : n ∈ nodes)
      (hreport : reportInTurn b variant.steps v n ∈ t.nodes)
      (hstep : (step, r) ∈ variant.steps.zip (reportInTurn b variant.steps v n).steps)

/-- A check has failed that counts so. -/
def Failed (b : Backends) (nodes : List Node) (v : Version) (tasks : List Task)
    (report : RunReport) (t : ReportType) : Prop :=
  ∃ step r, Executed b nodes v tasks report step r ∧ r.verdict = .failed ∧ step.reportType = t

variable {b : Backends} {engine : Engine} {stop : Option Nat} {nodes : List Node} {v : Version}
  {now : Nat} {task : Task} {tasks : List Task} {outcome : TaskOutcome}
  {outcomes : List TaskOutcome}

/-! ### Records and steps -/

/-- A record counts as the report type of its step says. -/
theorem Records.severity_eq {s : Session} {n : Node} {vars : Bindings} {step : Step}
    {r : StepResult} (h : Records s n vars step r) :
    r.severity = r.verdict.severity step.reportType := by
  cases h <;> rfl

theorem Carried.severity_eq {s : Session} {n : Node} {vars : Bindings} {steps : List Step}
    {results : List StepResult} (h : Carried s n vars steps results) :
    List.Forall₂ (fun step r => r.severity = r.verdict.severity step.reportType) steps results := by
  induction h with
  | nil => exact .nil
  | cons h _ ih => exact .cons h.severity_eq ih

/-- Each record of a node is that of the step in the same place, and counts as that says. -/
theorem zip_reportInTurn (b : Backends) (steps : List Step) (v : Version) (n : Node) :
    (∀ r ∈ (reportInTurn b steps v n).steps,
      ∃ step, (step, r) ∈ steps.zip (reportInTurn b steps v n).steps) ∧
    ∀ step r, (step, r) ∈ steps.zip (reportInTurn b steps v n).steps →
      r.severity = r.verdict.severity step.reportType := by
  obtain ⟨done, rest, rfl, h⟩ := exists_carried (.steady b) n steps v
  have hreport : ((Session.steady b).runNode n (done ++ rest) v).ending.report n.id =
      reportInTurn b (done ++ rest) v n := report_ofNode b (done ++ rest) v n
  rw [hreport] at h
  generalize (reportInTurn b (done ++ rest) v n).steps = results at h
  -- the steps that were not carried out have no record to be paired with
  have hzip : (done ++ rest).zip results = done.zip results := by
    rw [← List.append_nil results, List.zip_append h.length_eq.symm, List.zip_nil_right,
      List.append_nil, List.append_nil]
  rw [hzip]
  constructor
  · intro r hr
    rw [← List.map_snd_zip h.length_eq.le] at hr
    obtain ⟨⟨step, r⟩, hmem, rfl⟩ := List.mem_map.1 hr
    exact ⟨step, hmem⟩
  · intro step r hmem
    exact (List.forall₂_iff_zip.1 h.severity_eq).2 hmem

theorem Executed.mem {report : RunReport} {step : Step} {r : StepResult}
    (h : Executed b nodes v tasks report step r) :
    ∃ t ∈ report.tasks, ∃ n ∈ t.nodes, r ∈ n.steps := by
  cases h with
  | intro ht _ _ _ _ hreport hstep => exact ⟨_, ht, _, hreport, (List.of_mem_zip hstep).2⟩

theorem Executed.severity_eq {report : RunReport} {step : Step} {r : StepResult}
    (h : Executed b nodes v tasks report step r) :
    r.severity = r.verdict.severity step.reportType := by
  cases h with
  | intro _ _ _ _ _ _ hstep => exact (zip_reportInTurn b _ v _).2 _ _ hstep

/-- What a task reports of a node is what the steps of its variant report. -/
theorem eq_reportInTurn_of_mem {variant : Variant} {r : NodeReport}
    (h : r ∈ (runTask b engine stop now task variant nodes v).report.nodes) :
    ∃ n ∈ nodes, r = reportInTurn b variant.steps v n := by
  have hperm := reports_perm b engine stop now task variant nodes v
  have hmem := hperm.mem_iff.1 (List.mem_append_left _ ((sortBy_perm _ _).mem_iff.1 h))
  obtain ⟨n, hn, hr⟩ := List.mem_map.1 hmem
  exact ⟨n, hn, hr.symm⟩

theorem exists_filed (h : List.Forall₂ (Filed b engine stop nodes v) tasks outcomes)
    {t : TaskReport} (ht : t ∈ outcomes.filterMap (·.report?)) :
    ∃ task ∈ tasks, ∃ variant now, task.select? v = some variant ∧
      t = (runTask b engine stop now task variant nodes v).report := by
  induction h with
  | nil => cases ht
  | @cons task outcome _ _ h _ ih =>
    rw [filterMap_cons_eq_append, List.mem_append] at ht
    rcases ht with ht | ht
    · cases h with
      | @ran variant now hvariant =>
        exact ⟨task, List.mem_cons_self, variant, now, hvariant, List.mem_singleton.1 ht⟩
      | skipped _ => cases ht
    · obtain ⟨task', htask', hrest⟩ := ih ht
      exact ⟨task', List.mem_cons_of_mem _ htask', hrest⟩

/-- Every record of a report is that of a step which was carried out. -/
theorem exists_executed (b : Backends) (engine : Engine) (stop : Option Nat) (chosen : Catalog)
    (nodes : List Node) (request : RunRequest) :
    let report := (runChosen b engine stop chosen nodes request).report
    ∀ t ∈ report.tasks, ∀ n ∈ t.nodes, ∀ r ∈ n.steps,
      ∃ step, Executed b nodes request.version chosen.tasks report step r := by
  intro report t ht n hn r hr
  obtain ⟨started, late, outcomes, htasks, houtcomes, hfiled, -⟩ :=
    runTasks_filed b engine stop nodes request.version 0 chosen.tasks
  have hmem : t ∈ (runTasks b engine stop nodes request.version 0 chosen.tasks).1.filterMap
      (·.report?) := (sortBy_perm _ _).mem_iff.1 ht
  rw [houtcomes, List.filterMap_append, report_interrupted, List.append_nil] at hmem
  obtain ⟨task, htask, variant, now, hvariant, rfl⟩ := exists_filed hfiled hmem
  obtain ⟨n', hn', rfl⟩ := eq_reportInTurn_of_mem hn
  obtain ⟨step, hstep⟩ := (zip_reportInTurn b variant.steps request.version n').1 r hr
  exact ⟨step, .intro ht (htasks ▸ List.mem_append_left late htask) rfl hvariant hn' hn hstep⟩

/-! ### From records to a status -/

section Status

variable {report : RunReport}
  (hall : ∀ t ∈ report.tasks, ∀ n ∈ t.nodes, ∀ r ∈ n.steps,
    ∃ step, Executed b nodes v tasks report step r)

include hall

theorem mem_severities_iff {s : Severity} :
    s ∈ report.severities ↔ ∃ step r, Executed b nodes v tasks report step r ∧
      r.verdict.severity step.reportType = s := by
  rw [RunReport.mem_severities]
  constructor
  · rintro ⟨t, ht, n, hn, r, hr, rfl⟩
    obtain ⟨step, hstep⟩ := hall t ht n hn r hr
    exact ⟨step, r, hstep, hstep.severity_eq.symm⟩
  · rintro ⟨step, r, hstep, rfl⟩
    obtain ⟨t, ht, n, hn, hr⟩ := hstep.mem
    exact ⟨t, ht, n, hn, r, hr, hstep.severity_eq⟩

theorem critical_mem_severities :
    .critical ∈ report.severities ↔ Failed b nodes v tasks report .critical := by
  simp only [mem_severities_iff hall, Verdict.severity_eq_critical_iff, Failed]

theorem warning_mem_severities :
    .warning ∈ report.severities ↔ Failed b nodes v tasks report .warning := by
  simp only [mem_severities_iff hall, Verdict.severity_eq_warning_iff, Failed]

theorem error_notMem_severities : .error ∉ report.severities := by
  rw [mem_severities_iff hall]
  rintro ⟨step, r, -, h⟩
  exact Verdict.severity_ne_error _ _ h

theorem status_eq_error_iff : report.status = .error ↔ report.Gap := by
  refine ⟨fun h => ?_, RunReport.status_of_gap⟩
  by_contra hgap
  rw [RunReport.status_of_not_gap hgap, Severity.worst_eq_error_iff] at h
  exact error_notMem_severities hall h

theorem status_eq_critical_iff :
    report.status = .critical ↔ ¬report.Gap ∧ Failed b nodes v tasks report .critical := by
  rw [RunReport.status_eq_iff (by decide),
    Severity.worst_eq_critical_iff (error_notMem_severities hall), critical_mem_severities hall]

theorem status_eq_warning_iff :
    report.status = .warning ↔ ¬report.Gap ∧ ¬Failed b nodes v tasks report .critical ∧
      Failed b nodes v tasks report .warning := by
  rw [RunReport.status_eq_iff (by decide),
    Severity.worst_eq_warning_iff (error_notMem_severities hall), critical_mem_severities hall,
    warning_mem_severities hall]

theorem status_eq_pass_iff :
    report.status = .pass ↔ ¬report.Gap ∧ ¬Failed b nodes v tasks report .critical ∧
      ¬Failed b nodes v tasks report .warning := by
  rw [RunReport.status_eq_iff (by decide),
    Severity.worst_eq_pass_iff (error_notMem_severities hall), critical_mem_severities hall,
    warning_mem_severities hall]

end Status

/-- Where nothing has been left out, every step of every task was carried out on every node. -/
theorem executed_of_not_gap (b : Backends) (engine : Engine) (stop : Option Nat) (chosen : Catalog)
    (request : RunRequest) (hids : (nodes.map (·.id)).Nodup)
    (hgap : ¬(runChosen b engine stop chosen nodes request).report.Gap) {task : Task}
    {variant : Variant} {n : Node} (htask : task ∈ chosen.tasks)
    (hvariant : task.select? request.version = some variant) (hn : n ∈ nodes) :
    ∃ results, (runNode b n variant.steps request.version).ending = .reported results .completed ∧
      List.Forall₂ (Executed b nodes request.version chosen.tasks
        (runChosen b engine stop chosen nodes request).report) variant.steps results := by
  -- a run that is not whole would be in error, and so have a gap
  have hreport := (report_eq_or_error b engine stop chosen hids request).resolve_right fun herror =>
    hgap ((status_eq_error_iff (exists_executed b engine stop chosen nodes request)).1 herror)
  rw [hreport] at hgap ⊢
  have ht : taskInTurn b nodes request.version task variant ∈
      (chosenInTurn b chosen nodes request).tasks :=
    (sortBy_perm _ _).mem_iff.2 (List.mem_filterMap.2 ⟨task, htask, by rw [hvariant]; rfl⟩)
  have hnode : reportInTurn b variant.steps request.version n ∈
      (taskInTurn b nodes request.version task variant).nodes :=
    (sortBy_perm _ _).mem_iff.2 (List.mem_map_of_mem hn)
  -- nor was the node aborted, and a panic would count as that
  have hcompleted : ¬(reportInTurn b variant.steps request.version n).isAborted = true :=
    fun haborted => hgap (.aborted ht hnode haborted)
  rw [reportInTurn] at hcompleted
  split at hcompleted
  · rename_i results outcome hending
    cases outcome with
    | aborted step reason => exact absurd rfl hcompleted
    | completed =>
      have hsteps : (reportInTurn b variant.steps request.version n).steps = results := by
        rw [reportInTurn, hending]
      refine ⟨results, hending, List.forall₂_iff_zip.2
        ⟨(carried_of_completed hending).length_eq.symm, fun hmem => ?_⟩⟩
      exact .intro ht htask rfl hvariant hn hnode (hsteps ▸ hmem)
  · exact absurd rfl hcompleted

/-- **The status of a run.**  It is an error exactly if the report has a gap.  Else it is critical
if the check of a step has failed whose report type is critical; else a warning if that of a step
of that type has; and else a pass.  The exit code is one for an error and for what is critical, and
zero otherwise.  So neither a task without a variant nor a failure of report type `execution` makes
a difference.

The steps meant are those that were carried out: each record of the report is that of one, and
unless there is a gap they are all steps of all chosen tasks on all nodes. -/
theorem runCatalog_status (b : Backends) (engine : Engine) (stop : Option Nat) (catalog : Catalog)
    (nodes : List Node) (request : RunRequest) (run : CatalogRun)
    (h : runCatalog b engine stop catalog nodes request = .ok run) :
    ∃ chosen, catalog.select request.selection = .ok chosen ∧
      let report := run.report
      let nodes' := nodes.map (·.withVars request.vars)
      let executed := Executed b nodes' request.version chosen.tasks report
      let failed := Failed b nodes' request.version chosen.tasks report
      (report.status = .error ↔ report.Gap) ∧
      (report.status = .critical ↔ ¬report.Gap ∧ failed .critical) ∧
      (report.status = .warning ↔ ¬report.Gap ∧ ¬failed .critical ∧ failed .warning) ∧
      (report.status = .pass ↔ ¬report.Gap ∧ ¬failed .critical ∧ ¬failed .warning) ∧
      (report.exitCode = if report.status = .error ∨ report.status = .critical then 1 else 0) ∧
      ({ report with skipped := report.skipped.filter (·.interrupted) } : RunReport).status =
        report.status ∧
      (∀ step r, executed step r → step.reportType = .execution → r.severity = .pass) ∧
      (∀ t ∈ report.tasks, ∀ n ∈ t.nodes, ∀ r ∈ n.steps, ∃ step, executed step r) ∧
      ((nodes.map (·.id)).Nodup → ¬report.Gap → ∀ task ∈ chosen.tasks, ∀ variant,
        task.select? request.version = some variant → ∀ n ∈ nodes',
          ∃ results, (runNode b n variant.steps request.version).ending =
              .reported results .completed ∧
            List.Forall₂ executed variant.steps results) := by
  rcases runCatalog_error_or_ok b catalog nodes request with ⟨e, hrun, -⟩ | ⟨chosen, hchosen, -, -⟩
  · rw [hrun] at h
    cases h
  have hrun := eq_runChosen h hchosen
  subst hrun
  have hall := exists_executed b engine stop chosen (nodes.map (·.withVars request.vars)) request
  refine ⟨chosen, hchosen, status_eq_error_iff hall, status_eq_critical_iff hall,
    status_eq_warning_iff hall, status_eq_pass_iff hall, RunReport.exitCode_eq _,
    RunReport.status_filter_skipped _, fun step r hstep htype => ?_, hall, ?_⟩
  · rw [hstep.severity_eq, htype]
    cases r.verdict <;> rfl
  · intro hids hgap task htask variant hvariant n hn
    rw [← ids_withVars nodes request.vars] at hids
    exact executed_of_not_gap b engine stop chosen request hids hgap htask hvariant hn

/-- The failure of report type `execution` does not show, and neither does the task without a
variant. -/
theorem runCatalog_status_sample :
    ∃ run chosen, runCatalog Sample.backends Sample.engine none Sample.checkedCatalog Sample.nodes
        Sample.request = .ok run ∧
      Sample.checkedCatalog.select Sample.request.selection = .ok chosen ∧
      (run.report.status, run.report.exitCode) = (.warning, 0) ∧
      run.report.skipped.map (·.task) = ["none"] ∧ ¬run.report.Gap ∧
      Failed Sample.backends (Sample.nodes.map (·.withVars Sample.request.vars)) .latest
        chosen.tasks run.report .warning := by
  have hstatus : (runCatalog Sample.backends Sample.engine none Sample.checkedCatalog Sample.nodes
      Sample.request).toOption.map (fun run => ((run.report.status, run.report.exitCode),
        run.report.skipped.map (·.task))) = some ((.warning, 0), ["none"]) := by
    decide_cbv
  cases hrun : runCatalog Sample.backends Sample.engine none Sample.checkedCatalog Sample.nodes
      Sample.request with
  | error e =>
    rw [hrun] at hstatus
    cases hstatus
  | ok run =>
    rw [hrun] at hstatus
    obtain ⟨hstatus, hskipped⟩ := Prod.mk.inj (Option.some.inj hstatus)
    obtain ⟨chosen, hchosen, -, -, hwarning, -⟩ := runCatalog_status Sample.backends Sample.engine
      none Sample.checkedCatalog Sample.nodes Sample.request run hrun
    obtain ⟨hgap, -, hfailed⟩ := hwarning.1 (Prod.mk.inj hstatus).1
    exact ⟨run, chosen, rfl, hchosen, hstatus, hskipped, hgap, hfailed⟩

end Inspection
