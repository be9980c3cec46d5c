import Inspection.Proofs.Catalog.Choice
import Inspection.Proofs.Run.Interrupted

/-!
# Run — Every task in its place

The tasks that a request chooses are those that had their turn and, once the interrupt has come, all
that were still to have it.  A task that had its turn was run exactly if one of its variants is for
the version.

* `Filed`: what comes of a task that has its turn.
* `runTasks_filed`: the tasks of a run up to the interrupt, and from there on.
* `runChosen_files`: where the names of the tasks stand in a report.
* `runCatalog_files`: the same for a request, or why it is refused.
-/

namespace Inspection

open Schedule (isBefore)

/-- A variant of the task is for the version. -/
def Task.isFor (t : Task) (v : Version) : Bool := t.variants.any (·.range.contains v)

theorem Task.isSome_select? (t : Task) (v : Version) : (t.select? v).isSome = t.isFor v := by
  rw [Task.select?, Task.isFor, Bool.eq_iff_iff, List.find?_isSome, List.any_eq_true]

/-- A task that had its turn was run, or skipped for want of a variant. -/
inductive Filed (b : Backends) (engine : Engine) (stop : Option Nat) (nodes : List Node)
    (v : Version) (task : Task) : TaskOutcome → Prop where
  | ran {variant : Variant} (now : Nat) (hvariant : task.select? v = some variant) :
      Filed b engine stop nodes v task (.ran (runTask b engine stop now task variant nodes v))
  | skipped (hvariant : task.select? v = none) :
      Filed b engine stop nodes v task (.skipped (.noVariant task.name v))

/-- Skipped are those that had their turn and have no variant, and those that had not. -/
def skippedOf (v : Version) (started late : List Task) : List SkippedTask :=
  (started.filter (!·.isFor v)).map (fun t => .noVariant t.name v) ++
    late.map fun t => .ofInterrupt t.name

variable {b : Backends} {engine : Engine} {stop : Option Nat} {nodes : List Node} {v : Version}
  {now : Nat} {task : Task} {tasks : List Task} {outcome : TaskOutcome}
  {outcomes : List TaskOutcome}

theorem runOrSkip_filed (h : isBefore now stop = true) :
    Filed b engine stop nodes v task (runOrSkip b engine stop nodes v now task).1 := by
  simp only [runOrSkip, h, Bool.not_true, Bool.false_eq_true, if_false]
  split
  · rename_i hvariant
    exact .skipped hvariant
  · rename_i variant hvariant
    exact .ran now hvariant

/-- The tasks have their turns one after another until the interrupt, and none has it after that. -/
theorem runTasks_filed (b : Backends) (engine : Engine) (stop : Option Nat) (nodes : List Node)
    (v : Version) (now : Nat) (tasks : List Task) :
    ∃ started late outcomes, tasks = started ++ late ∧
      (runTasks b engine stop nodes v now tasks).1 = outcomes ++ interrupted late ∧
      List.Forall₂ (Filed b engine stop nodes v) started outcomes ∧
      (late ≠ [] → isBefore (runTasks b engine stop nodes v now tasks).2 stop = false) := by
  induction tasks generalizing now with
  | nil => exact ⟨[], [], [], rfl, rfl, .nil, fun h => absurd rfl h⟩
  | cons task rest ih =>
    cases hnow : isBefore now stop with
    | false =>
      -- the interrupt has come and no time passes any more, so all that are left are late
      rw [runTasks_of_not_isBefore b engine nodes v hnow]
      exact ⟨[], task :: rest, [], rfl, rfl, .nil, fun _ => hnow⟩
    | true =>
      obtain ⟨started, late, outcomes, htasks, houtcomes, hfiled, hlate⟩ :=
        ih (runOrSkip b engine stop nodes v now task).2
      rw [runTasks_cons]
      refine ⟨task :: started, late, _ :: outcomes, congrArg (task :: ·) htasks,
        congrArg (_ :: ·) houtcomes, .cons (runOrSkip_filed hnow) hfiled, hlate⟩

/-! ### Names in a report -/

theorem Filed.report? (h : Filed b engine stop nodes v task outcome) :
    outcome.report?.map (·.task) = if task.isFor v then some task.name else none := by
  rw [← Task.isSome_select?]
  cases h with
  | ran now hvariant => simp [hvariant, TaskOutcome.report?, runTask, TaskReport.ofNodes]
  | skipped hvariant => simp [hvariant, TaskOutcome.report?]

theorem Filed.skipped? (h : Filed b engine stop nodes v task outcome) :
    outcome.skipped? = if task.isFor v then none else some (.noVariant task.name v) := by
  rw [← Task.isSome_select?]
  cases h with
  | ran now hvariant => simp [hvariant, TaskOutcome.skipped?]
  | skipped hvariant => simp [hvariant, TaskOutcome.skipped?]

theorem reports_of_filed (h : List.Forall₂ (Filed b engine stop nodes v) tasks outcomes) :
    (outcomes.filterMap (·.report?)).map (·.task) =
      (tasks.filter (·.isFor v)).map (·.name) := by
  rw [List.map_filterMap]
  induction h with
  | nil => rfl
  | @cons task _ _ _ h _ ih =>
    rw [List.filterMap_cons, h.report?, ih, List.filter_cons]
    cases task.isFor v <;> rfl

theorem skipped_of_filed (h : List.Forall₂ (Filed b engine stop nodes v) tasks outcomes) :
    outcomes.filterMap (·.skipped?) =
      (tasks.filter (!·.isFor v)).map fun t => .noVariant t.name v := by
  induction h with
  | nil => rfl
  | @cons task _ _ _ h _ ih =>
    rw [List.filterMap_cons, h.skipped?, ih, List.filter_cons]
    cases task.isFor v <;> rfl

theorem skipped_interrupted (tasks : List Task) :
    (interrupted tasks).filterMap (·.skipped?) = tasks.map fun t => .ofInterrupt t.name := by
  induction tasks with
  | nil => rfl
  | cons task rest ih => exact congrArg (_ :: ·) ih

/-! ### A whole run -/

/-- The names of the reports are those of the tasks that had their turn and have a variant; skipped
are the others that had their turn, and then those that had not. -/
theorem runChosen_files (b : Backends) (engine : Engine) (stop : Option Nat) (chosen : Catalog)
    (nodes : List Node) (request : RunRequest) :
    let run := runChosen b engine stop chosen nodes request
    ∃ started late, chosen.tasks = started ++ late ∧
      (run.report.tasks.map (·.task)).Perm
        ((started.filter (·.isFor request.version)).map (·.name)) ∧
      run.report.skipped = skippedOf request.version started late ∧
      (late ≠ [] → isBefore run.finish stop = false) := by
  obtain ⟨started, late, outcomes, htasks, houtcomes, hfiled, hlate⟩ :=
    runTasks_filed b engine stop nodes request.version 0 chosen.tasks
  refine ⟨started, late, htasks, ?_, ?_, hlate⟩
  · rw [← reports_of_filed hfiled, ← List.append_nil (outcomes.filterMap _),
      ← report_interrupted late, ← List.filterMap_append, ← houtcomes]
    exact (sortBy_perm _ _).map _
  · rw [skippedOf, ← skipped_of_filed hfiled, ← skipped_interrupted, ← List.filterMap_append,
      ← houtcomes]
    rfl

/-- The names under which tasks are reported or skipped are their names. -/
theorem names_perm (started late : List Task) (v : Version) :
    ((started.filter (·.isFor v)).map (·.name) ++ (skippedOf v started late).map (·.task)).Perm
      ((started ++ late).map (·.name)) := by
  have hperm := (List.filter_append_perm (·.isFor v) started).map (·.name)
  rw [List.map_append] at hperm
  rw [skippedOf, List.map_append, List.map_map, List.map_map, ← List.append_assoc, List.map_append]
  exact hperm.append_right _

/-- **No task is lost, carried out twice or put in the wrong place.**  A request is refused if there
are no nodes or for a pattern at fault, and before any backend is asked: the refusal is the same
whatever the backends do.  Otherwise the names of the reports and of the skipped tasks are those of
the tasks that the selection chooses, each as often as it stands in the catalog, and the broken
tasks are those it chooses, in their order.  A task that had its turn is skipped exactly if none of
its variants is for the version; those that had not are the last ones of the catalog, all of them
are skipped by the interrupt, and it has come. -/
theorem runCatalog_files (b : Backends) (engine : Engine) (stop : Option Nat) (catalog : Catalog)
    (nodes : List Node) (request : RunRequest) :
    let selection := request.selection
    (∃ e, (∀ b' engine' stop', runCatalog b' engine' stop' catalog nodes request = .error e) ∧
      (nodes = [] ∧ e = .validation "no target nodes" ∨
        nodes ≠ [] ∧ ∃ p ∈ selection.patterns, ∃ fault,
          Selection.fault? p = some fault ∧ e = Selection.refusal p fault)) ∨
    ∃ run, runCatalog b engine stop catalog nodes request = .ok run ∧ nodes ≠ [] ∧
      (∀ p ∈ selection.patterns, Selection.fault? p = none) ∧
      (run.report.tasks.map (·.task) ++ run.report.skipped.map (·.task)).Perm
        ((catalog.tasks.filter fun t => selection.chooses t.name).map (·.name)) ∧
      run.report.broken = catalog.broken.filter (fun t => selection.chooses t.task) ∧
      ∃ started late, catalog.tasks.filter (fun t => selection.chooses t.name) = started ++ late ∧
        (run.report.tasks.map (·.task)).Perm
          ((started.filter (·.isFor request.version)).map (·.name)) ∧
        run.report.skipped = skippedOf request.version started late ∧
        (late ≠ [] → isBefore run.finish stop = false) := by
  intro selection
  by_cases hnodes : nodes = []
  -- neither refusal mentions the backends
  · exact .inl ⟨_, fun _ _ _ => by rw [runCatalog, hnodes]; rfl, .inl ⟨hnodes, rfl⟩⟩
  have hsome : nodes.isEmpty = false := by simpa using hnodes
  rcases catalog.select_ok_or_error selection with ⟨hp, hselect⟩ | ⟨p, hp, fault, hfault, hselect⟩
  · right
    have hrun : runCatalog b engine stop catalog nodes request =
        .ok (runChosen b engine stop (catalog.chosenBy selection)
          (nodes.map (·.withVars request.vars)) request) := by
      rw [runCatalog, hsome, hselect]
      rfl
    obtain ⟨started, late, htasks, hreports, hskipped, hlate⟩ :=
      runChosen_files b engine stop (catalog.chosenBy selection)
        (nodes.map (·.withVars request.vars)) request
    refine ⟨_, hrun, hnodes, hp, ?_, rfl, started, late, htasks, hreports, hskipped, hlate⟩
    rw [hskipped]
    refine (hreports.append_right _).trans ?_
    have hnames := names_perm started late request.version
    rwa [← htasks] at hnames
  · refine .inl ⟨_, fun _ _ _ => ?_, .inr ⟨hnodes, p, hp, fault, hfault, rfl⟩⟩
    rw [runCatalog, hsome, hselect]
    rfl

end Inspection
