import Inspection.Proofs.Run.InTurn

/-!
# Run — One task after another

What came of a task is *whole* if it is what comes of it when nothing goes on at the same time, and
*cut* if the interrupt came before that.  The tasks of a run are whole up to the first that is cut,
and none starts after it.

* `runTasks_follows`: that this is so of every run.
* `runTasks_whole`: a run that is over before the interrupt has no cut task.
* `finish_runTasks_le`: a run is over at the latest when the grace period is.
-/

namespace Inspection

open Schedule (isBefore isBefore_some isBefore_of_le)

variable {b : Backends} {engine : Engine} {stop : Option Nat} {nodes : List Node} {v : Version}
  {now : Nat} {task : Task} {tasks : List Task}

/-- A task was carried out to its end, or skipped for want of a variant. -/
inductive Whole (b : Backends) (nodes : List Node) (v : Version) (task : Task) : TaskOutcome → Prop
    where
  | ran {run : TaskRun} {variant : Variant} (hvariant : task.select? v = some variant)
      (hreport : run.report = taskInTurn b nodes v task variant)
      (hcalls : ∀ n ∈ nodes, callsFor n.id run.calls = (runNode b n variant.steps v).calls b n) :
      Whole b nodes v task (.ran run)
  | skipped (hvariant : task.select? v = none) :
      Whole b nodes v task (.skipped (.noVariant task.name v))

/-- A task was interrupted, or skipped as the interrupt had come. -/
inductive Cut (b : Backends) (nodes : List Node) (v : Version) (task : Task) : TaskOutcome → Prop
    where
  | ran {run : TaskRun} {variant : Variant} (hvariant : task.select? v = some variant)
      (hname : run.report.task = task.name) (hunfinished : run.report.unfinished ≠ [])
      (hreports : ∀ id, run.report.nodes.filter (·.node == id) <+:
        (taskInTurn b nodes v task variant).nodes.filter (·.node == id))
      (hcalls : ∀ n ∈ nodes, callsFor n.id run.calls <+: (runNode b n variant.steps v).calls b n) :
      Cut b nodes v task (.ran run)
  | skipped : Cut b nodes v task (.skipped (.ofInterrupt task.name))

/-- The tasks that the interrupt keeps from starting. -/
def interrupted (tasks : List Task) : List TaskOutcome :=
  tasks.map fun task => .skipped (.ofInterrupt task.name)

/-- The tasks are whole up to the first that is cut, and none starts after it. -/
inductive Follows (b : Backends) (nodes : List Node) (v : Version) :
    List Task → List TaskOutcome → Prop where
  | nil : Follows b nodes v [] []
  | whole {task : Task} {tasks : List Task} {outcome : TaskOutcome} {outcomes : List TaskOutcome}
      (h : Whole b nodes v task outcome) (r : Follows b nodes v tasks outcomes) :
      Follows b nodes v (task :: tasks) (outcome :: outcomes)
  | cut {task : Task} {tasks : List Task} {outcome : TaskOutcome} (h : Cut b nodes v task outcome) :
      Follows b nodes v (task :: tasks) (outcome :: interrupted tasks)

/-- A task with no unfinished node is whole. -/
theorem whole_of_unfinished (hids : (nodes.map (·.id)).Nodup) {variant : Variant}
    (hvariant : task.select? v = some variant)
    (h : (runTask b engine stop now task variant nodes v).report.unfinished = []) :
    Whole b nodes v task (.ran (runTask b engine stop now task variant nodes v)) :=
  .ran hvariant (report_eq_taskInTurn b engine stop now task variant v hids h)
    fun _ hn => callsFor_calls_of_unfinished b engine stop now task variant v hids hn h

theorem cut_of_unfinished (hids : (nodes.map (·.id)).Nodup) {variant : Variant}
    (hvariant : task.select? v = some variant)
    (h : (runTask b engine stop now task variant nodes v).report.unfinished ≠ []) :
    Cut b nodes v task (.ran (runTask b engine stop now task variant nodes v)) :=
  .ran hvariant rfl h (prefix_filter_nodes b engine stop now task variant v hids)
    fun _ hn => prefix_callsFor_calls b engine stop now task variant v hids hn

/-- A task is whole, or it is cut and the interrupt has come when it is over. -/
theorem runOrSkip_whole_or_cut (b : Backends) (engine : Engine) (stop : Option Nat)
    (hids : (nodes.map (·.id)).Nodup) (v : Version) (now : Nat) (task : Task) :
    Whole b nodes v task (runOrSkip b engine stop nodes v now task).1 ∨
      Cut b nodes v task (runOrSkip b engine stop nodes v now task).1 ∧
        isBefore (runOrSkip b engine stop nodes v now task).2 stop = false := by
  rw [runOrSkip]
  split
  · rename_i hlate
    exact .inr ⟨.skipped, by simpa using hlate⟩
  split
  · rename_i hvariant
    exact .inl (.skipped hvariant)
  · rename_i variant hvariant
    by_cases h : (runTask b engine stop now task variant nodes v).report.unfinished = []
    · exact .inl (whole_of_unfinished hids hvariant h)
    · -- a task that is over before the interrupt leaves no node unfinished
      refine .inr ⟨cut_of_unfinished hids hvariant h, ?_⟩
      exact Bool.eq_false_iff.2 fun hbefore =>
        h (unfinished_eq_nil b engine stop now task variant v hids hbefore)

theorem runTasks_cons (b : Backends) (engine : Engine) (stop : Option Nat) (nodes : List Node)
    (v : Version) (now : Nat) (task : Task) (rest : List Task) :
    runTasks b engine stop nodes v now (task :: rest) =
      let first := runOrSkip b engine stop nodes v now task
      let others := runTasks b engine stop nodes v first.2 rest
      (first.1 :: others.1, others.2) :=
  rfl

/-- From the interrupt on, no task starts and no time passes. -/
theorem runTasks_of_not_isBefore (b : Backends) (engine : Engine) (nodes : List Node) (v : Version)
    (h : isBefore now stop = false) (tasks : List Task) :
    runTasks b engine stop nodes v now tasks = (interrupted tasks, now) := by
  induction tasks with
  | nil => rfl
  | cons task rest ih => simp [runTasks, runOrSkip, h, ih, interrupted]

theorem runTasks_follows (b : Backends) (engine : Engine) (stop : Option Nat)
    (hids : (nodes.map (·.id)).Nodup) (v : Version) (now : Nat) (tasks : List Task) :
    Follows b nodes v tasks (runTasks b engine stop nodes v now tasks).1 := by
  induction tasks generalizing now with
  | nil => exact .nil
  | cons task rest ih =>
    rcases runOrSkip_whole_or_cut b engine stop hids v now task with h | ⟨h, hlate⟩
    · exact .whole h (ih _)
    · rw [runTasks_cons]
      simp only [runTasks_of_not_isBefore b engine nodes v hlate]
      exact .cut h

/-! ### The end of a run -/

theorem le_runOrSkip (b : Backends) (engine : Engine) (stop : Option Nat) (nodes : List Node)
    (v : Version) (now : Nat) (task : Task) :
    now ≤ (runOrSkip b engine stop nodes v now task).2 := by
  rw [runOrSkip]
  split
  · exact le_rfl
  split
  · exact le_rfl
  · exact schedule_began_le (engine.plan_slots_pos stop)

theorem le_runTasks (b : Backends) (engine : Engine) (stop : Option Nat) (nodes : List Node)
    (v : Version) (now : Nat) (tasks : List Task) :
    now ≤ (runTasks b engine stop nodes v now tasks).2 := by
  induction tasks generalizing now with
  | nil => exact le_rfl
  | cons task rest ih => exact (le_runOrSkip b engine stop nodes v now task).trans (ih _)

/-- A run that is over before the interrupt has no cut task. -/
theorem runTasks_whole (hids : (nodes.map (·.id)).Nodup)
    (h : isBefore (runTasks b engine stop nodes v now tasks).2 stop = true) :
    List.Forall₂ (Whole b nodes v) tasks (runTasks b engine stop nodes v now tasks).1 := by
  induction tasks generalizing now with
  | nil => exact .nil
  | cons task rest ih =>
    refine .cons ?_ (ih h)
    refine (runOrSkip_whole_or_cut b engine stop hids v now task).resolve_right fun hcut => ?_
    have hbefore : isBefore (runOrSkip b engine stop nodes v now task).2 stop = true :=
      isBefore_of_le (le_runTasks b engine stop nodes v _ rest) h
    exact absurd hbefore (Bool.eq_false_iff.1 hcut.2)

theorem finish_runOrSkip_le (b : Backends) (task : Task) {instant : Nat}
    (hstop : stop = some instant) (hnow : now ≤ instant + engine.grace) :
    (runOrSkip b engine stop nodes v now task).2 ≤ instant + engine.grace := by
  rw [runOrSkip]
  split
  · exact hnow
  split
  · exact hnow
  · rename_i variant _
    exact (finish_runTask_le b engine stop now task variant v hstop).trans (max_le hnow le_rfl)

/-- A run is over at the latest when the grace period is. -/
theorem finish_runTasks_le {instant : Nat} (hstop : stop = some instant)
    (hnow : now ≤ instant + engine.grace) :
    (runTasks b engine stop nodes v now tasks).2 ≤ instant + engine.grace := by
  induction tasks generalizing now with
  | nil => exact hnow
  | cons task rest ih =>
    exact ih (finish_runOrSkip_le b task hstop hnow)

/-! ### What a run comes to -/

section Whole

variable {outcome : TaskOutcome} {outcomes : List TaskOutcome}

theorem Whole.report? (h : Whole b nodes v task outcome) :
    outcome.report? = (task.select? v).map (taskInTurn b nodes v task) := by
  cases h with
  | ran hvariant hreport _ => rw [hvariant, TaskOutcome.report?, hreport, Option.map_some]
  | skipped hvariant => rw [hvariant, TaskOutcome.report?, Option.map_none]

theorem Whole.skipped? (h : Whole b nodes v task outcome) :
    outcome.skipped? =
      if (task.select? v).isNone then some (.noVariant task.name v) else none := by
  cases h with
  | ran hvariant _ _ => simp [hvariant, TaskOutcome.skipped?]
  | skipped hvariant => simp [hvariant, TaskOutcome.skipped?]

theorem Whole.callsFor (h : Whole b nodes v task outcome) {n : Node} (hn : n ∈ nodes) :
    callsFor n.id outcome.calls = callsInTurn b v [task] n := by
  cases h with
  | ran hvariant _ hcalls => simp [TaskOutcome.calls, callsInTurn, hvariant, hcalls n hn]
  | skipped hvariant => simp [TaskOutcome.calls, Inspection.callsFor, callsInTurn, hvariant]

theorem reports_of_whole (h : List.Forall₂ (Whole b nodes v) tasks outcomes) :
    outcomes.filterMap (·.report?) = reportsInTurn b nodes v tasks := by
  induction h with
  | nil => rfl
  | cons h _ ih =>
    rw [List.filterMap_cons, h.report?, ih, reportsInTurn, reportsInTurn, List.filterMap_cons]

theorem skipped_of_whole (h : List.Forall₂ (Whole b nodes v) tasks outcomes) :
    outcomes.filterMap (·.skipped?) = skippedInTurn v tasks := by
  induction h with
  | nil => rfl
  | cons h _ ih =>
    rw [List.filterMap_cons, h.skipped?, ih, skippedInTurn, skippedInTurn, List.filterMap_cons]

theorem callsInTurn_cons (b : Backends) (v : Version) (task : Task) (rest : List Task) (n : Node) :
    callsInTurn b v (task :: rest) n = callsInTurn b v [task] n ++ callsInTurn b v rest n := by
  simp [callsInTurn]

theorem calls_of_whole (h : List.Forall₂ (Whole b nodes v) tasks outcomes) {n : Node}
    (hn : n ∈ nodes) :
    callsFor n.id (outcomes.flatMap (·.calls)) = callsInTurn b v tasks n := by
  induction h with
  | nil => rfl
  | cons h _ ih => rw [List.flatMap_cons, callsFor_append, h.callsFor hn, ih, ← callsInTurn_cons]

end Whole

end Inspection
