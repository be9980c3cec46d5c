import Inspection.Proofs.Run.Outcome

/-!
# Run — Where reports and calls come from

All that a run reports and calls is what the steps of its tasks report and call on their nodes, each
task and node on its own.

* `Assigned`: the steps of a run and the nodes they are carried out on.
* `MadeOfAssigned`, `runChosen_assigned`: that every report and every call is of such steps.
-/

namespace Inspection

/-- The steps are those of a task for the version, and are carried out on the node. -/
def Assigned (tasks : List Task) (nodes : List Node) (v : Version) (n : Node)
    (steps : List Step) : Prop :=
  n ∈ nodes ∧ ∃ task ∈ tasks, ∃ variant, task.select? v = some variant ∧ variant.steps = steps

/-- All that a run reports and calls is what such steps report and call, each on its own. -/
structure MadeOfAssigned (b : Backends) (chosen : Catalog) (nodes : List Node)
    (request : RunRequest) (run : CatalogRun) : Prop where
  reports : ∀ t ∈ run.report.tasks, ∀ r ∈ t.nodes, ∃ n steps,
    Assigned chosen.tasks nodes request.version n steps ∧
      r = reportInTurn b steps request.version (n.withVars request.vars)
  calls : ∀ c ∈ run.calls, ∃ n steps, Assigned chosen.tasks nodes request.version n steps ∧
    c.node = n.id ∧ c.call ∈ (runNode b (n.withVars request.vars) steps request.version).calls b
      (n.withVars request.vars)

variable {b : Backends} {engine : Engine} {stop : Option Nat} {nodes : List Node} {v : Version}
  {now : Nat} {tasks : List Task} {task : Task} {variant : Variant} {chosen : Catalog}
  {request : RunRequest} {run : CatalogRun}

theorem exists_of_mem_runTasks {outcome : TaskOutcome}
    (h : outcome ∈ (runTasks b engine stop nodes v now tasks).1) :
    (∃ skipped, outcome = .skipped skipped) ∨ ∃ task ∈ tasks, ∃ variant now,
      task.select? v = some variant ∧
        outcome = .ran (runTask b engine stop now task variant nodes v) := by
  induction tasks generalizing now with
  | nil => cases h
  | cons task rest ih =>
    rw [runTasks_cons] at h
    obtain rfl | h := List.mem_cons.1 h
    · rw [runOrSkip]
      split
      · exact .inl ⟨_, rfl⟩
      split
      · exact .inl ⟨_, rfl⟩
      · rename_i variant hvariant
        exact .inr ⟨task, List.mem_cons_self, variant, now, hvariant, rfl⟩
    · refine (ih h).imp_right ?_
      rintro ⟨task', htask, hran⟩
      exact ⟨task', List.mem_cons_of_mem _ htask, hran⟩

/-- A call that a task makes is made by its steps on the call's node. -/
theorem exists_node_of_mem_calls {c : TimedCall}
    (h : c ∈ (runTask b engine stop now task variant nodes v).calls) :
    ∃ n ∈ nodes, c.node = n.id ∧ c.call ∈ (runNode b n variant.steps v).calls b n := by
  obtain ⟨⟨job, isCut⟩, hshare, hc⟩ := mem_courseCalls.1 h
  have hjob : job ∈ (runTask b engine stop now task variant nodes v).course.jobs := by
    rw [← Course.map_fst_shares]
    exact List.mem_map_of_mem hshare
  obtain ⟨hnode, hitem⟩ := item_eq_ofNode b engine stop now task variant v hjob
  refine ⟨job.item.node, hnode, node_of_mem_jobCalls hc, ?_⟩
  have hcall : c.call ∈ job.item.calls := by
    rw [← map_call_jobCalls_false engine.callTime job]
    exact List.mem_map_of_mem ((prefix_jobCalls engine.callTime isCut job).subset hc)
  rw [hitem] at hcall
  exact hcall

theorem runChosen_assigned {nodes : List Node}
    (hrun : runChosen b engine stop chosen (nodes.map (·.withVars request.vars)) request = run) :
    MadeOfAssigned b chosen nodes request run := by
  subst hrun
  constructor
  · intro t ht r hr
    obtain ⟨outcome, houtcome, hreport⟩ := List.mem_filterMap.1 ((sortBy_perm _ _).mem_iff.1 ht)
    obtain ⟨skipped, rfl⟩ | ⟨task, htask, variant, now, hvariant, rfl⟩ :=
      exists_of_mem_runTasks houtcome
    · cases hreport
    · obtain rfl := Option.some.inj hreport
      obtain ⟨n', hn', rfl⟩ := eq_reportInTurn_of_mem hr
      obtain ⟨n, hn, rfl⟩ := List.mem_map.1 hn'
      exact ⟨n, variant.steps, ⟨hn, task, htask, variant, hvariant, rfl⟩, rfl⟩
  · intro c hc
    obtain ⟨outcome, houtcome, hcall⟩ := List.mem_flatMap.1 hc
    obtain ⟨skipped, rfl⟩ | ⟨task, htask, variant, now, hvariant, rfl⟩ :=
      exists_of_mem_runTasks houtcome
    · cases hcall
    · obtain ⟨n', hn', hnode, hmade⟩ := exists_node_of_mem_calls hcall
      obtain ⟨n, hn, rfl⟩ := List.mem_map.1 hn'
      exact ⟨n, variant.steps, ⟨hn, task, htask, variant, hvariant, rfl⟩, hnode, hmade⟩

end Inspection
