import Inspection.Proofs.Run.Calls

/-!
# Run — Nodes at a time

A task carries out its steps on as many nodes at a time as there are workers, and on at least one.
A moment of a task is a schedule that its events lead to.

* `shellCallsAt_calls_le`, `mostShellCalls_le`: the bound on the calls of the shell.
* `runTask_slots`: at every moment each slot is free or held by one execution, and none is free
  while the clock moves before the interrupt and a node waits.
-/

namespace Inspection

open Schedule (Reached Ordered next? isBefore countAt)
open TaskRun (jobCalls)

section Task

variable (b : Backends) (engine : Engine) (stop : Option Nat) (now : Nat) (task : Task)
  (variant : Variant) (nodes : List Node) (v : Version)

/-- Where the executions of a task may stand. -/
def Moment (s : Schedule Execution) : Prop :=
  Reached (engine.plan stop)
    (.initial (engine.plan stop).slots now (nodes.map (Execution.ofNode b variant.steps v))) s

/-- The run of a task ends at a moment at which nothing is left to happen. -/
theorem exists_moment_over :
    ∃ s, Moment b engine stop now variant nodes v s ∧ next? (engine.plan stop) s = none ∧
      s.running = [] ∧ (runTask b engine stop now task variant nodes v).course = s.course := by
  obtain ⟨s, r, hnext, hrunning, -, hs⟩ := exists_over (engine.plan_slots_pos stop) now
    (nodes.map (Execution.ofNode b variant.steps v))
  exact ⟨s, r, hnext, hrunning, hs⟩

theorem countAt_started_le (i : Nat) :
    countAt (runTask b engine stop now task variant nodes v).course.started i ≤
      max 1 engine.workers := by
  rw [Schedule.countAt_perm (Course.started_perm _)]
  exact schedule_bound (engine.plan_slots_pos stop) i

/-- The calls of the shell that go on at an instant belong to as many executions, as long as none
of these has been given up. -/
theorem shellCallsAt_calls_le_of_abandoned {i : Nat}
    (h : ∀ j ∈ (runTask b engine stop now task variant nodes v).course.abandoned, i < j.finish) :
    shellCallsAt engine.callTime i (runTask b engine stop now task variant nodes v).calls ≤
      max 1 engine.workers := by
  have hslots := engine.plan_slots_pos stop
  refine (shellCallsAt_courseCalls_le (fun j hj => ?_) h).trans (schedule_bound hslots i)
  exact (schedule_finished hslots hj).1

/-- While a task goes on, no more calls of the shell are going on than nodes may be carried out. -/
theorem shellCallsAt_calls_le {i : Nat}
    (h : i < (runTask b engine stop now task variant nodes v).course.finish) :
    shellCallsAt engine.callTime i (runTask b engine stop now task variant nodes v).calls ≤
      max 1 engine.workers := by
  refine shellCallsAt_calls_le_of_abandoned b engine stop now task variant nodes v fun j hj => ?_
  obtain ⟨-, -, -, hfinish, -⟩ := schedule_abandoned (engine.plan_slots_pos stop) hj
  exact h.trans_eq hfinish.symm

/-- Where an execution was given up, all calls have been made before that. -/
theorem instant_lt_of_mem_abandoned {c : TimedCall} {j : Job Execution}
    (hj : j ∈ (runTask b engine stop now task variant nodes v).course.abandoned)
    (hc : c ∈ (runTask b engine stop now task variant nodes v).calls) : c.instant < j.finish := by
  have hslots := engine.plan_slots_pos stop
  obtain ⟨instant, hstop, hgrace, hfinish, -⟩ := schedule_abandoned hslots hj
  obtain ⟨a, ha, hmade⟩ := mem_courseCalls.1 hc
  rcases List.mem_append.1 ha with ha | ha
  · obtain ⟨k, hk, rfl⟩ := List.mem_map.1 ha
    obtain ⟨hdue, -, hlt⟩ := schedule_finished hslots hk
    have hle : c.instant ≤ k.finish := (instant_le_of_mem_jobCalls hmade).trans_eq hdue.symm
    exact (hle.trans_lt (hlt instant hstop)).trans_eq (hfinish.trans hgrace).symm
  · obtain ⟨k, hk, rfl⟩ := List.mem_map.1 ha
    obtain ⟨-, -, -, hfinish', -⟩ := schedule_abandoned hslots hk
    exact (instant_lt_of_mem_jobCalls hmade).trans_eq (hfinish'.trans hfinish.symm)

/-- At no time have there been more calls of the shell at once than workers. -/
theorem mostShellCalls_le :
    (runTask b engine stop now task variant nodes v).mostShellCalls engine.callTime ≤
      max 1 engine.workers := by
  rw [TaskRun.mostShellCalls]
  cases hmost : List.max? (α := Nat) _ with
  | none => exact Nat.zero_le _
  | some most =>
    obtain ⟨c, hc, rfl⟩ := List.mem_map.1 (List.max?_mem hmost)
    have hc := (List.mem_filter.1 hc).1
    exact max_le (le_max_left _ _)
      (shellCallsAt_calls_le_of_abandoned b engine stop now task variant nodes v fun j hj =>
        instant_lt_of_mem_abandoned b engine stop now task variant nodes v hj hc)

end Task

/-- **No slot is lost, and none is idle.**  At every moment of a task each of its slots, as many as
workers and at least one, is free or held by exactly one execution; the executions have started in
the order of the nodes; and none of the slots is free when the clock moves on before the interrupt
while a node waits.  So no more executions, and no more calls of the shell, go on at an instant than
there are slots; before the interrupt there are just as many executions, as long as some node has
not started; and when nothing is left to happen all slots are free again. -/
theorem runTask_slots (b : Backends) (engine : Engine) (stop : Option Nat) (now : Nat) (task : Task)
    (variant : Variant) (nodes : List Node) (v : Version) :
    let workers := max 1 engine.workers
    let run := runTask b engine stop now task variant nodes v
    (∀ s, Moment b engine stop now variant nodes v s →
      s.free + s.running.length = workers ∧
      Ordered (nodes.map (Execution.ofNode b variant.steps v)) s ∧
      (∀ t, next? (engine.plan stop) s = some t → s.now < t.now → s.limit = none →
        s.waiting ≠ [] → s.running.length = workers) ∧
      (next? (engine.plan stop) s = none → s.running = [] ∧ s.free = workers)) ∧
    (∃ s, Moment b engine stop now variant nodes v s ∧ next? (engine.plan stop) s = none ∧
      run.course = s.course) ∧
    (∀ i, countAt run.course.started i ≤ workers) ∧
    (∀ i < run.course.finish, shellCallsAt engine.callTime i run.calls ≤ workers) ∧
    run.mostShellCalls engine.callTime ≤ workers ∧
    ∀ i, now ≤ i → isBefore i stop = true →
      (run.course.unstarted ≠ [] ∨ ∃ j ∈ run.course.started, i < j.start) →
        countAt run.course.started i = workers := by
  intro workers run
  have hslots := engine.plan_slots_pos stop
  refine ⟨fun s r => ⟨r.slotted, r.ordered, fun t hnext hlt hlimit hwaiting => ?_, fun hnext => ?_⟩,
    ?_, countAt_started_le b engine stop now task variant nodes v,
    fun i hi => shellCallsAt_calls_le b engine stop now task variant nodes v hi,
    mostShellCalls_le b engine stop now task variant nodes v, fun i hle hbefore hlater => ?_⟩
  · have e := Schedule.step_of_next? hnext
    exact e.length_running_eq r.slotted r.phased le_rfl hlt (e.isBefore_now hlimit hlt) hwaiting
  · have hrunning := (r.slotted.over hslots hnext).1
    refine ⟨hrunning, ?_⟩
    have hfree := r.slotted
    rw [Schedule.Slotted, hrunning] at hfree
    exact hfree
  · obtain ⟨s, r, hnext, -, hs⟩ := exists_moment_over b engine stop now task variant nodes v
    exact ⟨s, r, hnext, hs⟩
  · rw [Schedule.countAt_perm run.course.started_perm]
    refine schedule_busy hslots hle hbefore (hlater.imp_right fun hstarts => ?_)
    obtain ⟨j, hj, hlt⟩ := hstarts
    exact ⟨j, run.course.started_perm.mem_iff.1 hj, hlt⟩

end Inspection
