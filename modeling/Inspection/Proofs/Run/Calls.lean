import Inspection.Proofs.Run.Account

/-!
# Run — The calls of a task

An execution makes its calls one after another, each at the instant at which the one before it is
over; the calls of a task are those of its executions in the order of their instants.

* `shellCallsAt_courseCalls_le`: at no instant are more calls of the shell going on than executions.
* `prefix_callsFor_calls`: what a task has called for a node is what the node's steps call on their
  own, perhaps cut short; `callsFor_calls_of_unfinished`: not so if no node is unfinished.
-/

namespace Inspection

open Execution (timed totalTime)
open TaskRun (jobCalls courseCalls)
open Schedule (countAt)

/-! ### One execution -/

theorem map_snd_timed (time : Call → Nat) (start : Nat) (calls : List Call) :
    (timed time start calls).map Prod.snd = calls := by
  induction calls generalizing start with
  | nil => rfl
  | cons c rest ih => rw [timed, List.map_cons, ih]

theorem le_of_mem_timed {time : Call → Nat} {start : Nat} {calls : List Call} {c : Nat × Call}
    (h : c ∈ timed time start calls) : start ≤ c.1 := by
  induction calls generalizing start with
  | nil => cases h
  | cons first rest ih =>
    rcases List.mem_cons.1 h with rfl | h
    · exact le_rfl
    · exact (Nat.le_add_right _ _).trans (ih h)

theorem le_totalTime_of_mem_timed {time : Call → Nat} {start : Nat} {calls : List Call}
    {c : Nat × Call} (h : c ∈ timed time start calls) : c.1 ≤ start + totalTime time calls := by
  induction calls generalizing start with
  | nil => cases h
  | cons first rest ih =>
    rw [totalTime, ← Nat.add_assoc]
    rcases List.mem_cons.1 h with rfl | h
    · exact (Nat.le_add_right _ _).trans (Nat.le_add_right _ _)
    · exact ih h

theorem pairwise_timed (time : Call → Nat) (start : Nat) (calls : List Call) :
    (timed time start calls).Pairwise fun c d => c.1 ≤ d.1 := by
  induction calls generalizing start with
  | nil => exact .nil
  | cons c rest ih =>
    refine List.pairwise_cons.2 ⟨fun d hd => ?_, ih _⟩
    exact (Nat.le_add_right _ _).trans (le_of_mem_timed hd)

/-- What is made before an instant comes first. -/
theorem filter_prefix_of_pairwise {l : List TimedCall} (limit : Nat)
    (h : l.Pairwise fun c d => c.instant ≤ d.instant) :
    (l.filter fun c => decide (c.instant < limit)) <+: l := by
  induction l with
  | nil => exact List.prefix_rfl
  | cons c rest ih =>
    obtain ⟨hle, hrest⟩ := List.pairwise_cons.1 h
    by_cases hlt : c.instant < limit
    · rw [List.filter_cons_of_pos (by simpa using hlt)]
      exact (List.prefix_cons_inj c).2 (ih hrest)
    · -- the first is made too late, so all are
      rw [List.filter_eq_nil_iff.2]
      · exact List.nil_prefix
      intro d hd
      rcases List.mem_cons.1 hd with rfl | hd
      · simpa using hlt
      · simpa using (not_lt.1 hlt).trans (hle d hd)

/-- The calls of a job that is not cut. -/
theorem jobCalls_false (callTime : CallTime) (j : Job Execution) :
    jobCalls callTime false j = (timed (callTime.of j.item.node.id) j.start j.item.calls).map
      fun c => { instant := c.1, node := j.item.node.id, call := c.2 } :=
  rfl

theorem pairwise_jobCalls_false (callTime : CallTime) (j : Job Execution) :
    (jobCalls callTime false j).Pairwise fun c d => c.instant ≤ d.instant := by
  rw [jobCalls_false]
  exact List.pairwise_map.2 (pairwise_timed _ j.start j.item.calls)

theorem map_call_jobCalls_false (callTime : CallTime) (j : Job Execution) :
    (jobCalls callTime false j).map (·.call) = j.item.calls := by
  rw [jobCalls_false, List.map_map]
  exact map_snd_timed _ j.start j.item.calls

/-- A job that is cut has made the first of its calls. -/
theorem prefix_jobCalls (callTime : CallTime) (isCut : Bool) (j : Job Execution) :
    jobCalls callTime isCut j <+: jobCalls callTime false j := by
  cases isCut with
  | false => exact List.prefix_rfl
  | true => exact filter_prefix_of_pairwise j.finish (pairwise_jobCalls_false callTime j)

theorem pairwise_jobCalls (callTime : CallTime) (isCut : Bool) (j : Job Execution) :
    (jobCalls callTime isCut j).Pairwise fun c d => c.instant ≤ d.instant :=
  (pairwise_jobCalls_false callTime j).sublist (prefix_jobCalls callTime isCut j).sublist

theorem node_of_mem_jobCalls {callTime : CallTime} {isCut : Bool} {j : Job Execution}
    {c : TimedCall} (h : c ∈ jobCalls callTime isCut j) : c.node = j.item.node.id := by
  have h := (prefix_jobCalls callTime isCut j).subset h
  rw [jobCalls_false] at h
  obtain ⟨d, -, rfl⟩ := List.mem_map.1 h
  rfl

/-- An execution makes its calls before its end or at it. -/
theorem instant_le_of_mem_jobCalls {callTime : CallTime} {isCut : Bool} {j : Job Execution}
    {c : TimedCall} (h : c ∈ jobCalls callTime isCut j) :
    c.instant ≤ j.start + j.item.duration callTime := by
  have h := (prefix_jobCalls callTime isCut j).subset h
  rw [jobCalls_false] at h
  obtain ⟨d, hd, rfl⟩ := List.mem_map.1 h
  exact le_totalTime_of_mem_timed hd

theorem instant_lt_of_mem_jobCalls {callTime : CallTime} {j : Job Execution} {c : TimedCall}
    (h : c ∈ jobCalls callTime true j) : c.instant < j.finish :=
  of_decide_eq_true (List.mem_filter.1 h).2

/-! ### Calls at an instant -/

/-- An execution has at most one call going on, and only between its start and its end. -/
theorem shellCallsAt_jobCalls_false_le (callTime : CallTime) (i : Nat) (j : Job Execution) :
    shellCallsAt callTime i (jobCalls callTime false j) ≤
      if j.start ≤ i ∧ i < j.start + j.item.duration callTime then 1 else 0 := by
  rw [jobCalls_false, Execution.duration]
  generalize j.start = start
  generalize j.item.calls = calls
  generalize j.item.node.id = node
  induction calls generalizing start with
  | nil => exact Nat.zero_le _
  | cons c rest ih =>
    have hrest := ih (start + callTime.of node c)
    have hfirst : (if (c.command?.isSome && decide (start ≤ i ∧ i < start + callTime.of node c)) =
        true then 1 else 0) ≤ if start ≤ i ∧ i < start + callTime.of node c then 1 else 0 := by
      cases c.command?.isSome <;> simp
    rw [totalTime, ← Nat.add_assoc]
    simp only [timed, List.map_cons, shellCallsAt, List.countP_cons] at hrest ⊢
    -- the first call is over when the others begin
    refine (Nat.add_le_add hrest hfirst).trans ?_
    split <;> split <;> split <;> omega

theorem shellCallsAt_jobCalls_le (callTime : CallTime) (i : Nat) (isCut : Bool)
    {j : Job Execution} (h : i < j.start + j.item.duration callTime → i < j.finish) :
    shellCallsAt callTime i (jobCalls callTime isCut j) ≤ countAt [j] i := by
  have hwhole : shellCallsAt callTime i (jobCalls callTime isCut j) ≤
      shellCallsAt callTime i (jobCalls callTime false j) :=
    (prefix_jobCalls callTime isCut j).sublist.countP_le
  refine (hwhole.trans (shellCallsAt_jobCalls_false_le callTime i j)).trans ?_
  split
  · rename_i hdue
    simp [countAt, hdue.1, h hdue.2]
  · exact Nat.zero_le _

/-- The jobs of a course, each with whether it was cut. -/
def Course.shares {α : Type} (c : Course α) : List (Job α × Bool) :=
  c.finished.map (·, false) ++ c.abandoned.map (·, true)

theorem Course.map_fst_shares {α : Type} (c : Course α) : c.shares.map Prod.fst = c.jobs := by
  simp [Course.shares, Course.jobs, Function.comp_def]

theorem courseCalls_eq (callTime : CallTime) (c : Course Execution) :
    courseCalls callTime c = (c.shares.flatMap fun a => jobCalls callTime a.2 a.1).mergeSort
      fun c d => decide (c.instant ≤ d.instant) := by
  simp [courseCalls, Course.shares, List.flatMap_map]

theorem mem_courseCalls {callTime : CallTime} {c : Course Execution} {d : TimedCall} :
    d ∈ courseCalls callTime c ↔ ∃ a ∈ c.shares, d ∈ jobCalls callTime a.2 a.1 := by
  rw [courseCalls_eq, List.mem_mergeSort, List.mem_flatMap]

/-- While a task goes on, at most as many calls of the shell are going on as executions. -/
theorem shellCallsAt_courseCalls_le {callTime : CallTime} {i : Nat} {c : Course Execution}
    (hfinished : ∀ j ∈ c.finished, j.finish = j.start + j.item.duration callTime)
    (habandoned : ∀ j ∈ c.abandoned, i < j.finish) :
    shellCallsAt callTime i (courseCalls callTime c) ≤ countAt c.jobs i := by
  have hshares : ∀ a ∈ c.shares,
      i < a.1.start + a.1.item.duration callTime → i < a.1.finish := by
    intro a ha hlt
    rcases List.mem_append.1 ha with ha | ha
    · obtain ⟨j, hj, rfl⟩ := List.mem_map.1 ha
      exact hlt.trans_eq (hfinished j hj).symm
    · obtain ⟨j, hj, rfl⟩ := List.mem_map.1 ha
      exact habandoned j hj
  rw [courseCalls_eq, ← Course.map_fst_shares, shellCallsAt, (List.mergeSort_perm _ _).countP_eq]
  generalize c.shares = shares at hshares
  induction shares with
  | nil => exact Nat.le_refl 0
  | cons a rest ih =>
    rw [List.flatMap_cons, List.countP_append, List.map_cons, ← List.singleton_append,
      Schedule.countAt_append]
    exact Nat.add_le_add
      (shellCallsAt_jobCalls_le callTime i a.2 (hshares a List.mem_cons_self))
      (ih fun b hb => hshares b (List.mem_cons_of_mem a hb))

/-! ### The calls for a node -/

theorem callsFor_append (node : String) (l l' : List TimedCall) :
    callsFor node (l ++ l') = callsFor node l ++ callsFor node l' := by
  simp [callsFor]

section Shares

variable {callTime : CallTime} {shares : List (Job Execution × Bool)} {node : String}

/-- A job makes calls for its own node only. -/
theorem filter_jobCalls (isCut : Bool) (j : Job Execution) :
    (jobCalls callTime isCut j).filter (·.node == node) =
      if j.item.node.id = node then jobCalls callTime isCut j else [] := by
  split
  · rename_i hid
    exact List.filter_eq_self.2 fun c hc => by simp [node_of_mem_jobCalls hc, hid]
  · rename_i hid
    exact List.filter_eq_nil_iff.2 fun c hc => by simp [node_of_mem_jobCalls hc, hid]

/-- The calls for a node are those of the jobs for it. -/
theorem filter_flatMap_jobCalls :
    (shares.flatMap fun a => jobCalls callTime a.2 a.1).filter (·.node == node) =
      (shares.filter (·.1.item.node.id == node)).flatMap fun a => jobCalls callTime a.2 a.1 := by
  induction shares with
  | nil => rfl
  | cons a rest ih =>
    rw [List.flatMap_cons, List.filter_append, filter_jobCalls, ih]
    by_cases hid : a.1.item.node.id = node
    · rw [if_pos hid, List.filter_cons_of_pos (by simpa using hid), List.flatMap_cons]
    · rw [if_neg hid, List.filter_cons_of_neg (by simpa using hid), List.nil_append]

end Shares

section Course

variable {callTime : CallTime} {c : Course Execution}

/-- The calls for a node, if these are in order already before all are put in order. -/
theorem callsFor_courseCalls {node : String} {calls : List TimedCall}
    (hcalls : (c.shares.filter (·.1.item.node.id == node)).flatMap
      (fun a => jobCalls callTime a.2 a.1) = calls)
    (hsorted : calls.Pairwise fun c d => c.instant ≤ d.instant) :
    callsFor node (courseCalls callTime c) = calls.map (·.call) := by
  rw [← filter_flatMap_jobCalls] at hcalls
  rw [callsFor, courseCalls_eq, filter_mergeSort, hcalls]
  · intro a b c hab hbc
    simp only [decide_eq_true_eq] at hab hbc ⊢
    exact hab.trans hbc
  · intro a b
    simpa using le_total a.instant b.instant
  · simpa only [hcalls, decide_eq_true_eq] using hsorted

/-- The calls for a node are those that the job for the node has made. -/
theorem callsFor_of_mem_shares (hids : (c.jobs.map (·.item.node.id)).Nodup)
    {a : Job Execution × Bool} (ha : a ∈ c.shares) :
    callsFor a.1.item.node.id (courseCalls callTime c) =
      (jobCalls callTime a.2 a.1).map (·.call) := by
  rw [← Course.map_fst_shares, List.map_map] at hids
  refine callsFor_courseCalls ?_ (pairwise_jobCalls callTime a.2 a.1)
  have hshare : c.shares.filter (·.1.item.node.id == a.1.item.node.id) = [a] :=
    filter_eq_singleton hids ha
  rw [hshare, List.flatMap_singleton]

/-- No call is made for a node whose execution never started. -/
theorem callsFor_of_not_mem {node : String} (h : node ∉ c.jobs.map (·.item.node.id)) :
    callsFor node (courseCalls callTime c) = [] := by
  rw [← Course.map_fst_shares, List.map_map] at h
  refine callsFor_courseCalls ?_ .nil
  have hshare : c.shares.filter (·.1.item.node.id == node) = [] :=
    List.filter_eq_nil_iff.2 fun a ha hid => h (List.mem_map.2 ⟨a, ha, by simpa using hid⟩)
  rw [hshare, List.flatMap_nil]

end Course

section Task

variable (b : Backends) (engine : Engine) (stop : Option Nat) (now : Nat) (task : Task)
  (variant : Variant) {nodes : List Node} (v : Version)

theorem nodup_jobs_ids (hids : (nodes.map (·.id)).Nodup) :
    ((runTask b engine stop now task variant nodes v).course.jobs.map (·.item.node.id)).Nodup := by
  have hnodup := (ids_perm b engine stop now task variant nodes v).nodup_iff.2 hids
  rw [← List.append_assoc, ← List.map_append] at hnodup
  exact (List.nodup_append'.1 hnodup).1

/-- An execution in a course is that of its node. -/
theorem item_eq_ofNode {j : Job Execution}
    (hj : j ∈ (runTask b engine stop now task variant nodes v).course.jobs) :
    j.item.node ∈ nodes ∧ j.item = Execution.ofNode b variant.steps v j.item.node := by
  have hitem := (executions_perm b engine stop now task variant nodes v).mem_iff.1
    (List.mem_append_left _ (List.mem_map_of_mem hj))
  obtain ⟨n, hn, heq⟩ := List.mem_map.1 hitem
  rw [← heq]
  exact ⟨hn, rfl⟩

/-- What a task has called for a node is what the node's steps call on their own, perhaps cut
short. -/
theorem prefix_callsFor_calls (hids : (nodes.map (·.id)).Nodup) {n : Node} (hn : n ∈ nodes) :
    callsFor n.id (runTask b engine stop now task variant nodes v).calls <+:
      (runNode b n variant.steps v).calls b n := by
  have hjobs := nodup_jobs_ids b engine stop now task variant v hids
  by_cases hstarted :
      n.id ∈ (runTask b engine stop now task variant nodes v).course.jobs.map (·.item.node.id)
  · rw [← Course.map_fst_shares, List.map_map] at hstarted
    obtain ⟨a, ha, hid⟩ := List.mem_map.1 hstarted
    have hid : a.1.item.node.id = n.id := hid
    have hj : a.1 ∈ (runTask b engine stop now task variant nodes v).course.jobs := by
      rw [← Course.map_fst_shares]
      exact List.mem_map_of_mem ha
    obtain ⟨hmem, hitem⟩ := item_eq_ofNode b engine stop now task variant v hj
    have hcalls : a.1.item.calls = (runNode b n variant.steps v).calls b n := by
      rw [hitem, List.inj_on_of_nodup_map hids hmem hn hid]
      rfl
    have hmade : callsFor n.id (runTask b engine stop now task variant nodes v).calls =
        (jobCalls engine.callTime a.2 a.1).map (·.call) := by
      rw [← hid]
      exact callsFor_of_mem_shares hjobs ha
    rw [hmade, ← hcalls, ← map_call_jobCalls_false engine.callTime a.1]
    exact (prefix_jobCalls engine.callTime a.2 a.1).map _
  · have hnone : callsFor n.id (runTask b engine stop now task variant nodes v).calls = [] :=
      callsFor_of_not_mem hstarted
    rw [hnone]
    exact List.nil_prefix

/-- A task with no unfinished node has called for each node all that the node's steps call. -/
theorem callsFor_calls_of_unfinished (hids : (nodes.map (·.id)).Nodup) {n : Node} (hn : n ∈ nodes)
    (h : (runTask b engine stop now task variant nodes v).report.unfinished = []) :
    callsFor n.id (runTask b engine stop now task variant nodes v).calls =
      (runNode b n variant.steps v).calls b n := by
  have hperm := (report_perm b engine stop now task variant v hids).mem_iff (a := n.id)
  simp only [h, List.append_nil] at hperm
  obtain ⟨j, hj, rfl⟩ := (exists_report_iff b engine stop now task variant v hids hn).1
    (List.mem_map.1 (hperm.2 (List.mem_map_of_mem hn)))
  have hitem := (item_eq_ofNode b engine stop now task variant v (List.mem_append_left _ hj)).2
  have hcalls : callsFor j.item.node.id (runTask b engine stop now task variant nodes v).calls =
      (jobCalls engine.callTime false j).map (·.call) :=
    callsFor_of_mem_shares (nodup_jobs_ids b engine stop now task variant v hids)
      (List.mem_append_left _ (List.mem_map_of_mem hj))
  rw [hcalls, map_call_jobCalls_false, hitem]
  rfl

end Task

end Inspection
