import Inspection.Proofs.Schedule.Occupancy

/-!
# Schedule — What a course comes to

What the invariants say where nothing happens any more.  Throughout, a plan has at least one slot.

* `schedule_perm`: every job ends, is given up or never starts, and only one of these.
* `schedule_whole`: a course that is over before the interrupt has ended every job.
* `mem_finished_iff_of_mem_jobs`: what of the jobs that started has ended.
* `schedule_finish_le`, `schedule_draining`: when a course is over.
* `schedule_bound`, `schedule_busy`: how many jobs are carried out at an instant.
-/

namespace Inspection

open Schedule

variable {α : Type} {p : Plan α} {began : Nat} {items : List α}

/-- The jobs of a course that started. -/
def Course.jobs (c : Course α) : List (Job α) := c.finished ++ c.abandoned

/-- The jobs of a course that started, in the order of their starts. -/
def Course.started (c : Course α) : List (Job α) :=
  c.jobs.mergeSort fun a b => decide (a.start ≤ b.start)

theorem Course.started_perm (c : Course α) : c.started.Perm c.jobs := List.mergeSort_perm _ _

/-- Where the course of a plan is over: nothing happens any more, and nothing runs. -/
theorem exists_over (hslots : 0 < p.slots) (began : Nat) (items : List α) :
    ∃ s, Reached p (initial p.slots began items) s ∧ next? p s = none ∧ s.running = [] ∧
      (s.limit = none → s.waiting = []) ∧ schedule p began items = s.course := by
  have r := reached_run p (initial p.slots began items)
  have hnext := next?_run p (initial p.slots began items)
  obtain ⟨hrunning, hwaiting⟩ := r.slotted.over hslots hnext
  exact ⟨_, r, hnext, hrunning, hwaiting, rfl⟩

theorem jobs_course {s : Schedule α} (h : s.running = []) : s.course.jobs = s.jobs := by
  simp [Course.jobs, Schedule.jobs, Schedule.course, h]

/-- The jobs start in the order of the list, and those that do not start are its last. -/
theorem schedule_ordered (hslots : 0 < p.slots) (began : Nat) (items : List α) :
    ∃ log : List (α × Nat), log.map Prod.fst ++ (schedule p began items).unstarted = items ∧
      log.Pairwise (fun a b => a.2 ≤ b.2) ∧
      ((schedule p began items).jobs.map launch).Perm log := by
  obtain ⟨s, r, -, hrunning, -, hs⟩ := exists_over hslots began items
  rw [hs, jobs_course hrunning]
  exact r.ordered

/-- Every job ends, is given up or never starts, and only one of these. -/
theorem schedule_perm (hslots : 0 < p.slots) :
    ((schedule p began items).jobs.map (·.item) ++ (schedule p began items).unstarted).Perm
      items := by
  obtain ⟨log, hitems, -, hperm⟩ := schedule_ordered hslots began items
  have hfst := hperm.map Prod.fst
  rw [List.map_map] at hfst
  exact (hfst.append_right _).trans (.of_eq hitems)

/-- No job starts before the course, nor at the interrupt or after it. -/
theorem schedule_started (hslots : 0 < p.slots) {j : Job α}
    (hj : j ∈ (schedule p began items).jobs) :
    began ≤ j.start ∧ isBefore j.start p.stop = true := by
  obtain ⟨s, r, -, hrunning, -, hs⟩ := exists_over hslots began items
  rw [hs, jobs_course hrunning] at hj
  exact ⟨(r.timed.started j hj).1, r.phased.started j hj⟩

theorem schedule_finished (hslots : 0 < p.slots) {j : Job α}
    (hj : j ∈ (schedule p began items).finished) :
    j.finish = j.start + p.duration j.item ∧ j.finish ≤ (schedule p began items).finish ∧
      ∀ stop, p.stop = some stop → j.finish < max began stop + p.grace := by
  obtain ⟨s, r, -, -, -, hs⟩ := exists_over hslots began items
  rw [hs] at hj ⊢
  exact ⟨(r.timed.finished j hj).2, (r.timed.finished j hj).1, r.phased.finished j hj⟩

/-- A job is given up at the end of the grace period, which is the end of the course, and only if
it does not end before that. -/
theorem schedule_abandoned (hslots : 0 < p.slots) {j : Job α}
    (hj : j ∈ (schedule p began items).abandoned) :
    ∃ stop, p.stop = some stop ∧ (schedule p began items).finish = max began stop + p.grace ∧
      j.finish = (schedule p began items).finish ∧
      (schedule p began items).finish ≤ j.start + p.duration j.item := by
  obtain ⟨s, r, -, -, -, hs⟩ := exists_over hslots began items
  rw [hs] at hj ⊢
  obtain ⟨hlimit, -⟩ := r.phased.abandoned j hj
  obtain ⟨stop, hstop, hfinish, -⟩ := r.phased.late _ hlimit
  have hle : s.now ≤ j.finish := r.timed.limit _ hlimit
  obtain ⟨hge, hdue⟩ := r.timed.abandoned j hj
  have heq : s.course.finish = j.finish := le_antisymm hle hge
  exact ⟨stop, hstop, heq.trans hfinish, heq.symm, heq.le.trans hdue⟩

/-- A course that is over before the interrupt has ended every job. -/
theorem schedule_whole (hslots : 0 < p.slots)
    (h : isBefore (schedule p began items).finish p.stop = true) :
    (schedule p began items).abandoned = [] ∧ (schedule p began items).unstarted = [] := by
  obtain ⟨s, r, -, -, hwaiting, hs⟩ := exists_over hslots began items
  rw [hs] at h ⊢
  have hlimit : s.limit = none := r.phased.limit_eq_none h
  exact ⟨(r.phased.early hlimit).1, hwaiting hlimit⟩

theorem schedule_began_le (hslots : 0 < p.slots) : began ≤ (schedule p began items).finish := by
  obtain ⟨s, r, -, -, -, hs⟩ := exists_over hslots began items
  rw [hs]
  exact r.timed.began_le

/-- A course is over at the latest when the grace period is. -/
theorem schedule_finish_le (hslots : 0 < p.slots) (began : Nat) (items : List α) {stop : Nat}
    (hstop : p.stop = some stop) :
    (schedule p began items).finish ≤ max began stop + p.grace := by
  obtain ⟨s, r, -, -, -, hs⟩ := exists_over hslots began items
  rw [hs]
  cases hlimit : s.limit with
  | none =>
    have hle : s.now ≤ max began stop := by
      rw [← r.phased.max_now_eq r.timed hlimit hstop]
      exact le_max_left _ _
    exact hle.trans (Nat.le_add_right _ _)
  | some limit =>
    obtain ⟨stop', hstop', rfl, -⟩ := r.phased.late limit hlimit
    obtain rfl := Option.some.inj (hstop.symm.trans hstop')
    exact r.timed.limit _ hlimit

/-- Of the jobs that started, those have ended that take less than what the grace period leaves
them. -/
theorem mem_finished_iff_of_mem_jobs (hslots : 0 < p.slots) {stop : Nat}
    (hstop : p.stop = some stop) {j : Job α} (hj : j ∈ (schedule p began items).jobs) :
    j ∈ (schedule p began items).finished ↔ j.start + p.duration j.item < stop + p.grace := by
  -- the course has not begun after the interrupt, for then nothing starts
  have hbegan : max began stop = stop := by
    obtain ⟨hle, hbefore⟩ := schedule_started hslots hj
    rw [hstop, isBefore_some] at hbefore
    exact max_eq_right (hle.trans hbefore.le)
  constructor
  · intro hfinished
    obtain ⟨hfinish, -, hlt⟩ := schedule_finished hslots hfinished
    rw [← hfinish, ← hbegan]
    exact hlt stop hstop
  · intro hlt
    refine (List.mem_append.1 hj).resolve_right fun habandoned => ?_
    obtain ⟨stop', hstop', hfinish, -, hle⟩ := schedule_abandoned hslots habandoned
    obtain rfl := Option.some.inj (hstop.symm.trans hstop')
    rw [hfinish, hbegan] at hle
    exact absurd hlt (not_lt.2 hle)

/-- From the interrupt on, a course is not over only while some job is not at its end. -/
theorem schedule_draining (hslots : 0 < p.slots) {stop : Nat} (hstop : p.stop = some stop)
    {instant : Nat} (hle : max began stop ≤ instant)
    (hlt : instant < (schedule p began items).finish) :
    ∃ j ∈ (schedule p began items).jobs,
      j.start ≤ instant ∧ instant < j.start + p.duration j.item := by
  obtain ⟨s, r, -, hrunning, -, hs⟩ := exists_over hslots began items
  rw [hs] at hlt
  rw [hs, jobs_course hrunning]
  cases hlimit : s.limit with
  | none =>
    have hnow : s.now ≤ max began stop := by
      rw [← r.phased.max_now_eq r.timed hlimit hstop]
      exact le_max_left _ _
    exact absurd (hlt.trans_le hnow) (not_lt.2 hle)
  | some limit =>
    obtain ⟨a, ha, hai⟩ := r.draining limit hlimit stop hstop instant hlt hle
    obtain ⟨j, hj, rfl⟩ := List.mem_map.1 ha
    exact ⟨j, hj, hai⟩

/-! ### Slots -/

/-- At no instant are there more jobs than slots. -/
theorem schedule_bound (hslots : 0 < p.slots) (instant : Nat) :
    countAt (schedule p began items).jobs instant ≤ p.slots := by
  obtain ⟨s, r, -, hrunning, -, hs⟩ := exists_over hslots began items
  rw [hs, jobs_course hrunning]
  by_cases hlt : instant < s.now
  · exact r.occupied.bound instant hlt
  · rw [countAt_jobs r.timed (not_lt.1 hlt), hrunning]
    exact Nat.zero_le _

/-- Before the interrupt, and while some job has not started, no slot is free. -/
theorem schedule_busy (hslots : 0 < p.slots) {instant : Nat} (hle : began ≤ instant)
    (hbefore : isBefore instant p.stop = true)
    (hlater : (schedule p began items).unstarted ≠ [] ∨
      ∃ j ∈ (schedule p began items).jobs, instant < j.start) :
    countAt (schedule p began items).jobs instant = p.slots := by
  obtain ⟨s, r, -, hrunning, hwaiting, hs⟩ := exists_over hslots began items
  rw [hs, jobs_course hrunning] at hlater ⊢
  refine r.occupied.busy instant (not_le.1 fun hnow => ?_) hle hbefore hlater
  -- once the course is over before the interrupt, every job has started
  rcases hlater with hne | ⟨j, hj, hlt⟩
  · exact hne (hwaiting (r.phased.limit_eq_none (isBefore_of_le hnow hbefore)))
  · exact absurd (hlt.trans_le (r.timed.started j hj).2) (not_lt.2 hnow)

end Inspection
