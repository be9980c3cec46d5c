import Inspection.Proofs.Schedule.Invariant
import Mathlib.Order.Lattice
import Mathlib.Order.MinMax
import Mathlib.Tactic.Tauto

/-!
# Schedule — How many jobs are carried out at an instant

The clock stands still while something happens and jumps from one event to the next, so what is
carried out at the instants that it jumps over is what runs before the jump
(`countAt_step`).  Two bounds follow for every instant that has passed.

* `Occupied.bound`: no more jobs than there are slots.
* `Occupied.busy`: just as many, before the interrupt and while some job has not started.

`Draining` is about the grace period: while the clock moves, some job is not at its end.
-/

namespace Inspection

namespace Schedule

variable {α : Type} {p : Plan α} {began : Nat} {s t : Schedule α}

/-! ### Counting jobs -/

/-- How many jobs are being carried out at an instant. -/
def countAt (jobs : List (Job α)) (instant : Nat) : Nat :=
  jobs.countP fun j => decide (j.start ≤ instant ∧ instant < j.finish)

theorem countAt_append (jobs more : List (Job α)) (instant : Nat) :
    countAt (jobs ++ more) instant = countAt jobs instant + countAt more instant :=
  List.countP_append

theorem countAt_perm {jobs more : List (Job α)} (h : jobs.Perm more) (instant : Nat) :
    countAt jobs instant = countAt more instant :=
  h.countP_eq _

theorem countAt_eq_zero {jobs : List (Job α)} {instant : Nat}
    (h : ∀ j ∈ jobs, j.finish ≤ instant) : countAt jobs instant = 0 :=
  List.countP_eq_zero.2 fun j hj => by simp [h j hj]

theorem countAt_eq_length {jobs : List (Job α)} {instant : Nat}
    (h : ∀ j ∈ jobs, j.start ≤ instant ∧ instant < j.finish) :
    countAt jobs instant = jobs.length :=
  List.countP_eq_length.2 fun j hj => by simp [h j hj]

/-- Jobs that are cut at a later instant are carried out at this one as before. -/
theorem countAt_map_cut {jobs : List (Job α)} {limit instant : Nat} (hlt : instant < limit)
    (h : ∀ j ∈ jobs, limit ≤ j.finish) :
    countAt (jobs.map fun j => { j with finish := limit }) instant = countAt jobs instant := by
  simp only [countAt, List.countP_map]
  refine List.countP_congr fun j hj => ?_
  simp [hlt, hlt.trans_le (h j hj)]

/-- From now on only running jobs are carried out. -/
theorem countAt_jobs (ht : Timed p began s) {instant : Nat} (hnow : s.now ≤ instant) :
    countAt s.jobs instant = countAt s.running instant := by
  have hfinished : countAt s.finished instant = 0 :=
    countAt_eq_zero fun j hj => (ht.finished j hj).1.trans hnow
  have habandoned : countAt s.abandoned instant = 0 :=
    countAt_eq_zero fun j hj => (ht.abandoned j hj).1.trans hnow
  rw [jobs, countAt_append, countAt_append, hfinished, habandoned, Nat.zero_add]

theorem countAt_jobs_eq_length (ht : Timed p began s) {instant : Nat} (hnow : s.now ≤ instant)
    (hlt : ∀ j ∈ s.running, instant < j.finish) : countAt s.jobs instant = s.running.length := by
  rw [countAt_jobs ht hnow]
  exact countAt_eq_length fun j hj =>
    ⟨(ht.started j (mem_jobs.2 (.inr (.inr hj)))).2.trans hnow, hlt j hj⟩

theorem countAt_finishAt (ht : Timed p began s) {instant i : Nat}
    (hfirst : s.firstFinish? = some instant) (hi : i < instant) :
    countAt (s.finishAt instant).jobs i =
      if i < s.now then countAt s.jobs i else s.running.length := by
  rw [countAt_perm (jobs_finishAt_perm s instant)]
  split
  · rfl
  · rename_i hnow
    exact countAt_jobs_eq_length ht (not_lt.1 hnow) fun j hj =>
      hi.trans_le (le_finish_of_firstFinish? hfirst j hj)

/-- What is carried out at the instants that an event passes over is what ran before it; what was
carried out at earlier ones does not change. -/
theorem countAt_step (ht : Timed p began s) (e : Step p s t) {i : Nat} (hi : i < t.now) :
    countAt t.jobs i = if i < s.now then countAt s.jobs i else s.running.length := by
  cases e with
  | @start item rest _ _ _ _ =>
    have hi : i < s.now := hi
    rw [if_pos hi]
    have hnew : countAt [{ item, start := s.now, finish := s.now + p.duration item }] i = 0 :=
      List.countP_eq_zero.2 fun j hj => by
        obtain rfl := List.mem_singleton.1 hj
        simp [not_le.2 hi]
    simp only [jobs, Schedule.start, countAt_append, hnew, Nat.add_zero]
  | finish _ _ hfirst _ => exact countAt_finishAt ht hfirst hi
  | drain _ hfirst _ => exact countAt_finishAt ht hfirst hi
  | interrupt _ _ _ hlater =>
    split
    · rfl
    · rename_i hnow
      have hstop := (lt_max_iff.1 hi).resolve_left hnow
      exact countAt_jobs_eq_length ht (not_lt.1 hnow) fun j hj => hstop.trans_le (hlater j hj)
  | @abandon limit instant hlimit hfirst hle =>
    have hi : i < limit := hi
    have hrunning : ∀ j ∈ s.running, limit ≤ j.finish :=
      fun j hj => hle.trans (le_finish_of_firstFinish? hfirst j hj)
    have hcut : countAt (s.abandon limit).jobs i = countAt s.jobs i := by
      simp only [jobs, Schedule.abandon, countAt_append, countAt_map_cut hi hrunning,
        List.append_nil, Nat.add_assoc]
    rw [hcut]
    split
    · rfl
    · rename_i hnow
      exact countAt_jobs_eq_length ht (not_lt.1 hnow) fun j hj => hi.trans_le (hrunning j hj)

/-! ### What started stays started -/

theorem launch_step (e : Step p s t) {a : α × Nat} (ha : a ∈ s.jobs.map launch) :
    a ∈ t.jobs.map launch := by
  have hfinishAt : ∀ instant, a ∈ (s.finishAt instant).jobs.map launch := fun instant =>
    ((jobs_finishAt_perm s instant).map launch).mem_iff.2 ha
  cases e with
  | start =>
    simp only [jobs, Schedule.start, List.map_append, List.mem_append] at ha ⊢
    tauto
  | finish => exact hfinishAt _
  | interrupt => exact ha
  | drain => exact hfinishAt _
  | abandon =>
    simp only [jobs, Schedule.abandon, List.map_append, List.mem_append, List.map_map] at ha ⊢
    tauto

/-- What has started by an event had done so before, unless something still waited. -/
theorem launch_of_step (e : Step p s t) {a : α × Nat} (ha : a ∈ t.jobs.map launch) :
    a ∈ s.jobs.map launch ∨ s.waiting ≠ [] := by
  have hfinishAt : ∀ instant, a ∈ (s.finishAt instant).jobs.map launch → a ∈ s.jobs.map launch :=
    fun instant => ((jobs_finishAt_perm s instant).map launch).mem_iff.1
  cases e with
  | start _ hwaiting => exact .inr (by simp [hwaiting])
  | finish => exact .inl (hfinishAt _ ha)
  | interrupt => exact .inl ha
  | drain => exact .inl (hfinishAt _ ha)
  | abandon =>
    left
    simp only [jobs, Schedule.abandon, List.map_append, List.mem_append, List.map_map] at ha ⊢
    simp only [List.map_nil, List.not_mem_nil, or_false] at ha
    tauto

theorem waiting_of_step (e : Step p s t) (h : t.waiting ≠ []) : s.waiting ≠ [] := by
  cases e with
  | start _ hwaiting => simp [hwaiting]
  | finish | interrupt | drain | abandon => exact h

/-! ### Slots -/

/-- What held of the slots at the instants that have passed: no more jobs than slots, and just as
many before the interrupt and while some job has not started. -/
structure Occupied (p : Plan α) (began : Nat) (s : Schedule α) : Prop where
  bound : ∀ i < s.now, countAt s.jobs i ≤ p.slots
  busy : ∀ i < s.now, began ≤ i → isBefore i p.stop = true →
    s.waiting ≠ [] ∨ (∃ j ∈ s.jobs, i < j.start) → countAt s.jobs i = p.slots

theorem occupied_initial (p : Plan α) (now : Nat) (items : List α) :
    Occupied p now (initial p.slots now items) := by
  refine ⟨fun i _ => by simp [initial, jobs, countAt], fun i hi hle => ?_⟩
  exact absurd (lt_of_lt_of_le hi hle) (lt_irrefl _)

/-- While the clock moves before the interrupt and a job waits, no slot is free. -/
theorem Step.length_running_eq (e : Step p s t) (hs : Slotted p s) (hph : Phased p began s)
    {i : Nat} (hnow : s.now ≤ i) (hi : i < t.now) (hbefore : isBefore i p.stop = true)
    (hwaiting : s.waiting ≠ []) : s.running.length = p.slots := by
  have hnowBefore : isBefore s.now p.stop = true := isBefore_of_le hnow hbefore
  have hnone := hph.limit_eq_none hnowBefore
  have hfull : s.free = 0 → s.running.length = p.slots := by
    intro hfree
    simpa [Slotted, hfree] using hs
  cases e with
  | start => exact absurd hi (not_lt.2 hnow)
  | finish _ hfree _ _ => exact hfull (hfree hwaiting hnowBefore)
  | interrupt _ _ hfree _ => exact hfull (hfree hwaiting hnowBefore)
  | drain hlimit _ _ => simp [hnone] at hlimit
  | abandon hlimit _ _ => simp [hnone] at hlimit

/-- The clock moves without an interrupt only up to one. -/
theorem Step.isBefore_now (e : Step p s t) (hlimit : s.limit = none) (hlt : s.now < t.now) :
    isBefore s.now p.stop = true := by
  cases e with
  | start => exact absurd hlt (lt_irrefl _)
  | finish _ _ _ hbefore => exact isBefore_of_le hlt.le hbefore
  | interrupt _ hstop _ _ =>
    rw [hstop, isBefore_some]
    exact (lt_max_iff.1 hlt).resolve_left (lt_irrefl _)
  | drain hsome _ _ => simp [hlimit] at hsome
  | abandon hsome _ _ => simp [hlimit] at hsome

theorem Occupied.step (h : Occupied p began s) (hs : Slotted p s) (ht : Timed p began s)
    (hph : Phased p began s) (e : Step p s t) : Occupied p began t := by
  refine ⟨fun i hi => ?_, fun i hi hle hbefore hlater => ?_⟩
  · rw [countAt_step ht e hi]
    split
    · exact h.bound i ‹_›
    · exact hs.length_running_le
  · have hlater : s.waiting ≠ [] ∨ ∃ j ∈ s.jobs, i < j.start := by
      rcases hlater with hwaiting | ⟨j, hj, hlt⟩
      · exact .inl (waiting_of_step e hwaiting)
      · rcases launch_of_step e (List.mem_map_of_mem hj) with hj' | hwaiting
        · obtain ⟨k, hk, hlaunch⟩ := List.mem_map.1 hj'
          exact .inr ⟨k, hk, hlt.trans_eq (congrArg Prod.snd hlaunch).symm⟩
        · exact .inl hwaiting
    rw [countAt_step ht e hi]
    split
    · exact h.busy i ‹_› hle hbefore hlater
    · rename_i hnow
      -- a job that has started by now cannot start later than an instant from now on
      refine e.length_running_eq hs hph (not_lt.1 hnow) hi hbefore (hlater.resolve_right ?_)
      rintro ⟨j, hj, hlt⟩
      exact hnow (hlt.trans_le (ht.started j hj).2)

theorem Reached.occupied {items : List α} (r : Reached p (initial p.slots began items) s) :
    Occupied p began s :=
  (r.keep (I := fun s => Occupied p began s ∧ Slotted p s ∧ Timed p began s ∧ Phased p began s)
    (fun ⟨ho, hs, ht, hph⟩ e => ⟨ho.step hs ht hph e, hs.step e, ht.step e, hph.step ht e⟩)
    ⟨occupied_initial p began items, slotted_initial p began items, timed_initial p began items,
      phased_initial p began items⟩).1

/-! ### The grace period -/

/-- From the interrupt on, the clock has moved only while some job was not at its end. -/
def Draining (p : Plan α) (began : Nat) (s : Schedule α) : Prop :=
  ∀ limit, s.limit = some limit → ∀ stop, p.stop = some stop → ∀ i < s.now, max began stop ≤ i →
    ∃ a ∈ s.jobs.map launch, a.2 ≤ i ∧ i < a.2 + p.duration a.1

/-- A running job is carried out until its end. -/
theorem exists_launch_of_running (ht : Timed p began s) {instant i : Nat}
    (hfirst : s.firstFinish? = some instant) (hnow : s.now ≤ i) (hlt : i < instant) :
    ∃ a ∈ s.jobs.map launch, a.2 ≤ i ∧ i < a.2 + p.duration a.1 := by
  obtain ⟨j, hj, rfl⟩ := exists_finish_eq_of_firstFinish? hfirst
  have hjobs : j ∈ s.jobs := mem_jobs.2 (.inr (.inr hj))
  exact ⟨launch j, List.mem_map_of_mem hjobs, (ht.started j hjobs).2.trans hnow,
    hlt.trans_eq (ht.running j hj).2⟩

theorem Draining.step (h : Draining p began s) (ht : Timed p began s) (hph : Phased p began s)
    (e : Step p s t) : Draining p began t := by
  intro limit hlimit stop hstop i hi hle
  -- the job that was not at its end before the event, or that the clock waits for
  have hjob : ∀ limit instant, s.limit = some limit → s.firstFinish? = some instant →
      i < instant → ∃ a ∈ t.jobs.map launch, a.2 ≤ i ∧ i < a.2 + p.duration a.1 := by
    intro limit instant hlimit hfirst hlt
    have hs : ∃ a ∈ s.jobs.map launch, a.2 ≤ i ∧ i < a.2 + p.duration a.1 := by
      by_cases hnow : i < s.now
      · exact h limit hlimit stop hstop i hnow hle
      · exact exists_launch_of_running ht hfirst (not_lt.1 hnow) hlt
    obtain ⟨a, ha, hai⟩ := hs
    exact ⟨a, launch_step e ha, hai⟩
  cases e with
  | start hnone => exact absurd (hlimit.symm.trans hnone) (by simp)
  | finish hnone => exact absurd (hlimit.symm.trans hnone) (by simp)
  | interrupt hnone hstop' =>
    obtain rfl := Option.some.inj (hstop.symm.trans hstop')
    exact absurd (hi.trans_eq (hph.max_now_eq ht hnone hstop)) (not_lt.2 hle)
  | drain hsome hfirst _ => exact hjob _ _ hsome hfirst hi
  | abandon hsome hfirst hlast => exact hjob _ _ hsome hfirst (hi.trans_le hlast)

theorem Reached.draining {items : List α} (r : Reached p (initial p.slots began items) s) :
    Draining p began s :=
  (r.keep (I := fun s => Draining p began s ∧ Timed p began s ∧ Phased p began s)
    (fun ⟨hd, ht, hph⟩ e => ⟨hd.step ht hph e, ht.step e, hph.step ht e⟩)
    ⟨by simp [Draining, initial], timed_initial p began items, phased_initial p began items⟩).1

end Schedule

end Inspection
