import Inspection.Run.Schedule
import Mathlib.Order.Nat

/-!
# Schedule — What every event keeps

A schedule is *reached* from another when events lead from one to the other.  Each of the
invariants below holds at the start and is kept by every kind of event, so it holds of every
schedule that is reached.

* `Slotted`: every slot is free or held by exactly one running job.
* `Ordered`: the jobs have started in the order in which they waited.
* `Timed`: how the instants of the jobs lie about the clock.
* `Phased`: before the interrupt nothing is given up, and after it nothing starts.

`reached_run` says that a run reaches its end, and `Reached.over` that nothing runs there.
-/

namespace Inspection

namespace Schedule

variable {α : Type} {p : Plan α} {began : Nat} {items : List α} {s t : Schedule α}

/-- Events lead from the one to the other. -/
inductive Reached (p : Plan α) : Schedule α → Schedule α → Prop where
  | refl (s : Schedule α) : Reached p s s
  | more {s t u : Schedule α} (h : next? p s = some t) (r : Reached p t u) : Reached p s u

/-- What every event keeps holds of all that is reached. -/
theorem Reached.keep {I : Schedule α → Prop} (hI : ∀ {s t}, I s → Step p s t → I t)
    (r : Reached p s t) (h : I s) : I t := by
  induction r with
  | refl => exact h
  | more hnext _ ih => exact ih (hI h (step_of_next? hnext))

theorem reached_run (p : Plan α) (s : Schedule α) : Reached p s (s.run p) := by
  fun_induction run p s with
  | case1 s t h ih => exact .more h ih
  | case2 s h => exact .refl s

/-- A run goes on as long as something happens. -/
theorem next?_run (p : Plan α) (s : Schedule α) : next? p (s.run p) = none := by
  fun_induction run p s with
  | case1 s t h ih => exact ih
  | case2 s h => exact h

theorem mem_jobs {j : Job α} :
    j ∈ s.jobs ↔ j ∈ s.finished ∨ j ∈ s.abandoned ∨ j ∈ s.running := by
  simp [jobs]

/-- The jobs that end at an instant have only moved. -/
theorem jobs_finishAt_perm (s : Schedule α) (instant : Nat) :
    (s.finishAt instant).jobs.Perm s.jobs := by
  have hpart : (s.running.filter (fun j => decide (j.finish ≤ instant)) ++
      s.running.filter fun j => decide (instant < j.finish)).Perm s.running := by
    have := List.filter_append_perm (fun j => decide (j.finish ≤ instant)) s.running
    simpa only [← decide_not, Nat.not_le] using this
  simp only [jobs, finishAt, List.append_assoc]
  refine List.Perm.append_left _ (List.Perm.trans ?_ (List.Perm.append_left s.abandoned hpart))
  rw [← List.append_assoc, ← List.append_assoc]
  exact List.Perm.append_right _ List.perm_append_comm

/-! ### Slots -/

/-- Every slot is free or held by exactly one running job. -/
def Slotted (p : Plan α) (s : Schedule α) : Prop := s.free + s.running.length = p.slots

theorem slotted_initial (p : Plan α) (now : Nat) (items : List α) :
    Slotted p (initial p.slots now items) := rfl

/-- The jobs that end give back as many slots as they held. -/
theorem Slotted.finishAt (h : Slotted p s) (instant : Nat) : Slotted p (s.finishAt instant) := by
  have hpart := (List.filter_append_perm (fun j => decide (j.finish ≤ instant)) s.running).length_eq
  simp only [List.length_append, ← decide_not, Nat.not_le] at hpart
  simp only [Slotted, Schedule.finishAt] at h ⊢
  omega

theorem Slotted.step (h : Slotted p s) (e : Step p s t) : Slotted p t := by
  cases e with
  | start _ _ _ hfree =>
    simp only [Slotted, Schedule.start, List.length_append, List.length_singleton] at h ⊢
    omega
  | finish => exact h.finishAt _
  | interrupt => exact h
  | drain => exact h.finishAt _
  | abandon =>
    simp only [Slotted, Schedule.abandon, List.length_nil] at h ⊢
    omega

theorem Slotted.length_running_le (h : Slotted p s) : s.running.length ≤ p.slots := by
  simp only [Slotted] at h
  omega

/-! ### Instants -/

/-- How the instants of the jobs lie about the clock. -/
structure Timed (p : Plan α) (began : Nat) (s : Schedule α) : Prop where
  began_le : began ≤ s.now
  started : ∀ j ∈ s.jobs, began ≤ j.start ∧ j.start ≤ s.now
  running : ∀ j ∈ s.running, s.now ≤ j.finish ∧ j.finish = j.start + p.duration j.item
  finished : ∀ j ∈ s.finished, j.finish ≤ s.now ∧ j.finish = j.start + p.duration j.item
  abandoned : ∀ j ∈ s.abandoned, j.finish ≤ s.now ∧ j.finish ≤ j.start + p.duration j.item
  limit : ∀ limit, s.limit = some limit → s.now ≤ limit

theorem timed_initial (p : Plan α) (now : Nat) (items : List α) :
    Timed p now (initial p.slots now items) := by
  constructor <;> simp [initial, jobs]

/-- The clock never goes past the first end of a running job. -/
theorem Timed.now_le_firstFinish (h : Timed p began s) {instant : Nat}
    (hfirst : s.firstFinish? = some instant) : s.now ≤ instant := by
  obtain ⟨j, hj, rfl⟩ := exists_finish_eq_of_firstFinish? hfirst
  exact (h.running j hj).1

theorem Timed.finishAt (h : Timed p began s) {instant : Nat}
    (hfirst : s.firstFinish? = some instant)
    (hlimit : ∀ limit, s.limit = some limit → instant ≤ limit) :
    Timed p began (s.finishAt instant) := by
  have hnow : s.now ≤ instant := h.now_le_firstFinish hfirst
  refine ⟨h.began_le.trans hnow, fun j hj => ?_, fun j hj => ?_, fun j hj => ?_, fun j hj => ?_,
    hlimit⟩
  · have hj := h.started j ((jobs_finishAt_perm s instant).mem_iff.1 hj)
    exact ⟨hj.1, hj.2.trans hnow⟩
  · obtain ⟨hj, hlt⟩ := List.mem_filter.1 hj
    exact ⟨(of_decide_eq_true hlt).le, (h.running j hj).2⟩
  · rcases List.mem_append.1 hj with hj | hj
    · exact ⟨(h.finished j hj).1.trans hnow, (h.finished j hj).2⟩
    · obtain ⟨hj, hle⟩ := List.mem_filter.1 hj
      exact ⟨of_decide_eq_true hle, (h.running j hj).2⟩
  · exact ⟨(h.abandoned j hj).1.trans hnow, (h.abandoned j hj).2⟩

theorem Timed.step (h : Timed p began s) (e : Step p s t) : Timed p began t := by
  cases e with
  | start hlimit hwaiting =>
    refine ⟨h.began_le, fun j hj => ?_, fun j hj => ?_, h.finished, h.abandoned, h.limit⟩
    · rcases mem_jobs.1 hj with hj | hj | hj
      · exact h.started j (mem_jobs.2 (.inl hj))
      · exact h.started j (mem_jobs.2 (.inr (.inl hj)))
      · rcases List.mem_append.1 hj with hj | hj
        · exact h.started j (mem_jobs.2 (.inr (.inr hj)))
        · obtain rfl := List.mem_singleton.1 hj
          exact ⟨h.began_le, le_rfl⟩
    · rcases List.mem_append.1 hj with hj | hj
      · exact h.running j hj
      · obtain rfl := List.mem_singleton.1 hj
        exact ⟨Nat.le_add_right _ _, rfl⟩
  | finish hlimit _ hfirst => exact h.finishAt hfirst (by simp [hlimit])
  | drain hlimit hfirst hlt => exact h.finishAt hfirst (by simp [hlimit, hlt.le])
  | interrupt hlimit _ _ hlater =>
    have hnow := le_max_left s.now ‹Nat›
    refine ⟨h.began_le.trans hnow, fun j hj => ?_, fun j hj => ?_, fun j hj => ?_, fun j hj => ?_,
      ?_⟩
    · exact ⟨(h.started j hj).1, (h.started j hj).2.trans hnow⟩
    · exact ⟨max_le (h.running j hj).1 (hlater j hj), (h.running j hj).2⟩
    · exact ⟨(h.finished j hj).1.trans hnow, (h.finished j hj).2⟩
    · exact ⟨(h.abandoned j hj).1.trans hnow, (h.abandoned j hj).2⟩
    · intro limit hl
      obtain rfl := Option.some.inj hl
      exact Nat.le_add_right _ _
  | @abandon limit instant hlimit hfirst hle =>
    have hnow : s.now ≤ limit := h.limit limit hlimit
    have hrunning : ∀ j ∈ s.running, limit ≤ j.finish :=
      fun j hj => hle.trans (le_finish_of_firstFinish? hfirst j hj)
    refine ⟨h.began_le.trans hnow, fun j hj => ?_, by simp [Schedule.abandon], fun j hj => ?_,
      fun j hj => ?_, by simp [Schedule.abandon, hlimit]⟩
    · rcases mem_jobs.1 hj with hj | hj | hj
      · exact (h.started j (mem_jobs.2 (.inl hj))).imp_right (·.trans hnow)
      · rcases List.mem_append.1 hj with hj | hj
        · exact (h.started j (mem_jobs.2 (.inr (.inl hj)))).imp_right (·.trans hnow)
        · obtain ⟨i, hi, rfl⟩ := List.mem_map.1 hj
          exact (h.started i (mem_jobs.2 (.inr (.inr hi)))).imp_right (·.trans hnow)
      · cases hj
    · exact ⟨(h.finished j hj).1.trans hnow, (h.finished j hj).2⟩
    · rcases List.mem_append.1 hj with hj | hj
      · exact ⟨(h.abandoned j hj).1.trans hnow, (h.abandoned j hj).2⟩
      · obtain ⟨i, hi, rfl⟩ := List.mem_map.1 hj
        exact ⟨le_rfl, (hrunning i hi).trans (h.running i hi).2.le⟩

/-! ### The interrupt -/

/-- Before the interrupt nothing is given up, and after it nothing starts. -/
structure Phased (p : Plan α) (began : Nat) (s : Schedule α) : Prop where
  started : ∀ j ∈ s.jobs, isBefore j.start p.stop = true
  early : s.limit = none → s.abandoned = [] ∧ (isBefore s.now p.stop = true ∨ s.now = began)
  late : ∀ limit, s.limit = some limit →
    ∃ stop, p.stop = some stop ∧ limit = max began stop + p.grace ∧ max began stop ≤ s.now
  finished : ∀ j ∈ s.finished, ∀ stop, p.stop = some stop →
    j.finish < max began stop + p.grace
  abandoned : ∀ j ∈ s.abandoned, s.limit = some j.finish ∧ s.running = []

theorem phased_initial (p : Plan α) (now : Nat) (items : List α) :
    Phased p now (initial p.slots now items) := by
  constructor <;> simp [initial, jobs]

theorem isBefore_some {instant stop : Nat} : isBefore instant (some stop) = true ↔ instant < stop :=
  by simp [isBefore]

/-- An instant before another that is before the interrupt is before it too. -/
theorem isBefore_of_le {a b : Nat} {stop : Option Nat} (hab : a ≤ b)
    (h : isBefore b stop = true) : isBefore a stop = true := by
  cases stop with
  | none => rfl
  | some stop => exact isBefore_some.2 (hab.trans_lt (isBefore_some.1 h))

theorem Phased.finishAt (h : Phased p began s) {instant : Nat}
    (hfirst : s.firstFinish? = some instant)
    (hearly : s.limit = none → isBefore instant p.stop = true)
    (hlate : ∀ stop, p.stop = some stop → instant < max began stop + p.grace)
    (hnow : s.now ≤ instant) : Phased p began (s.finishAt instant) := by
  have hrunning : s.running ≠ [] := by
    intro hnil
    rw [firstFinish?_eq_none_iff.2 hnil] at hfirst
    cases hfirst
  refine ⟨fun j hj => ?_, fun hlimit => ⟨(h.early hlimit).1, .inl (hearly hlimit)⟩,
    fun limit hlimit => ?_, fun j hj stop hstop => ?_, fun j hj => ?_⟩
  · exact h.started j ((jobs_finishAt_perm s instant).mem_iff.1 hj)
  · obtain ⟨stop, hstop, hl, hle⟩ := h.late limit hlimit
    exact ⟨stop, hstop, hl, hle.trans hnow⟩
  · rcases List.mem_append.1 hj with hj | hj
    · exact h.finished j hj stop hstop
    · exact (of_decide_eq_true (List.mem_filter.1 hj).2).trans_lt (hlate stop hstop)
  · exact absurd (h.abandoned j hj).2 hrunning

/-- Before the interrupt the clock has not gone past it, unless nothing has happened at all. -/
theorem Phased.max_now_eq (h : Phased p began s) (ht : Timed p began s) (hlimit : s.limit = none)
    {stop : Nat} (hstop : p.stop = some stop) : max s.now stop = max began stop := by
  rcases (h.early hlimit).2 with hbefore | hnow
  · rw [hstop, isBefore_some] at hbefore
    rw [max_eq_right hbefore.le, max_eq_right (ht.began_le.trans hbefore.le)]
  · rw [hnow]

/-- As long as the clock is before the interrupt, that has not come. -/
theorem Phased.limit_eq_none (h : Phased p began s) (hbefore : isBefore s.now p.stop = true) :
    s.limit = none := by
  refine Option.eq_none_iff_forall_ne_some.2 fun limit hlimit => ?_
  obtain ⟨stop, hstop, -, hle⟩ := h.late limit hlimit
  rw [hstop, isBefore_some] at hbefore
  exact absurd ((le_max_right _ _).trans hle) (not_le.2 hbefore)

theorem Phased.step (h : Phased p began s) (ht : Timed p began s) (e : Step p s t) :
    Phased p began t := by
  cases e with
  | start hlimit hwaiting hbefore hfree =>
    refine ⟨fun j hj => ?_, h.early, h.late, h.finished, fun j hj => ?_⟩
    · rcases mem_jobs.1 hj with hj | hj | hj
      · exact h.started j (mem_jobs.2 (.inl hj))
      · exact h.started j (mem_jobs.2 (.inr (.inl hj)))
      · rcases List.mem_append.1 hj with hj | hj
        · exact h.started j (mem_jobs.2 (.inr (.inr hj)))
        · obtain rfl := List.mem_singleton.1 hj
          exact hbefore
    · rw [Schedule.start, (h.early hlimit).1] at hj
      cases hj
  | finish hlimit _ hfirst hbefore =>
    refine h.finishAt hfirst (fun _ => hbefore) (fun stop hstop => ?_)
      (ht.now_le_firstFinish hfirst)
    rw [hstop, isBefore_some] at hbefore
    exact hbefore.trans_le ((le_max_right _ _).trans (Nat.le_add_right _ _))
  | drain hlimit hfirst hlt =>
    refine h.finishAt hfirst (by simp [hlimit]) (fun stop hstop => ?_)
      (ht.now_le_firstFinish hfirst)
    obtain ⟨stop', hstop', rfl, -⟩ := h.late _ hlimit
    obtain rfl := Option.some.inj (hstop.symm.trans hstop')
    exact hlt
  | @interrupt stop hlimit hstop _ _ =>
    have hbegan := h.max_now_eq ht hlimit hstop
    refine ⟨h.started, by simp [Schedule.interrupt], fun limit hl => ⟨stop, hstop, ?_, ?_⟩,
      h.finished, fun j hj => ?_⟩
    · rw [← hbegan]
      exact (Option.some.inj hl).symm
    · exact hbegan.ge
    · rw [Schedule.interrupt, (h.early hlimit).1] at hj
      cases hj
  | @abandon limit instant hlimit hfirst hle =>
    -- what still runs is given up all at once, so nothing has been given up before
    have hnil : s.abandoned = [] := by
      refine List.eq_nil_iff_forall_not_mem.2 fun j hj => ?_
      rw [firstFinish?_eq_none_iff.2 (h.abandoned j hj).2] at hfirst
      cases hfirst
    refine ⟨fun j hj => ?_, by simp [Schedule.abandon, hlimit], fun l hl => ?_, h.finished,
      fun j hj => ?_⟩
    · rcases mem_jobs.1 hj with hj | hj | hj
      · exact h.started j (mem_jobs.2 (.inl hj))
      · rw [Schedule.abandon, hnil, List.nil_append] at hj
        obtain ⟨i, hi, rfl⟩ := List.mem_map.1 hj
        exact h.started i (mem_jobs.2 (.inr (.inr hi)))
      · cases hj
    · obtain ⟨stop, hstop, hl', hnow⟩ := h.late limit hlimit
      obtain rfl := Option.some.inj (hlimit.symm.trans hl)
      exact ⟨stop, hstop, hl', hnow.trans (ht.limit limit hlimit)⟩
    · rw [Schedule.abandon, hnil, List.nil_append] at hj
      obtain ⟨i, hi, rfl⟩ := List.mem_map.1 hj
      exact ⟨hlimit, rfl⟩

/-! ### The order of the starts -/

/-- What of a job is settled when it starts. -/
def launch (j : Job α) : α × Nat := (j.item, j.start)

/-- The jobs have started in the order in which they waited, and the rest still waits. -/
def Ordered (items : List α) (s : Schedule α) : Prop :=
  ∃ log : List (α × Nat), log.map Prod.fst ++ s.waiting = items ∧
    log.Pairwise (fun a b => a.2 ≤ b.2) ∧ (s.jobs.map launch).Perm log

theorem ordered_initial (slots now : Nat) (items : List α) :
    Ordered items (initial slots now items) :=
  ⟨[], by simp [initial], .nil, by simp [initial, jobs]⟩

theorem Ordered.step (h : Ordered items s) (ht : Timed p began s) (e : Step p s t) :
    Ordered items t := by
  obtain ⟨log, hitems, hsorted, hperm⟩ := h
  cases e with
  | @start item rest _ hwaiting _ _ =>
    refine ⟨log ++ [(item, s.now)], ?_, ?_, ?_⟩
    · rw [← hitems, hwaiting]
      simp [Schedule.start]
    · refine List.pairwise_append.2 ⟨hsorted, List.pairwise_singleton _ _, fun a ha b hb => ?_⟩
      obtain ⟨j, hj, rfl⟩ := List.mem_map.1 (hperm.mem_iff.2 ha)
      obtain rfl := List.mem_singleton.1 hb
      exact (ht.started j hj).2
    · simp only [jobs, Schedule.start, ← List.append_assoc, List.map_append]
      simp only [jobs, List.map_append] at hperm
      exact hperm.append_right _
  | finish =>
    exact ⟨log, hitems, hsorted, ((jobs_finishAt_perm s _).map _).trans hperm⟩
  | interrupt => exact ⟨log, hitems, hsorted, hperm⟩
  | drain =>
    exact ⟨log, hitems, hsorted, ((jobs_finishAt_perm s _).map _).trans hperm⟩
  | abandon =>
    refine ⟨log, hitems, hsorted, ?_⟩
    have hlaunch : ∀ limit : Nat, (s.running.map fun j => { j with finish := limit }).map
        launch = s.running.map launch := fun limit => by simp [launch]
    simpa [jobs, Schedule.abandon, hlaunch] using hperm

/-! ### Runs -/

theorem Reached.slotted (r : Reached p (initial p.slots began items) s) : Slotted p s :=
  r.keep (fun h e => h.step e) (slotted_initial p began items)

theorem Reached.timed (r : Reached p (initial p.slots began items) s) : Timed p began s :=
  r.keep (fun h e => h.step e) (timed_initial p began items)

theorem Reached.phased (r : Reached p (initial p.slots began items) s) : Phased p began s :=
  (r.keep (I := fun s => Phased p began s ∧ Timed p began s)
    (fun h e => ⟨h.1.step h.2 e, h.2.step e⟩)
    ⟨phased_initial p began items, timed_initial p began items⟩).1

theorem Reached.ordered (r : Reached p (initial p.slots began items) s) : Ordered items s :=
  (r.keep (I := fun s => Ordered items s ∧ Timed p began s)
    (fun h e => ⟨h.1.step h.2 e, h.2.step e⟩)
    ⟨ordered_initial p.slots began items, timed_initial p began items⟩).1

/-- Where nothing happens any more nothing runs, and what still waits was kept from starting by
the interrupt: no slot is lost on the way. -/
theorem Slotted.over (hs : Slotted p s) (hslots : 0 < p.slots) (h : next? p s = none) :
    s.running = [] ∧ (s.limit = none → s.waiting = []) := by
  -- before the interrupt the clock advances only if nothing runs and nothing waits
  have hadvance : s.limit = none → next?.advance p s = none →
      (s.waiting ≠ [] → isBefore s.now p.stop = true → s.free = 0) →
      s.running = [] ∧ s.waiting = [] := by
    intro hlimit hadv hfull
    unfold next?.advance at hadv
    have hnever : next?.interrupted p s = none → p.stop = none := by
      simp [next?.interrupted]
    split at hadv
    · split at hadv
      · cases hadv
      · rename_i hbefore
        simp [hnever hadv, isBefore] at hbefore
    · rename_i hfirst
      have hrunning := firstFinish?_eq_none_iff.1 hfirst
      refine ⟨hrunning, ?_⟩
      split at hadv
      · rename_i hempty
        exact List.isEmpty_iff.1 hempty
      · by_contra hne
        have hfree := hfull hne (by simp [hnever hadv, isBefore])
        simp only [Slotted, hfree, hrunning, List.length_nil] at hs
        omega
  unfold next? at h
  split at h
  · rename_i hlimit
    refine ⟨firstFinish?_eq_none_iff.1 (Option.map_eq_none_iff.1 h), fun hnone => ?_⟩
    rw [hnone] at hlimit
    cases hlimit
  · rename_i hlimit hwaiting
    split at h
    · cases h
    · rename_i hstart
      have := hadvance hlimit h fun _ hbefore => by simpa [hbefore] using hstart
      exact ⟨this.1, fun _ => this.2⟩
  · rename_i hlimit hwaiting
    have := hadvance hlimit h fun hne => absurd hwaiting hne
    exact ⟨this.1, fun _ => this.2⟩

end Schedule

end Inspection
