import Inspection.Report.Basic

/-!
# Report — What makes a status

Nothing is more serious than an error, so one that stands anywhere below a status is the status
(`Severity.worst_eq_error_iff`).  A run is an error where it has a gap: a broken task, one skipped
by the interrupt, an unfinished or an aborted node.  Else its status is the most serious of its
records' severities, whatever the tasks and nodes these belong to.

* `Severity.worst_eq_iff`: the most serious of many, as the greatest.
* `RunReport.Gap`, `RunReport.severities`: the two things that count for a run.
* `RunReport.status_of_gap`, `RunReport.status_of_not_gap`: the status from them.
-/

namespace Inspection

namespace Sample

/-- A report of one step on one node that has put out a text. -/
def report (mode : RunMode) (output : String) : RunReport where
  version := .finite [4, 2]
  mode
  tasks := [{
    task := "t"
    info := ""
    range := .any
    nodes := [{
      node := "n"
      steps := [{
        index := 1
        kind := .ssh
        command := "c"
        output
        verdict := .passed
        severity := .pass }] }] }]

end Sample

namespace Severity

theorem worse_eq_error_iff {a b : Severity} : a.worse b = error ↔ a = error ∨ b = error := by
  cases a <;> cases b <;> decide

/-- The most serious of many is an error exactly if one of them is. -/
theorem worst_eq_error_iff {l : List Severity} : worst l = error ↔ error ∈ l := by
  induction l with
  | nil => simp [worst]
  | cons s rest ih => rw [worst, worse_eq_error_iff, ih, List.mem_cons, eq_comm]

theorem rank_injective {a b : Severity} (h : a.rank = b.rank) : a = b := by
  revert h
  cases a <;> cases b <;> decide

theorem rank_worse (a b : Severity) : (a.worse b).rank = max a.rank b.rank := by
  cases a <;> cases b <;> decide

theorem rank_worst_le_iff {l : List Severity} {n : Nat} :
    (worst l).rank ≤ n ↔ ∀ s ∈ l, s.rank ≤ n := by
  induction l with
  | nil => simp [worst, rank]
  | cons s rest ih => rw [worst, rank_worse, Nat.max_le, ih, List.forall_mem_cons]

theorem worst_eq_pass_or_mem (l : List Severity) : worst l = pass ∨ worst l ∈ l := by
  induction l with
  | nil => exact .inl rfl
  | cons s rest ih =>
    rw [worst, worse]
    split
    · exact ih.imp_right (List.mem_cons_of_mem s)
    · exact .inr List.mem_cons_self

/-- The most serious of many is one of them and no less than any, and `pass` if there is none. -/
theorem worst_eq_iff {l : List Severity} {s : Severity} :
    worst l = s ↔ (∀ t ∈ l, t.rank ≤ s.rank) ∧ (s = pass ∨ s ∈ l) := by
  constructor
  · rintro rfl
    exact ⟨rank_worst_le_iff.1 (Nat.le_refl _), worst_eq_pass_or_mem l⟩
  · rintro ⟨hle, hmem⟩
    refine rank_injective (Nat.le_antisymm (rank_worst_le_iff.2 hle) ?_)
    rcases hmem with rfl | hmem
    · exact Nat.zero_le _
    · exact rank_worst_le_iff.1 (Nat.le_refl _) s hmem

/-- It makes no difference whether the worst is taken group by group. -/
theorem worst_flatMap {α : Type} (f : α → List Severity) (l : List α) :
    worst (l.flatMap f) = worst (l.map fun a => worst (f a)) := by
  -- both have the same upper bounds
  have hle (n : Nat) :
      (worst (l.flatMap f)).rank ≤ n ↔ (worst (l.map fun a => worst (f a))).rank ≤ n := by
    simp only [rank_worst_le_iff, List.forall_mem_flatMap, List.forall_mem_map]
  exact rank_injective (Nat.le_antisymm ((hle _).2 (Nat.le_refl _)) ((hle _).1 (Nat.le_refl _)))

section NoError

variable {l : List Severity} (h : error ∉ l)

include h

theorem worst_eq_critical_iff : worst l = critical ↔ critical ∈ l := by
  rw [worst_eq_iff]
  refine ⟨fun hl => hl.2.resolve_left (by decide), fun hmem => ⟨fun s hs => ?_, .inr hmem⟩⟩
  cases s with
  | error => exact absurd hs h
  | pass | warning | critical => decide

theorem worst_eq_warning_iff : worst l = warning ↔ critical ∉ l ∧ warning ∈ l := by
  rw [worst_eq_iff]
  constructor
  · rintro ⟨hle, hmem⟩
    exact ⟨fun hcritical => absurd (hle _ hcritical) (by decide), hmem.resolve_left (by decide)⟩
  · rintro ⟨hcritical, hmem⟩
    refine ⟨fun s hs => ?_, .inr hmem⟩
    cases s with
    | error => exact absurd hs h
    | critical => exact absurd hs hcritical
    | pass | warning => decide

theorem worst_eq_pass_iff : worst l = pass ↔ critical ∉ l ∧ warning ∉ l := by
  rw [worst_eq_iff]
  constructor
  · rintro ⟨hle, -⟩
    exact ⟨fun hcritical => absurd (hle _ hcritical) (by decide),
      fun hwarning => absurd (hle _ hwarning) (by decide)⟩
  · rintro ⟨hcritical, hwarning⟩
    refine ⟨fun s hs => ?_, .inl rfl⟩
    cases s with
    | error => exact absurd hs h
    | critical => exact absurd hs hcritical
    | warning => exact absurd hs hwarning
    | pass => decide

end NoError

end Severity

namespace NodeReport

theorem status_of_isAborted {r : NodeReport} (h : r.isAborted = true) : r.status = .error := by
  rw [isAborted] at h
  rw [status]
  cases houtcome : r.outcome with
  | completed => simp [houtcome] at h
  | aborted step reason => rfl

theorem status_of_not_isAborted {r : NodeReport} (h : r.isAborted = false) :
    r.status = Severity.worst (r.steps.map (·.severity)) := by
  rw [isAborted] at h
  rw [status]
  cases houtcome : r.outcome with
  | completed => rfl
  | aborted step reason => simp [houtcome] at h

end NodeReport

theorem TaskReport.status_eq_error_of_unfinished {r : TaskReport} (h : r.unfinished ≠ []) :
    r.status = .error := by
  rw [TaskReport.status, if_neg (by simpa using h)]

theorem TaskReport.status_eq_error_of_node {r : TaskReport} {n : NodeReport} (hmem : n ∈ r.nodes)
    (h : n.status = .error) : r.status = .error := by
  rw [TaskReport.status]
  split
  · exact Severity.worst_eq_error_iff.2 (h ▸ List.mem_map_of_mem hmem)
  · rfl

namespace RunReport

/-- Something that was to be carried out has not been. -/
inductive Gap (r : RunReport) : Prop where
  | broken {task : BrokenTask} (hmem : task ∈ r.broken)
  | interrupted {task : SkippedTask} (hmem : task ∈ r.skipped) (h : task.interrupted = true)
  | unfinished {t : TaskReport} {node : String} (hmem : t ∈ r.tasks) (h : node ∈ t.unfinished)
  | aborted {t : TaskReport} {n : NodeReport} (hmem : t ∈ r.tasks) (hnode : n ∈ t.nodes)
      (h : n.isAborted = true)

/-- The severities of all records. -/
def severities (r : RunReport) : List Severity :=
  r.tasks.flatMap fun t => t.nodes.flatMap fun n => n.steps.map (·.severity)

theorem exitCode_eq_one {r : RunReport} (h : r.status = .error) : r.exitCode = 1 := by
  rw [exitCode, h]
  rfl

theorem status_eq_error_of_skip {r : RunReport} {task : SkippedTask} (hmem : task ∈ r.skipped)
    (h : task.interrupted = true) : r.status = .error := by
  have hincomplete : r.isIncomplete = true := by
    rw [isIncomplete, Bool.or_eq_true]
    exact .inr (List.any_eq_true.2 ⟨task, hmem, h⟩)
  rw [RunReport.status, if_pos hincomplete]

theorem status_eq_error_of_task {r : RunReport} {task : TaskReport} (hmem : task ∈ r.tasks)
    (h : task.status = .error) : r.status = .error := by
  rw [RunReport.status]
  split
  · rfl
  · exact Severity.worst_eq_error_iff.2 (h ▸ List.mem_map_of_mem hmem)

theorem status_of_gap {r : RunReport} (h : r.Gap) : r.status = .error := by
  cases h with
  | broken hmem =>
    have hincomplete : r.isIncomplete = true := by
      rw [isIncomplete, List.isEmpty_eq_false_iff.2 (List.ne_nil_of_mem hmem)]
      rfl
    rw [status, if_pos hincomplete]
  | interrupted hmem h => exact status_eq_error_of_skip hmem h
  | unfinished hmem h =>
    exact status_eq_error_of_task hmem
      (TaskReport.status_eq_error_of_unfinished (List.ne_nil_of_mem h))
  | aborted hmem hnode h =>
    exact status_eq_error_of_task hmem
      (TaskReport.status_eq_error_of_node hnode (NodeReport.status_of_isAborted h))

theorem status_of_not_gap {r : RunReport} (h : ¬r.Gap) :
    r.status = Severity.worst r.severities := by
  have hcomplete : ¬r.isIncomplete = true := by
    rw [isIncomplete, Bool.or_eq_true, not_or]
    refine ⟨fun hbroken => ?_, fun hskip => ?_⟩
    · obtain ⟨task, hmem⟩ := List.exists_mem_of_ne_nil r.broken (by simpa using hbroken)
      exact h (.broken hmem)
    · obtain ⟨task, hmem, hinterrupted⟩ := List.any_eq_true.1 hskip
      exact h (.interrupted hmem hinterrupted)
  have hnode {t : TaskReport} (ht : t ∈ r.tasks) (n : NodeReport) (hn : n ∈ t.nodes) :
      n.status = Severity.worst (n.steps.map (·.severity)) :=
    NodeReport.status_of_not_isAborted (Bool.eq_false_iff.2 fun hn' => h (.aborted ht hn hn'))
  have htask (t : TaskReport) (ht : t ∈ r.tasks) :
      t.status = Severity.worst (t.nodes.flatMap fun n => n.steps.map (·.severity)) := by
    have hfinished : t.unfinished = [] :=
      List.eq_nil_iff_forall_not_mem.2 fun node hmem => h (.unfinished ht hmem)
    rw [TaskReport.status, hfinished, Severity.worst_flatMap,
      ← List.map_congr_left (hnode ht)]
    rfl
  rw [status, if_neg hcomplete, severities, Severity.worst_flatMap, ← List.map_congr_left htask]

theorem status_eq_iff {r : RunReport} {s : Severity} (hs : s ≠ .error) :
    r.status = s ↔ ¬r.Gap ∧ Severity.worst r.severities = s := by
  constructor
  · intro h
    have hgap : ¬r.Gap := fun hgap => hs (h.symm.trans (status_of_gap hgap))
    exact ⟨hgap, (status_of_not_gap hgap).symm.trans h⟩
  · rintro ⟨hgap, h⟩
    exact (status_of_not_gap hgap).trans h

/-- Only an error or something critical makes the process fail. -/
theorem exitCode_eq (r : RunReport) :
    r.exitCode = if r.status = .error ∨ r.status = .critical then 1 else 0 := by
  rw [exitCode]
  cases r.status <;> rfl

/-- The tasks that are skipped for want of a variant make no difference. -/
theorem status_filter_skipped (r : RunReport) :
    ({ r with skipped := r.skipped.filter (·.interrupted) } : RunReport).status = r.status := by
  have hany : (r.skipped.filter (·.interrupted)).any (·.interrupted) =
      r.skipped.any (·.interrupted) := by
    simp only [List.any_filter, Bool.and_self]
  simp only [status, isIncomplete, hany]
  rfl

theorem mem_severities {r : RunReport} {s : Severity} :
    s ∈ r.severities ↔ ∃ t ∈ r.tasks, ∃ n ∈ t.nodes, ∃ x ∈ n.steps, x.severity = s := by
  simp only [severities, List.mem_flatMap, List.mem_map]

end RunReport

end Inspection
