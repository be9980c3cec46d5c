import Inspection.Report.Basic
import Mathlib.Data.List.Nodup

/-!
# Report — The order of texts

Reports are kept in the order of names.  The order is linear, so that what is sorted by names that
differ from each other does not depend on the order in which it came (`sortBy_eq_of_perm`); a task's
report does not depend on the order in which its nodes were done (`TaskReport.ofNodes_perm`).
-/

namespace Inspection

theorem textAtMost_iff {a b : String} : textAtMost a b = true ↔ ¬b < a := by
  rw [textAtMost, Bool.not_eq_true', decide_eq_false_iff_not]

theorem textAtMost_trans (a b c : String) (hab : textAtMost a b = true)
    (hbc : textAtMost b c = true) : textAtMost a c = true :=
  textAtMost_iff.2 (String.not_lt.2 (String.le_trans (String.not_lt.1 (textAtMost_iff.1 hab))
    (String.not_lt.1 (textAtMost_iff.1 hbc))))

theorem textAtMost_total (a b : String) : (textAtMost a b || textAtMost b a) = true := by
  rw [Bool.or_eq_true, textAtMost_iff, textAtMost_iff, String.not_lt, String.not_lt]
  exact String.le_total a b

theorem textAtMost_antisymm {a b : String} (hab : textAtMost a b = true)
    (hba : textAtMost b a = true) : a = b :=
  String.le_antisymm (String.not_lt.1 (textAtMost_iff.1 hab))
    (String.not_lt.1 (textAtMost_iff.1 hba))

/-- What is in order already is not moved by putting all in order. -/
theorem filter_mergeSort {α : Type} {le : α → α → Bool}
    (trans : ∀ a b c, le a b = true → le b c = true → le a c = true)
    (total : ∀ a b, (le a b || le b a) = true) {q : α → Bool} {l : List α}
    (h : (l.filter q).Pairwise fun a b => le a b = true) :
    (l.mergeSort le).filter q = l.filter q := by
  have hsub : (l.filter q).Sublist (l.mergeSort le) :=
    List.sublist_mergeSort trans total h List.filter_sublist
  have hfilter : (l.filter q).Sublist ((l.mergeSort le).filter q) := by
    have := hsub.filter q
    rwa [List.filter_filter, List.filter_congr (fun a _ => Bool.and_self (q a))] at this
  exact (hfilter.eq_of_length ((List.mergeSort_perm l le).filter q).length_eq.symm).symm

section Keys

variable {α : Type} (key : α → String)

theorem sortBy_perm (l : List α) : (sortBy key l).Perm l := List.mergeSort_perm _ _

theorem pairwise_sortBy (l : List α) :
    (sortBy key l).Pairwise fun a b => textAtMost (key a) (key b) = true :=
  List.pairwise_mergeSort (fun a b c => textAtMost_trans (key a) (key b) (key c))
    (fun a b => textAtMost_total (key a) (key b)) l

/-- Sorting by names leaves those with one name as they came. -/
theorem filter_sortBy (l : List α) (name : String) :
    (sortBy key l).filter (key · == name) = l.filter (key · == name) := by
  refine filter_mergeSort (fun a b c => textAtMost_trans (key a) (key b) (key c))
    (fun a b => textAtMost_total (key a) (key b)) (List.pairwise_of_forall_mem_list ?_)
  intro a ha b hb
  have ha : key a = name := by simpa using (List.mem_filter.1 ha).2
  have hb : key b = name := by simpa using (List.mem_filter.1 hb).2
  rw [ha, hb]
  exact textAtMost_iff.2 (String.lt_irrefl name)

variable {key}

/-- What is sorted by names that differ does not depend on the order in which it came. -/
theorem sortBy_eq_of_perm {l l' : List α} (h : l.Perm l') (hkeys : (l.map key).Nodup) :
    sortBy key l = sortBy key l' := by
  have hperm : (sortBy key l).Perm (sortBy key l') :=
    ((sortBy_perm key l).trans h).trans (sortBy_perm key l').symm
  refine hperm.eq_of_pairwise (fun a b ha hb hab hba => ?_) (pairwise_sortBy key l)
    (pairwise_sortBy key l')
  have ha : a ∈ l := (sortBy_perm key l).mem_iff.1 ha
  have hb : b ∈ l := h.mem_iff.2 ((sortBy_perm key l').mem_iff.1 hb)
  exact List.inj_on_of_nodup_map hkeys ha hb (textAtMost_antisymm hab hba)

/-- Among names that differ, a name stands once. -/
theorem filter_eq_singleton {l : List α} (hkeys : (l.map key).Nodup) {a : α} (ha : a ∈ l) :
    l.filter (key · == key a) = [a] := by
  induction l with
  | nil => cases ha
  | cons b rest ih =>
    rw [List.map_cons, List.nodup_cons] at hkeys
    rcases List.mem_cons.1 ha with rfl | ha
    · rw [List.filter_cons_of_pos (by simp), List.filter_eq_nil_iff.2]
      intro c hc
      simpa using fun heq : key c = key a => hkeys.1 (heq ▸ List.mem_map_of_mem hc)
    · have hne : key b ≠ key a := fun heq => hkeys.1 (heq ▸ List.mem_map_of_mem ha)
      rw [List.filter_cons_of_neg (by simpa using hne), ih hkeys.2 ha]

end Keys

/-- What the tasks of a name report of a node. -/
def reportsOn (task node : String) (reports : List TaskReport) : List NodeReport :=
  (reports.filter (·.task == task)).flatMap fun r => r.nodes.filter (·.node == node)

theorem mem_reportsOn {task node : String} {reports : List TaskReport} {r : NodeReport} :
    r ∈ reportsOn task node reports ↔
      ∃ t ∈ reports, t.task = task ∧ r ∈ t.nodes ∧ r.node = node := by
  simp [reportsOn, and_assoc]

theorem reportsOn_sortBy (task node : String) (reports : List TaskReport) :
    reportsOn task node (sortBy (·.task) reports) = reportsOn task node reports := by
  rw [reportsOn, filter_sortBy, reportsOn]

theorem reportsOn_append (task node : String) (reports more : List TaskReport) :
    reportsOn task node (reports ++ more) =
      reportsOn task node reports ++ reportsOn task node more := by
  simp [reportsOn]

theorem reportsOn_cons (task node : String) (r : TaskReport) (rest : List TaskReport) :
    reportsOn task node (r :: rest) =
      (if r.task = task then r.nodes.filter (·.node == node) else []) ++
        reportsOn task node rest := by
  by_cases h : r.task = task <;> simp [reportsOn, h]

namespace TaskReport

/-- The report of a task does not depend on the order in which its nodes were done. -/
theorem ofNodes_perm (task info : String) (range : VersionRange) {nodes nodes' : List NodeReport}
    (unfinished : List String) (h : nodes.Perm nodes') (hids : (nodes.map (·.node)).Nodup) :
    ofNodes task info range nodes unfinished = ofNodes task info range nodes' unfinished := by
  rw [ofNodes, ofNodes, sortBy_eq_of_perm h hids]

end TaskReport

end Inspection
