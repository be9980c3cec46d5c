import Inspection.Proofs.Text.Trimming

/-!
# Text — Runs of characters

Cut at every character that is not of some sort, a text falls into its runs of characters of that
sort: none of them could be longer.  A run that stands in a text stays a run where more text comes
after a character of another sort.

* `IsRun`: a part of a text that is a whole run.
* `mem_splitAll_iff`: the pieces of a text are its runs.
* `splitAll_around`: the pieces around a run.
* `splitAll_eq_iff`: the pieces between the places of one separator.
-/

namespace Inspection.Text

/-- The characters stand side by side in the text and are of the sort; the one before them and the
one behind them, where there are such, are not. -/
inductive IsRun (p : Char → Bool) (run : List Char) : List Char → Prop where
  | mk {before after : List Char} (hrun : ∀ c ∈ run, p c = true)
      (hbefore : Stops p before.reverse) (hafter : Stops p after) :
      IsRun p run (before ++ run ++ after)

variable {p isSep : Char → Bool} {run s t : List Char} {c sep : Char} {pieces : List (List Char)}

theorem IsRun.forall_mem (h : IsRun p run s) : ∀ c ∈ run, p c = true := by
  obtain ⟨hrun, -, -⟩ := h
  exact hrun

theorem IsRun.append_cons (h : IsRun p run t) (hc : p c = false) (s : List Char) :
    IsRun p run (s ++ c :: t) := by
  obtain @⟨before, after, hrun, hbefore, hafter⟩ := h
  have hstops : Stops p (s ++ c :: before).reverse := by
    rw [List.reverse_append, List.reverse_cons, List.append_assoc]
    cases hrev : before.reverse with
    | nil => exact hc
    | cons d rest =>
      rw [hrev] at hbefore
      exact hbefore
  simpa only [List.append_assoc, List.cons_append] using IsRun.mk hrun hstops hafter

/-- Either there is no separator, or there is a first one. -/
theorem exists_first_sep (isSep : Char → Bool) (s : List Char) :
    (∀ c ∈ s, isSep c = false) ∨
      ∃ before c after, s = before ++ c :: after ∧ (∀ d ∈ before, isSep d = false) ∧
        isSep c = true := by
  induction s with
  | nil => exact .inl (List.forall_mem_nil _)
  | cons d s ih =>
    cases hd : isSep d with
    | true => exact .inr ⟨[], d, s, rfl, List.forall_mem_nil _, hd⟩
    | false =>
      obtain hall | ⟨before, c, after, rfl, hbefore, hc⟩ := ih
      · exact .inl (List.forall_mem_cons.2 ⟨hd, hall⟩)
      · exact .inr ⟨d :: before, c, after, rfl, List.forall_mem_cons.2 ⟨hd, hbefore⟩, hc⟩

theorem isRun_of_mem_splitAll (hsep : ∀ c, isSep c = !p c) (h : run ∈ splitAll isSep s) :
    IsRun p run s := by
  have hsort {s : List Char} (hs : ∀ c ∈ s, isSep c = false) : ∀ c ∈ s, p c = true := fun c hc => by
    simpa [hsep] using hs c hc
  induction hlength : s.length using Nat.strong_induction_on generalizing s with
  | _ n ih =>
    subst hlength
    obtain hnone | ⟨before, c, after, rfl, hbefore, hc⟩ := exists_first_sep isSep s
    · rw [splitAll_eq_singleton hnone] at h
      obtain rfl := List.mem_singleton.1 h
      have hself : IsRun p run ([] ++ run ++ []) := .mk (hsort hnone) trivial trivial
      rwa [List.nil_append, List.append_nil] at hself
    · rw [splitAll_append_cons hc, splitAll_eq_singleton hbefore] at h
      have hc' : p c = false := by simpa [hsep] using hc
      obtain rfl | h := List.mem_cons.1 h
      · have hfirst : IsRun p run ([] ++ run ++ c :: after) := .mk (hsort hbefore) trivial hc'
        exact hfirst
      · have hshorter : after.length < (before ++ c :: after).length := by
          rw [List.length_append, List.length_cons]
          omega
        exact (ih after.length hshorter h rfl).append_cons hc' before

/-- **The pieces around a run** belong to what stands before it and to what stands behind it. -/
theorem splitAll_around (hsep : ∀ c, isSep c = !p c) {before after : List Char}
    (hrun : ∀ c ∈ run, p c = true) (hbefore : Stops p before.reverse) (hafter : Stops p after) :
    ∃ first last, splitAll isSep (before ++ run ++ after) = first ++ run :: last ∧
      ∀ piece ∈ last, piece ∈ splitAll isSep after := by
  have hpiece : splitAll isSep run = [run] :=
    splitAll_eq_singleton fun c hc => by rw [hsep, hrun c hc, Bool.not_true]
  obtain ⟨last, hlast, hmem⟩ : ∃ last, splitAll isSep (run ++ after) = run :: last ∧
      ∀ piece ∈ last, piece ∈ splitAll isSep after := by
    cases after with
    | nil => exact ⟨[], by rw [List.append_nil, hpiece], List.forall_mem_nil _⟩
    | cons c after =>
      have hc : isSep c = true := by rw [hsep, stops_cons.1 hafter, Bool.not_false]
      refine ⟨splitAll isSep after, ?_, fun piece hp => ?_⟩
      · rw [splitAll_append_cons hc, hpiece, List.singleton_append]
      · rw [← List.nil_append (c :: after), splitAll_append_cons hc]
        exact List.mem_append_right _ hp
  rw [List.append_assoc]
  obtain rfl | ⟨before, c, rfl⟩ := before.eq_nil_or_concat'
  · exact ⟨[], last, by simpa using hlast, hmem⟩
  · have hc : isSep c = true := by
      rw [List.reverse_append] at hbefore
      rw [hsep, stops_cons.1 hbefore, Bool.not_false]
    refine ⟨splitAll isSep before, last, ?_, hmem⟩
    rw [List.append_assoc, List.singleton_append, splitAll_append_cons hc, hlast]

/-- **The pieces of a text are its runs** of characters that are no separators. -/
theorem mem_splitAll_iff (hsep : ∀ c, isSep c = !p c) : run ∈ splitAll isSep s ↔ IsRun p run s := by
  refine ⟨isRun_of_mem_splitAll hsep, fun h => ?_⟩
  obtain ⟨hrun, hbefore, hafter⟩ := h
  obtain ⟨first, last, hpieces, -⟩ := splitAll_around hsep hrun hbefore hafter
  rw [hpieces]
  exact List.mem_append_right _ (List.mem_cons_self ..)

/-- A text of which no piece is empty neither starts nor ends with a separator. -/
theorem stops_of_splitAll (h : [] ∉ splitAll isSep s) : Stops isSep s ∧ Stops isSep s.reverse := by
  constructor
  · cases s with
    | nil => trivial
    | cons c s =>
      refine Bool.eq_false_iff.2 fun hc => h ?_
      have hpieces : splitAll isSep ([] ++ c :: s) = [[]] ++ splitAll isSep s :=
        splitAll_append_cons hc [] s
      rw [List.nil_append] at hpieces
      rw [hpieces]
      exact List.mem_append_left _ (List.mem_singleton_self _)
  · obtain rfl | ⟨s, c, rfl⟩ := s.eq_nil_or_concat'
    · trivial
    · rw [List.reverse_append]
      refine Bool.eq_false_iff.2 fun hc => h ?_
      rw [splitAll_append_cons hc]
      exact List.mem_append_right _ (List.mem_singleton_self _)

theorem not_mem_of_mem_splitAll {piece : List Char} (h : piece ∈ splitAll (· == sep) s) :
    sep ∉ piece := fun hmem => by
  have hrun := isRun_of_mem_splitAll (p := (· != sep)) (fun c => (Bool.not_not _).symm) h
  simpa using hrun.forall_mem sep hmem

/-- **The pieces between separators** are those that give the text when put together, and hold no
separator. -/
theorem splitAll_eq_iff :
    splitAll (· == sep) s = pieces ↔
      pieces ≠ [] ∧ s = joinWith [sep] pieces ∧ ∀ piece ∈ pieces, sep ∉ piece := by
  constructor
  · rintro rfl
    exact ⟨splitAll_ne_nil _ s, (joinWith_splitAll sep s).symm, fun _ => not_mem_of_mem_splitAll⟩
  · rintro ⟨hne, rfl, hpieces⟩
    exact splitAll_joinWith hne hpieces

end Inspection.Text
