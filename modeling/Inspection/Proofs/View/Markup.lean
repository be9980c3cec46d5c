import Inspection.Proofs.Text.Pieces
import Inspection.View.Markup

/-!
# View — A text and its markup

What stands for a text holds none of the characters that end it, and no two texts have the same.

* `not_mem_escapeChars`: the characters that do not occur in markup.
* `escapeChars_append_inj`: a text in front of one of them is told from the whole.
-/

namespace Inspection.Markup

/-- The characters that are written by name. -/
def named : List Char := ['&', '<', '>', '"', '\'']

/-- The characters that end a text or begin something else. -/
def barred : List Char := ['<', '>', '"', '\'']

theorem escapeChar_of_not_mem {c : Char} (h : c ∉ named) : escapeChar c = [c] := by
  simp only [named, List.mem_cons, List.not_mem_nil, or_false, not_or] at h
  unfold escapeChar
  split <;> simp_all

theorem head?_escapeChar {c : Char} (hc : c ∈ named) : (escapeChar c).head? = some '&' := by
  have hnamed : (named.all fun c => (escapeChar c).head? == some '&') = true := by decide
  exact beq_iff_eq.1 (List.all_eq_true.1 hnamed c hc)

theorem not_mem_escapeChar {q : Char} (hq : q ∈ barred) (c : Char) : q ∉ escapeChar c := by
  by_cases hc : c ∈ named
  · have hnamed : (named.all fun c => barred.all fun q => !(escapeChar c).contains q) = true := by
      decide
    have hcq := List.all_eq_true.1 (List.all_eq_true.1 hnamed c hc) q hq
    simpa using hcq
  · have hsub : barred ⊆ named := by decide
    rw [escapeChar_of_not_mem hc, List.mem_singleton]
    rintro rfl
    exact hc (hsub hq)

theorem not_mem_escapeChars {q : Char} (hq : q ∈ barred) (s : List Char) :
    q ∉ escapeChars s := by
  intro h
  obtain ⟨c, -, hc⟩ := List.mem_flatMap.1 h
  exact not_mem_escapeChar hq c hc

theorem escapeChar_ne_nil (c : Char) : escapeChar c ≠ [] := by
  by_cases hc : c ∈ named
  · intro h
    have hhead := head?_escapeChar hc
    rw [h] at hhead
    cases hhead
  · rw [escapeChar_of_not_mem hc]
    exact List.cons_ne_nil _ _

/-- No character is written as the beginning of another. -/
theorem eq_of_prefix_escapeChar {c d : Char} (h : escapeChar c <+: escapeChar d) : c = d := by
  have hhead : (escapeChar c).head? = (escapeChar d).head? := by
    obtain ⟨rest, hrest⟩ := h
    obtain ⟨a, as, has⟩ := List.exists_cons_of_ne_nil (escapeChar_ne_nil c)
    rw [← hrest, has]
    rfl
  -- `&` is written by name itself, so no plain character begins a name
  have hamp : '&' ∈ named := List.mem_cons_self ..
  by_cases hc : c ∈ named <;> by_cases hd : d ∈ named
  · have hboth : (named.all fun c => named.all fun d =>
        !(escapeChar c).isPrefixOf (escapeChar d) || c == d) = true := by decide
    have hcd := List.all_eq_true.1 (List.all_eq_true.1 hboth c hc) d hd
    simpa [List.isPrefixOf_iff_prefix.2 h] using hcd
  · rw [head?_escapeChar hc, escapeChar_of_not_mem hd] at hhead
    exact absurd (Option.some.inj hhead ▸ hamp) hd
  · rw [head?_escapeChar hd, escapeChar_of_not_mem hc] at hhead
    exact absurd (Option.some.inj hhead ▸ hamp) hc
  · rw [escapeChar_of_not_mem hc, escapeChar_of_not_mem hd] at hhead
    exact Option.some.inj hhead

@[simp]
theorem escapeChars_nil : escapeChars [] = [] := rfl

@[simp]
theorem escapeChars_cons (c : Char) (s : List Char) :
    escapeChars (c :: s) = escapeChar c ++ escapeChars s := List.flatMap_cons

@[simp]
theorem escapeChars_append (s t : List Char) :
    escapeChars (s ++ t) = escapeChars s ++ escapeChars t := List.flatMap_append

/-- What has no character with a name is written as it is. -/
theorem escapeChars_of_plain {s : List Char} (h : ∀ c ∈ s, c ∉ named) : escapeChars s = s := by
  induction s with
  | nil => rfl
  | cons c s ih =>
    obtain ⟨hc, hs⟩ := List.forall_mem_cons.1 h
    rw [escapeChars_cons, escapeChar_of_not_mem hc, ih hs, List.singleton_append]

@[simp]
theorem escapeChars_inj {s t : List Char} : escapeChars s = escapeChars t ↔ s = t := by
  refine ⟨fun h => ?_, congrArg escapeChars⟩
  induction s generalizing t with
  | nil =>
    cases t with
    | nil => rfl
    | cons d t => exact absurd (List.append_eq_nil_iff.1 h.symm).1 (escapeChar_ne_nil d)
  | cons c s ih =>
    cases t with
    | nil => exact absurd (List.append_eq_nil_iff.1 h).1 (escapeChar_ne_nil c)
    | cons d t =>
      rw [escapeChars_cons, escapeChars_cons] at h
      have hc : escapeChar c <+: escapeChar d ++ escapeChars t := h ▸ List.prefix_append ..
      obtain rfl : c = d :=
        (List.prefix_or_prefix_of_prefix hc (List.prefix_append ..)).elim eq_of_prefix_escapeChar
          fun hd => (eq_of_prefix_escapeChar hd).symm
      rw [ih (List.append_cancel_left h)]

/-- **A text ends at the first barred character after it.** -/
theorem escapeChars_append_inj {q : Char} (hq : q ∈ barred) {s t r r' : List Char}
    (h : escapeChars s ++ q :: r = escapeChars t ++ q :: r') : s = t ∧ r = r' := by
  have hno : ∀ u, ∀ c ∈ escapeChars u, (c != q) = true := fun u c hc => by
    refine bne_iff_ne.2 ?_
    rintro rfl
    exact not_mem_escapeChars hq u hc
  obtain ⟨hs, hr⟩ :=
    Text.append_inj_of_stops (p := (· != q)) (hno s) (hno t) (by simp) (by simp) h
  exact ⟨escapeChars_inj.1 hs, (List.cons.inj hr).2⟩

end Inspection.Markup
