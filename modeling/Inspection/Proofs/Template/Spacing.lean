import Inspection.Proofs.Except
import Inspection.Proofs.Template.Reference

/-!
# Template — Blanks around a template

A placeholder starts with its opening and ends with its closing, so blanks at the two ends of a
template are no part of one.  They stay around what the rest of the template gives.

* `Template.pieces_padded`: blanks around a text stand around its pieces.
* `Bindings.substitute_padded`: blanks around a template stand around what it gives.
-/

namespace Inspection

open Text (Padded isBlank)

namespace Template

variable {s t name p : List Char} {c : Char}

/-! ### The ends of a placeholder -/

theorem IsPlaceholder.exists_concat (h : IsPlaceholder name p) :
    ∃ front, p = front ++ ['\x7d'] := by
  obtain @⟨before, after, -, -, -, -⟩ := h
  exact ⟨'#' :: '\x7b' :: (before ++ (name ++ after)), by simp⟩

/-- No placeholder ends in a text without a closing. -/
theorem placeholder?_append_of_not_mem (hclosing : '\x7d' ∉ t) (h : placeholder? s = none) :
    placeholder? (s ++ t) = none := by
  rw [Option.eq_none_iff_forall_ne_some]
  rintro ⟨name, rest⟩ hsome
  obtain ⟨p, hp, heq⟩ := placeholder?_eq_some_iff.1 hsome
  have hwithin (more : List Char) : s ≠ p ++ more := fun hs => by
    rw [placeholder?_eq_some_iff.2 ⟨p, hp, hs⟩] at h
    cases h
  obtain ⟨more, rfl, rfl⟩ | ⟨more, hs, -⟩ := List.append_eq_append_iff.1 heq
  · obtain ⟨front, hfront⟩ := hp.exists_concat
    obtain rfl | ⟨more, d, rfl⟩ := more.eq_nil_or_concat'
    · exact hwithin [] (by simp)
    · -- the closing would stand in the text that has none
      rw [← List.append_assoc] at hfront
      obtain ⟨-, hd⟩ := List.append_inj' hfront rfl
      obtain rfl := List.head_eq_of_cons_eq hd
      exact hclosing (by simp)
  · exact hwithin more hs

/-- What stands behind the last closing is cut into characters. -/
theorem pieces_append_of_not_mem_closing (hopening : '#' ∉ t) (hclosing : '\x7d' ∉ t)
    (s : List Char) : pieces (s ++ t) = pieces s ++ t.map .literal := by
  fun_induction pieces s with
  | case1 =>
    have ht := pieces_append_of_not_mem hopening []
    rwa [List.append_nil, pieces, List.append_nil] at ht
  | case2 c cs name rest h ih =>
    obtain ⟨p, hp, heq⟩ := placeholder?_eq_some_iff.1 h
    have htake : (c :: cs).take ((c :: cs).length - rest.length) = p := by
      rw [heq, List.length_append, Nat.add_sub_cancel, List.take_left]
    have hcut := pieces_append [] hp (rest ++ t)
    rw [htake, heq, List.append_assoc, List.cons_append, ← ih]
    simpa [pieces] using hcut
  | case3 c cs h ih =>
    have hskip : placeholder? (c :: (cs ++ t)) = none := placeholder?_append_of_not_mem hclosing h
    rw [List.cons_append, pieces_cons_of_none hskip, ih]
    rfl

theorem not_mem_of_blank (hc : isBlank c = false) (h : ∀ d ∈ s, isBlank d = true) : c ∉ s :=
  fun hmem => by
    rw [h c hmem] at hc
    cases hc

/-- **Blanks around a text** stand around its pieces. -/
theorem pieces_padded (h : Padded isBlank s t) : ∃ before after : List Char,
    (∀ c ∈ before, isBlank c = true) ∧ (∀ c ∈ after, isBlank c = true) ∧
      pieces t = before.map .literal ++ (pieces s ++ after.map .literal) := by
  obtain @⟨before, after, hbefore, hafter⟩ := h
  refine ⟨before, after, hbefore, hafter, ?_⟩
  rw [List.append_assoc, pieces_append_of_not_mem (not_mem_of_blank (by decide) hbefore),
    pieces_append_of_not_mem_closing (not_mem_of_blank (by decide) hafter)
      (not_mem_of_blank (by decide) hafter)]

end Template

open Template

/-- Both errors are about the same variable. -/
def BindingError.SameVariable (e e' : BindingError) : Prop := e.name = e'.name

theorem BindingError.SameVariable.refl (e : BindingError) : e.SameVariable e := rfl

namespace Bindings

/-- **Blanks around a template stand around what it gives.**  A variable without a value is the same
with them and without. -/
theorem substitute_padded {template padded : String}
    (h : Padded isBlank template.toList padded.toList) (vars : Bindings) :
    Agree BindingError.SameVariable (fun text text' => Padded isBlank text.toList text'.toList)
      (vars.substitute template) (vars.substitute padded) := by
  obtain ⟨before, after, hbefore, hafter, hpieces⟩ := pieces_padded h
  simp only [substitute, hpieces, renderAll_append, renderAll_literals]
  cases vars.renderAll (pieces template.toList) with
  | error name => exact .error rfl
  | ok text =>
    refine .ok ?_
    simp only [String.toList_ofList]
    rw [← List.append_assoc]
    exact .mk hbefore hafter

end Bindings

end Inspection
