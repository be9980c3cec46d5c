import Inspection.Proofs.Text.Pieces
import Mathlib.Data.List.DropRight

/-!
# Text — What trimming leaves

A text is its trimmed text with blanks around it, and the trimmed text neither starts nor ends with
a blank; no other part of the text is like that.  So a text can be given more blanks around it, and
what is trimmed stays.  The same holds where characters of another sort are taken from the ends.

* `Padded`: a text with characters of a sort around it.
* `trim_eq_iff`: which part of a text trimming leaves.
* `trim_padded`: blanks around a text do not count.
-/

namespace Inspection.Text

/-- The text with characters of the sort before it and after it. -/
inductive Padded (p : Char → Bool) (s : List Char) : List Char → Prop where
  | mk {before after : List Char} (hbefore : ∀ c ∈ before, p c = true)
      (hafter : ∀ c ∈ after, p c = true) : Padded p s (before ++ s ++ after)

variable {p : Char → Bool} {s t u : List Char} {c : Char}

/-! ### Where a text stops -/

theorem stops_dropWhile (p : Char → Bool) (s : List Char) : Stops p (s.dropWhile p) := by
  have hhead := List.head?_dropWhile_not p s
  cases hs : s.dropWhile p with
  | nil => trivial
  | cons c rest =>
    rw [hs] at hhead
    exact hhead

theorem Stops.of_append (h : Stops p (s ++ t)) : Stops p s := by
  cases s with
  | nil => trivial
  | cons c s => exact h

/-! ### Padding -/

theorem Padded.refl (p : Char → Bool) (s : List Char) : Padded p s s := by
  have hself : Padded p s ([] ++ s ++ []) := .mk (List.forall_mem_nil _) (List.forall_mem_nil _)
  rwa [List.nil_append, List.append_nil] at hself

theorem Padded.trans (hst : Padded p s t) (htu : Padded p t u) : Padded p s u := by
  obtain ⟨hbefore, hafter⟩ := hst
  obtain ⟨hbefore', hafter'⟩ := htu
  have hsu := Padded.mk (s := s) (List.forall_mem_append.2 ⟨hbefore', hbefore⟩)
    (List.forall_mem_append.2 ⟨hafter, hafter'⟩)
  simpa only [List.append_assoc] using hsu

theorem Padded.of_mem (h : Padded p s t) (hc : c ∈ t) : p c = true ∨ c ∈ s := by
  obtain ⟨hbefore, hafter⟩ := h
  simp only [List.mem_append] at hc
  obtain (hc | hc) | hc := hc
  · exact .inl (hbefore c hc)
  · exact .inr hc
  · exact .inl (hafter c hc)

theorem padded_dropWhile (p : Char → Bool) (s : List Char) :
    Padded p ((s.dropWhile p).rdropWhile p) s := by
  have hend : (s.dropWhile p).rdropWhile p ++ (s.dropWhile p).rtakeWhile p = s.dropWhile p :=
    List.rdropWhile_append_rtakeWhile
  have hpadded : Padded p ((s.dropWhile p).rdropWhile p)
      (s.takeWhile p ++ (s.dropWhile p).rdropWhile p ++ (s.dropWhile p).rtakeWhile p) :=
    .mk (fun _ => List.mem_takeWhile_imp) fun _ => List.mem_rtakeWhile_imp
  rwa [List.append_assoc, hend, List.takeWhile_append_dropWhile] at hpadded

/-- What is left when the characters of a sort are taken from both ends. -/
theorem rdropWhile_dropWhile_eq_iff :
    (s.dropWhile p).rdropWhile p = t ↔ Padded p t s ∧ Stops p t ∧ Stops p t.reverse := by
  constructor
  · rintro rfl
    refine ⟨padded_dropWhile p s, ?_, ?_⟩
    · obtain ⟨after, hafter⟩ := List.rdropWhile_prefix p (l := s.dropWhile p)
      refine Stops.of_append (t := after) ?_
      rw [hafter]
      exact stops_dropWhile p s
    · rw [List.rdropWhile, List.reverse_reverse]
      exact stops_dropWhile p _
  · rintro ⟨@⟨before, after, hbefore, hafter⟩, hfirst, hlast⟩
    cases t with
    | nil =>
      -- nothing is left, so what stands around it is the whole text
      have hall : (before ++ [] ++ after).dropWhile p = [] := by
        rw [List.append_nil, List.dropWhile_eq_nil_iff]
        exact List.forall_mem_append.2 ⟨hbefore, hafter⟩
      rw [hall, List.rdropWhile_nil]
    | cons c t =>
      have hafter' : ∀ d ∈ after.reverse, p d = true :=
        fun d hd => hafter d (List.mem_reverse.1 hd)
      have hstart : (before ++ (c :: t ++ after)).dropWhile p = c :: t ++ after :=
        dropWhile_append_of_stops hbefore hfirst
      rw [List.append_assoc, hstart, List.rdropWhile, List.reverse_append,
        dropWhile_append_of_stops hafter' hlast, List.reverse_reverse]

/-! ### Blanks -/

/-- **What trimming leaves** is the part between the blanks that has no blank at its ends. -/
theorem trim_eq_iff :
    trim s = t ↔ Padded isBlank t s ∧ Stops isBlank t ∧ Stops isBlank t.reverse :=
  rdropWhile_dropWhile_eq_iff

theorem padded_trim (s : List Char) : Padded isBlank (trim s) s := padded_dropWhile isBlank s

/-- **Blanks around a text do not count.** -/
theorem trim_padded (h : Padded isBlank s t) : trim t = trim s := by
  obtain ⟨hpadded, hfirst, hlast⟩ := trim_eq_iff.1 (rfl : trim s = trim s)
  exact trim_eq_iff.2 ⟨hpadded.trans h, hfirst, hlast⟩

theorem trim_eq_self (hfirst : Stops isBlank s) (hlast : Stops isBlank s.reverse) : trim s = s :=
  trim_eq_iff.2 ⟨.refl isBlank s, hfirst, hlast⟩

theorem trim_of_forall (h : ∀ c ∈ s, isBlank c = false) : trim s = s :=
  trim_eq_self (stops_of_forall h) (stops_of_forall fun c hc => h c (List.mem_reverse.1 hc))

/-- `padded_trim` on strings. -/
theorem padded_trimmed (a : String) : Padded isBlank (trimmed a).toList a.toList := by
  rw [trimmed, String.toList_ofList]
  exact padded_trim a.toList

/-- `trim_padded` on strings. -/
theorem trimmed_padded {a b : String} (h : Padded isBlank a.toList b.toList) :
    trimmed b = trimmed a := by
  rw [trimmed, trimmed, trim_padded h]

end Inspection.Text
