import Inspection.Proofs.Text.Pieces
import Inspection.Template
import Mathlib

/-!
# Template — Where placeholders stand

A placeholder is known by its form alone (`IsPlaceholder`), and it may stand anywhere in a text.  No
two stand over one another, as `#` is only ever the first character of one.  So a text has one cut
into placeholders and single characters in which every placeholder that stands in it is a piece
(`Cut`), and reading from left to right finds that cut.

* `placeholder?_eq_some_iff`: what is read at the start of a text is the placeholder there.
* `occurrences_apart`: two placeholders in a text are the same, or one ends before the other.
* `cut_pieces`, `Cut.eq_pieces`: the pieces of a text are its cut, and the only one.
-/

namespace Inspection.Template

open Text (isBlank Stops stops_cons)

/-- An ASCII letter or digit, `_`, `.` or `-`. -/
def IsNameCharacter (c : Char) : Prop :=
  ('A' ≤ c ∧ c ≤ 'Z') ∨ ('a' ≤ c ∧ c ≤ 'z') ∨ ('0' ≤ c ∧ c ≤ '9') ∨ c = '_' ∨ c = '.' ∨ c = '-'

/-- A placeholder of a name: its opening, blanks, the name, blanks, and its closing. -/
inductive IsPlaceholder (name : List Char) : List Char → Prop where
  | mk {before after : List Char} (hbefore : ∀ c ∈ before, isBlank c = true) (hne : name ≠ [])
      (hname : ∀ c ∈ name, IsNameCharacter c) (hafter : ∀ c ∈ after, isBlank c = true) :
      IsPlaceholder name ('#' :: '\x7b' :: (before ++ (name ++ (after ++ ['\x7d']))))

/-- A text taken apart: the pieces make it up, those that are placeholders are so by their form,
and each placeholder that stands in the text is one of them, where it stands. -/
structure Cut (s : List Char) (ps : List Piece) : Prop where
  written : ps.flatMap Piece.written = s
  sound : ∀ p name, .placeholder p name ∈ ps → IsPlaceholder name p
  complete : ∀ before p name after, IsPlaceholder name p → s = before ++ p ++ after →
    ∃ front back, ps = front ++ .placeholder p name :: back ∧
      front.flatMap Piece.written = before

variable {s before after before' after' p p' name name' rest : List Char} {ps qs : List Piece}

/-! ### Reading a placeholder -/

theorem isNameChar_iff {c : Char} : isNameChar c = true ↔ IsNameCharacter c := by
  simp only [isNameChar, Char.isAlphanum, Char.isAlpha, Char.isUpper, Char.isLower, Char.isDigit,
    Bool.or_eq_true, Bool.and_eq_true, decide_eq_true_eq, beq_iff_eq, IsNameCharacter, Char.le_def,
    ge_iff_le]
  tauto

theorem isName_iff :
    isName name = true ↔ name ≠ [] ∧ ∀ c ∈ name, IsNameCharacter c := by
  simp [isName, isNameChar_iff]

theorem IsNameCharacter.toNat_mem {c : Char} (h : IsNameCharacter c) :
    0x2D ≤ c.toNat ∧ c.toNat ≤ 0x7A := by
  simp only [IsNameCharacter, Char.le_def, UInt32.le_iff_toNat_le] at h
  change (65 ≤ c.toNat ∧ c.toNat ≤ 90) ∨ (97 ≤ c.toNat ∧ c.toNat ≤ 122) ∨
    (48 ≤ c.toNat ∧ c.toNat ≤ 57) ∨ c = '_' ∨ c = '.' ∨ c = '-' at h
  rcases h with h | h | h | rfl | rfl | rfl
  · omega
  · omega
  · omega
  · decide
  · decide
  · decide

/-- No character of a name is blank. -/
theorem IsNameCharacter.isBlank_eq_false {c : Char} (h : IsNameCharacter c) :
    isBlank c = false := by
  obtain ⟨hfirst, hlast⟩ := h.toNat_mem
  exact Text.isBlank_eq_false (by omega) (by omega)

/-- The inside of a placeholder, up to its closing. -/
theorem inside?_eq_some_iff :
    inside? s = some (name, rest) ↔ isName name = true ∧ ∃ before after,
      (∀ c ∈ before, isBlank c = true) ∧ (∀ c ∈ after, isBlank c = true) ∧
        s = before ++ (name ++ (after ++ '\x7d' :: rest)) := by
  constructor
  · intro h
    simp only [inside?, Text.trimStart] at h
    split at h
    · rename_i hname hclosing
      obtain ⟨rfl, rfl⟩ := Prod.mk.inj (Option.some.inj h)
      refine ⟨isName_iff.2 ⟨hname ▸ List.cons_ne_nil _ _,
          fun c hc => isNameChar_iff.1 (List.mem_takeWhile_imp hc)⟩,
        s.takeWhile isBlank, ((s.dropWhile isBlank).dropWhile isNameChar).takeWhile isBlank,
        fun c => List.mem_takeWhile_imp, fun c => List.mem_takeWhile_imp, ?_⟩
      rw [← hclosing, List.takeWhile_append_dropWhile, List.takeWhile_append_dropWhile,
        List.takeWhile_append_dropWhile]
    · cases h
  · rintro ⟨hname, before, after, hbefore, hafter, rfl⟩
    obtain ⟨hne, hchars⟩ := isName_iff.1 hname
    have hall : ∀ c ∈ name, isNameChar c = true := fun c hc => isNameChar_iff.2 (hchars c hc)
    -- each run stops where the next begins, as blanks, names and the closing have nothing in common
    have hstart : Stops isBlank (name ++ (after ++ '\x7d' :: rest)) := by
      cases name with
      | nil => exact absurd rfl hne
      | cons c name => exact (hchars c (List.mem_cons_self ..)).isBlank_eq_false
    have hend : Stops isNameChar (after ++ '\x7d' :: rest) := by
      cases after with
      | nil => rfl
      | cons d after =>
        by_contra hd
        have hblank := (isNameChar_iff.1 (by simpa using hd)).isBlank_eq_false
        rw [hafter d (List.mem_cons_self ..)] at hblank
        cases hblank
    have hclosing : Stops isBlank ('\x7d' :: rest) := stops_cons.2 (by decide)
    simp only [inside?, Text.trimStart, Text.dropWhile_append_of_stops hbefore hstart,
      Text.takeWhile_append_of_stops hall hend, Text.dropWhile_append_of_stops hall hend,
      Text.dropWhile_append_of_stops hafter hclosing]
    cases name with
    | nil => exact absurd rfl hne
    | cons c name => rfl

/-- What is read at the start of a text is the placeholder that stands there. -/
theorem placeholder?_eq_some_iff :
    placeholder? s = some (name, rest) ↔ ∃ p, IsPlaceholder name p ∧ s = p ++ rest := by
  constructor
  · intro h
    unfold placeholder? at h
    split at h
    · obtain ⟨hname, before, after, hbefore, hafter, rfl⟩ := inside?_eq_some_iff.1 h
      obtain ⟨hne, hchars⟩ := isName_iff.1 hname
      exact ⟨_, .mk hbefore hne hchars hafter, by simp⟩
    · cases h
  · rintro ⟨p, ⟨hbefore, hne, hchars, hafter⟩, rfl⟩
    simp only [List.cons_append, List.append_assoc, List.nil_append, placeholder?]
    exact inside?_eq_some_iff.2 ⟨isName_iff.2 ⟨hne, hchars⟩, _, _, hbefore, hafter, rfl⟩

/-! ### Placeholders in a text -/

/-- A placeholder is no part of another's inside, which has no `#`. -/
theorem IsPlaceholder.exists_inside (h : IsPlaceholder name p) :
    ∃ inside, p = '#' :: inside ∧ '#' ∉ inside := by
  obtain ⟨hbefore, -, hname, hafter⟩ := h
  refine ⟨_, rfl, fun hmem => ?_⟩
  simp only [List.mem_cons, List.mem_append, List.not_mem_nil, or_false] at hmem
  rcases hmem with hmem | hmem | hmem | hmem | hmem
  · cases hmem
  · exact absurd (hbefore _ hmem) (by decide)
  · exact absurd (hname _ hmem).toNat_mem (by decide)
  · exact absurd (hafter _ hmem) (by decide)
  · cases hmem

theorem IsPlaceholder.ne_nil (h : IsPlaceholder name p) : p ≠ [] := by
  obtain ⟨inside, rfl, -⟩ := h.exists_inside
  exact List.cons_ne_nil _ _

/-- Two placeholders at one place are the same. -/
theorem IsPlaceholder.append_inj (h : IsPlaceholder name p) (h' : IsPlaceholder name' p')
    (heq : p ++ after = p' ++ after') : name = name' ∧ p = p' ∧ after = after' := by
  have hread : placeholder? (p ++ after) = some (name, after) :=
    placeholder?_eq_some_iff.2 ⟨p, h, rfl⟩
  rw [heq, placeholder?_eq_some_iff.2 ⟨p', h', rfl⟩] at hread
  obtain ⟨rfl, rfl⟩ := Prod.mk.inj (Option.some.inj hread)
  exact ⟨rfl, List.append_cancel_right heq, rfl⟩

/-- A placeholder behind the start of another begins behind its end. -/
theorem IsPlaceholder.ends_before (h : IsPlaceholder name p) (h' : IsPlaceholder name' p')
    (hne : before ≠ []) (heq : p ++ after = before ++ p' ++ after') :
    ∃ between, before = p ++ between ∧ after = between ++ p' ++ after' := by
  rw [List.append_assoc, List.append_eq_append_iff] at heq
  rcases heq with ⟨between, hbefore, hafter⟩ | ⟨overlap, hp, hrest⟩
  · exact ⟨between, hbefore, by rw [hafter, List.append_assoc]⟩
  · cases overlap with
    | nil => exact ⟨[], by simp [hp], by simpa using hrest.symm⟩
    | cons c overlap =>
      -- the second would start in the inside of the first
      obtain ⟨inside, rfl, hinside⟩ := h.exists_inside
      obtain ⟨inside', rfl, -⟩ := h'.exists_inside
      obtain ⟨d, before, rfl⟩ := List.exists_cons_of_ne_nil hne
      obtain ⟨-, rfl⟩ := List.cons.inj hp
      obtain ⟨rfl, -⟩ := List.cons.inj hrest
      simp at hinside

/-- **No two placeholders stand over one another.**  Two in a text are the same one, or the first
ends before the second. -/
theorem occurrences_apart (h : IsPlaceholder name p) (h' : IsPlaceholder name' p')
    (heq : before ++ p ++ after = before' ++ p' ++ after') :
    (before = before' ∧ name = name' ∧ p = p' ∧ after = after') ∨
    (∃ between, before' = before ++ p ++ between ∧ after = between ++ p' ++ after') ∨
    ∃ between, before = before' ++ p' ++ between ∧ after' = between ++ p ++ after := by
  rw [List.append_assoc, List.append_assoc, List.append_eq_append_iff] at heq
  rcases heq with ⟨m, rfl, hrest⟩ | ⟨m, rfl, hrest⟩
  · by_cases hm : m = []
    · subst hm
      exact .inl ⟨(List.append_nil _).symm, h.append_inj h' hrest⟩
    · rw [← List.append_assoc] at hrest
      obtain ⟨between, rfl, rfl⟩ := h.ends_before h' hm hrest
      exact .inr (.inl ⟨between, (List.append_assoc ..).symm, rfl⟩)
  · by_cases hm : m = []
    · subst hm
      obtain ⟨rfl, rfl, rfl⟩ := h'.append_inj h hrest
      exact .inl ⟨List.append_nil _, rfl, rfl, rfl⟩
    · rw [← List.append_assoc] at hrest
      obtain ⟨between, rfl, rfl⟩ := h'.ends_before h hm hrest
      exact .inr (.inr ⟨between, (List.append_assoc ..).symm, rfl⟩)

/-! ### The cut of a text -/

theorem cut_nil : Cut [] [] where
  written := rfl
  sound _ _ hmem := absurd hmem List.not_mem_nil
  complete _ _ _ _ h heq := by
    have hp := (List.append_eq_nil_iff.1 (List.append_eq_nil_iff.1 heq.symm).1).2
    exact absurd hp h.ne_nil

/-- A placeholder in front of a text is one more piece. -/
theorem Cut.placeholder (h : Cut s ps) (hp : IsPlaceholder name p) :
    Cut (p ++ s) (.placeholder p name :: ps) where
  written := by rw [List.flatMap_cons, h.written]; rfl
  sound p' name' hmem := by
    obtain heq | hmem := List.mem_cons.1 hmem
    · obtain ⟨rfl, rfl⟩ := Piece.placeholder.inj heq
      exact hp
    · exact h.sound p' name' hmem
  complete before p' name' after hp' heq := by
    by_cases hbefore : before = []
    · subst hbefore
      obtain ⟨rfl, rfl, rfl⟩ := hp.append_inj hp' heq
      exact ⟨[], ps, rfl, rfl⟩
    · obtain ⟨between, rfl, rfl⟩ := hp.ends_before hp' hbefore heq
      obtain ⟨front, back, rfl, rfl⟩ := h.complete between p' name' after hp' rfl
      exact ⟨.placeholder p name :: front, back, rfl, rfl⟩

/-- So is a character with which no placeholder begins. -/
theorem Cut.literal {c : Char} (h : Cut s ps) (hnone : placeholder? (c :: s) = none) :
    Cut (c :: s) (.literal c :: ps) where
  written := by rw [List.flatMap_cons, h.written]; rfl
  sound p name hmem := h.sound p name (List.mem_of_ne_of_mem (by rintro ⟨⟩) hmem)
  complete before p name after hp heq := by
    cases before with
    | nil =>
      rw [List.nil_append] at heq
      rw [placeholder?_eq_some_iff.2 ⟨p, hp, heq⟩] at hnone
      cases hnone
    | cons d before =>
      obtain ⟨rfl, rfl⟩ := List.cons.inj heq
      obtain ⟨front, back, rfl, rfl⟩ := h.complete before p name after hp rfl
      exact ⟨.literal c :: front, back, rfl, rfl⟩

/-- The pieces of a text are a cut of it. -/
theorem cut_pieces (s : List Char) : Cut s (pieces s) := by
  fun_induction pieces s with
  | case1 => exact cut_nil
  | case2 c cs name rest h ih =>
    obtain ⟨p, hp, heq⟩ := placeholder?_eq_some_iff.1 h
    have htake : (c :: cs).take ((c :: cs).length - rest.length) = p := by
      rw [heq, List.length_append, Nat.add_sub_cancel, List.take_left]
    rw [htake, heq]
    exact ih.placeholder hp
  | case3 c cs h ih => exact ih.literal h

theorem Cut.written_ne_nil (h : Cut s ps) {piece : Piece} (hmem : piece ∈ ps) :
    piece.written ≠ [] := by
  cases piece with
  | literal c => exact List.cons_ne_nil _ _
  | placeholder p name => exact (h.sound p name hmem).ne_nil

/-- A placeholder that a text starts with is the first piece of every cut. -/
theorem Cut.head_eq (h : Cut (p ++ s) ps) (hp : IsPlaceholder name p) :
    ∃ back, ps = .placeholder p name :: back := by
  obtain ⟨front, back, rfl, hfront⟩ := h.complete [] p name s hp rfl
  cases front with
  | nil => exact ⟨back, rfl⟩
  | cons piece front =>
    exact absurd (List.append_eq_nil_iff.1 hfront).1 (h.written_ne_nil (List.mem_cons_self ..))

/-- Without its first piece, a cut is one of the rest. -/
theorem Cut.tail {piece : Piece} (h : Cut (piece.written ++ s) (piece :: ps)) : Cut s ps where
  written := List.append_cancel_left (List.flatMap_cons ▸ h.written)
  sound p name hmem := h.sound p name (List.mem_cons_of_mem _ hmem)
  complete before p name after hp heq := by
    obtain ⟨front, back, hps, hfront⟩ := h.complete (piece.written ++ before) p name after hp
      (by rw [heq]; simp only [List.append_assoc])
    cases front with
    | nil =>
      exact absurd (List.append_eq_nil_iff.1 hfront.symm).1
        (h.written_ne_nil (List.mem_cons_self ..))
    | cons first front =>
      obtain ⟨rfl, rfl⟩ := List.cons.inj hps
      exact ⟨front, back, rfl, List.append_cancel_left (List.flatMap_cons ▸ hfront)⟩

/-- **A text has one cut.** -/
theorem Cut.unique (h : Cut s ps) (h' : Cut s qs) : ps = qs := by
  induction ps generalizing s qs with
  | nil =>
    cases qs with
    | nil => rfl
    | cons piece qs =>
      have hwritten := h'.written
      rw [← h.written] at hwritten
      exact absurd (List.append_eq_nil_iff.1 hwritten).1 (h'.written_ne_nil (List.mem_cons_self ..))
  | cons piece ps ih =>
    obtain rfl : piece.written ++ ps.flatMap Piece.written = s := h.written
    obtain ⟨qs, rfl⟩ : ∃ qs', qs = piece :: qs' := by
      cases piece with
      | placeholder p name => exact h'.head_eq (h.sound p name (List.mem_cons_self ..))
      | literal c =>
        cases qs with
        | nil => cases h'.written
        | cons piece' qs =>
          cases piece' with
          | literal d =>
            obtain ⟨rfl, -⟩ := List.cons.inj h'.written
            exact ⟨qs, rfl⟩
          | placeholder p name =>
            -- a placeholder at the start would be the first piece of both
            have hp := h'.sound p name (List.mem_cons_self ..)
            rw [← h'.written] at h
            obtain ⟨back, hback⟩ := h.head_eq hp
            cases hback
    rw [ih h.tail h'.tail]

theorem Cut.eq_pieces (h : Cut s ps) : pieces s = ps := (cut_pieces s).unique h

/-- Around a placeholder, wherever it stands, the text before it and the text after it are cut on
their own. -/
theorem pieces_append (before : List Char) (hp : IsPlaceholder name p) (after : List Char) :
    pieces (before ++ p ++ after) = pieces before ++ .placeholder p name :: pieces after := by
  have hbefore := cut_pieces before
  have hafter := cut_pieces after
  refine Cut.eq_pieces ⟨?_, fun p' name' hmem => ?_, fun b p' name' a hp' heq => ?_⟩
  · rw [List.flatMap_append, List.flatMap_cons, hbefore.written, hafter.written,
      List.append_assoc]
    rfl
  · obtain hmem | hmem := List.mem_append.1 hmem
    · exact hbefore.sound p' name' hmem
    · obtain heq | hmem := List.mem_cons.1 hmem
      · obtain ⟨rfl, rfl⟩ := Piece.placeholder.inj heq
        exact hp
      · exact hafter.sound p' name' hmem
  · rcases occurrences_apart hp hp' heq with
      ⟨rfl, rfl, rfl, rfl⟩ | ⟨between, rfl, hbetween⟩ | ⟨between, hbetween, rfl⟩
    · exact ⟨_, _, rfl, hbefore.written⟩
    · obtain ⟨front, back, hps, rfl⟩ := hafter.complete between p' name' a hp' hbetween
      refine ⟨pieces before ++ .placeholder p name :: front, back, by simp [hps], ?_⟩
      simp [hbefore.written, Piece.written]
    · obtain ⟨front, back, hps, rfl⟩ := hbefore.complete b p' name' between hp' hbetween
      exact ⟨front, back ++ .placeholder p name :: pieces after, by simp [hps], rfl⟩

end Inspection.Template
