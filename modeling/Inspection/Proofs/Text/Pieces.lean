import Inspection.Text.Blank
import Inspection.Text.Numeral
import Inspection.Text.Split

/-!
# Text — Where a piece ends

A piece that is followed by something that cannot belong to it is told from the whole: two wholes
that are the same have the same piece and the same rest.

* `append_inj_of_stops`: a run of one sort before something of another sort.
* `splitAll_joinWith`, `joinWith_splitAll`: pieces put together with a separator come apart again,
  and a text is its pieces put together.
* `dropHead?_eq_some_iff`, `dropTail?_eq_some_iff`: what stands at the ends of a text.
-/

namespace Inspection.Text

/-! ### Runs -/

section Runs

variable {α : Type} {p : α → Bool}

/-- What comes next, if anything does, is not of the sort. -/
def Stops (p : α → Bool) : List α → Prop
  | [] => True
  | c :: _ => p c = false

instance (p : α → Bool) : DecidablePred (Stops p)
  | [] => inferInstanceAs (Decidable True)
  | c :: _ => inferInstanceAs (Decidable (p c = false))

@[simp]
theorem stops_cons {c : α} {rest : List α} : Stops p (c :: rest) ↔ p c = false := Iff.rfl

theorem stops_of_forall {rest : List α} (h : ∀ c ∈ rest, p c = false) : Stops p rest := by
  cases rest with
  | nil => trivial
  | cons c rest => exact h c (List.mem_cons_self ..)

theorem takeWhile_append_of_stops {a rest : List α} (ha : ∀ c ∈ a, p c = true)
    (hrest : Stops p rest) : (a ++ rest).takeWhile p = a := by
  rw [List.takeWhile_append_of_pos ha]
  cases rest with
  | nil => rw [List.takeWhile_nil, List.append_nil]
  | cons c rest => rw [List.takeWhile_cons_of_neg (by simpa using hrest), List.append_nil]

theorem dropWhile_append_of_stops {a rest : List α} (ha : ∀ c ∈ a, p c = true)
    (hrest : Stops p rest) : (a ++ rest).dropWhile p = rest := by
  rw [List.dropWhile_append_of_pos ha]
  cases rest with
  | nil => rfl
  | cons c rest => rw [List.dropWhile_cons_of_neg (by simpa using hrest)]

/-- **A run ends where the sort changes.** -/
theorem append_inj_of_stops {a b r s : List α} (ha : ∀ c ∈ a, p c = true)
    (hb : ∀ c ∈ b, p c = true) (hr : Stops p r) (hs : Stops p s) (h : a ++ r = b ++ s) :
    a = b ∧ r = s := by
  induction a generalizing b with
  | nil =>
    cases b with
    | nil => exact ⟨rfl, h⟩
    | cons d b =>
      -- the run goes on in the other whole, so `d` would be of the sort and not of it
      rw [List.nil_append] at h
      rw [h, List.cons_append, stops_cons, hb d (List.mem_cons_self ..)] at hr
      cases hr
  | cons c a ih =>
    cases b with
    | nil =>
      rw [List.nil_append] at h
      rw [← h, List.cons_append, stops_cons, ha c (List.mem_cons_self ..)] at hs
      cases hs
    | cons d b =>
      simp only [List.cons_append, List.cons.injEq] at h
      obtain ⟨rfl, h⟩ := h
      obtain ⟨rfl, rfl⟩ := ih (fun c hc => ha c (List.mem_cons_of_mem _ hc))
        (fun c hc => hb c (List.mem_cons_of_mem _ hc)) h
      exact ⟨rfl, rfl⟩

end Runs

/-! ### Separators -/

theorem splitFirst?_eq_none {isSep : Char → Bool} {s : List Char}
    (h : ∀ c ∈ s, isSep c = false) : splitFirst? isSep s = none := by
  induction s with
  | nil => rfl
  | cons c s ih =>
    obtain ⟨hc, hs⟩ := List.forall_mem_cons.1 h
    rw [splitFirst?, hc, if_neg Bool.false_ne_true, ih hs, Option.map_none]

/-- The first separator is the one with none before it. -/
theorem splitFirst?_eq_some_iff {isSep : Char → Bool} {s before after : List Char} :
    splitFirst? isSep s = some (before, after) ↔
      ∃ c, isSep c = true ∧ s = before ++ c :: after ∧ ∀ d ∈ before, isSep d = false := by
  induction s generalizing before with
  | nil => simp [splitFirst?]
  | cons d s ih =>
    cases hd : isSep d with
    | true =>
      rw [splitFirst?, if_pos hd, Option.some_inj, Prod.mk.injEq]
      constructor
      · rintro ⟨rfl, rfl⟩
        exact ⟨d, hd, rfl, List.forall_mem_nil _⟩
      · rintro ⟨c, -, heq, hbefore⟩
        cases before with
        | nil => exact ⟨rfl, (List.cons.inj heq).2⟩
        | cons e before =>
          obtain ⟨rfl, -⟩ := List.cons.inj heq
          rw [hbefore d (List.mem_cons_self ..)] at hd
          cases hd
    | false =>
      simp only [splitFirst?, hd, Bool.false_eq_true, if_false, Option.map_eq_some_iff,
        Prod.exists, Prod.mk.injEq]
      constructor
      · rintro ⟨front, back, hsplit, rfl, rfl⟩
        obtain ⟨c, hc, rfl, hfront⟩ := ih.1 hsplit
        exact ⟨c, hc, rfl, List.forall_mem_cons.2 ⟨hd, hfront⟩⟩
      · rintro ⟨c, hc, heq, hbefore⟩
        cases before with
        | nil =>
          obtain ⟨rfl, -⟩ := List.cons.inj heq
          rw [hc] at hd
          cases hd
        | cons e before =>
          obtain ⟨rfl, hs⟩ := List.cons.inj heq
          exact ⟨before, after, ih.2 ⟨c, hc, hs, (List.forall_mem_cons.1 hbefore).2⟩, rfl, rfl⟩

/-- The last separator is the one with none after it. -/
theorem splitLast?_eq_some_iff {isSep : Char → Bool} {s before after : List Char} :
    splitLast? isSep s = some (before, after) ↔
      ∃ c, isSep c = true ∧ s = before ++ c :: after ∧ ∀ d ∈ after, isSep d = false := by
  simp only [splitLast?, Option.map_eq_some_iff, Prod.exists, splitFirst?_eq_some_iff,
    Prod.mk.injEq]
  constructor
  · rintro ⟨front, back, ⟨c, hc, hs, hfront⟩, rfl, rfl⟩
    refine ⟨c, hc, ?_, fun d hd => hfront d (List.mem_reverse.1 hd)⟩
    rw [← List.reverse_reverse s, hs]
    simp
  · rintro ⟨c, hc, rfl, hafter⟩
    exact ⟨after.reverse, before.reverse, ⟨c, hc, by simp, by simpa using hafter⟩, by simp, by simp⟩

theorem splitAll_eq_splitOnP (isSep : Char → Bool) (s : List Char) :
    splitAll isSep s = s.splitOnP isSep := by
  induction s with
  | nil => rfl
  | cons c s ih =>
    obtain ⟨piece, rest, hs⟩ := List.exists_cons_of_ne_nil (splitAll_ne_nil isSep s)
    rw [List.splitOnP_cons_eq_if_modifyHead, ← ih, splitAll, hs]
    rfl

theorem joinWith_eq_intercalate (sep : List Char) (pieces : List (List Char)) :
    joinWith sep pieces = sep.intercalate pieces := by
  induction pieces with
  | nil => rfl
  | cons piece rest ih =>
    cases rest with
    | nil => simp [joinWith]
    | cons next rest =>
      rw [joinWith, ih, List.intercalate_cons_cons]
      exact fun hrest => List.cons_ne_nil _ _ hrest

/-- A separator cuts a text into two that are cut by themselves. -/
theorem splitAll_append_cons {isSep : Char → Bool} {c : Char} (hc : isSep c = true)
    (s t : List Char) : splitAll isSep (s ++ c :: t) = splitAll isSep s ++ splitAll isSep t := by
  simp only [splitAll_eq_splitOnP, List.splitOnP_append_cons s t hc]

theorem splitAll_eq_singleton {isSep : Char → Bool} {piece : List Char}
    (h : ∀ c ∈ piece, isSep c = false) : splitAll isSep piece = [piece] := by
  rw [splitAll_eq_splitOnP, List.splitOnP_eq_singleton h]

theorem beq_false_of_not_mem {sep : Char} {s : List Char} (h : sep ∉ s) :
    ∀ c ∈ s, (c == sep) = false := by
  intro c hc
  refine beq_false_of_ne ?_
  rintro rfl
  exact h hc

theorem splitAll_of_not_mem {sep : Char} {piece : List Char} (h : sep ∉ piece) :
    splitAll (· == sep) piece = [piece] := splitAll_eq_singleton (beq_false_of_not_mem h)

/-- What has no separator stays in front of the first piece. -/
theorem splitAll_append_of_not_mem {sep : Char} {front s first : List Char}
    {rest : List (List Char)} (h : sep ∉ front) (hs : splitAll (· == sep) s = first :: rest) :
    splitAll (· == sep) (front ++ s) = (front ++ first) :: rest := by
  induction front with
  | nil => exact hs
  | cons c front ih =>
    simp only [List.mem_cons, not_or] at h
    rw [List.cons_append, splitAll, ih h.2]
    exact if_neg fun hc => h.1 (beq_iff_eq.1 hc).symm

/-- Pieces that do not hold the separator come apart where they were put together. -/
theorem splitAll_joinWith {sep : Char} {pieces : List (List Char)} (hne : pieces ≠ [])
    (h : ∀ piece ∈ pieces, sep ∉ piece) :
    splitAll (· == sep) (joinWith [sep] pieces) = pieces := by
  rw [splitAll_eq_splitOnP, joinWith_eq_intercalate]
  exact List.splitOn_intercalate sep h hne

/-- A text is its pieces put together again. -/
theorem joinWith_splitAll (sep : Char) (s : List Char) :
    joinWith [sep] (splitAll (· == sep) s) = s := by
  rw [splitAll_eq_splitOnP, joinWith_eq_intercalate]
  exact List.intercalate_splitOn sep

/-- Pieces that are put together come apart into all that each of them comes apart into. -/
theorem splitAll_joinWith_eq_flatMap {sep : Char} {pieces : List (List Char)} (hne : pieces ≠ []) :
    splitAll (· == sep) (joinWith [sep] pieces) = pieces.flatMap (splitAll (· == sep)) := by
  induction pieces with
  | nil => exact absurd rfl hne
  | cons piece rest ih =>
    cases rest with
    | nil => rw [joinWith, List.flatMap_singleton]
    | cons next rest =>
      have hcut : splitAll (· == sep) (piece ++ sep :: joinWith [sep] (next :: rest)) =
          splitAll (· == sep) piece ++ splitAll (· == sep) (joinWith [sep] (next :: rest)) :=
        splitAll_append_cons (by simp) piece _
      rw [joinWith, List.append_assoc, List.singleton_append, hcut, ih (List.cons_ne_nil _ _)]
      · rfl
      · exact fun h => List.cons_ne_nil _ _ h

theorem mem_joinWith {sep : List Char} {pieces : List (List Char)} {c : Char}
    (h : c ∈ joinWith sep pieces) : c ∈ sep ∨ ∃ piece ∈ pieces, c ∈ piece := by
  induction pieces with
  | nil => cases h
  | cons piece rest ih =>
    cases rest with
    | nil => exact .inr ⟨piece, List.mem_cons_self .., h⟩
    | cons next rest =>
      rw [joinWith, List.mem_append, List.mem_append] at h
      · obtain (h | h) | h := h
        · exact .inr ⟨piece, List.mem_cons_self .., h⟩
        · exact .inl h
        · exact (ih h).imp_right fun ⟨q, hq, hc⟩ => ⟨q, List.mem_cons_of_mem _ hq, hc⟩
      · exact fun hrest => List.cons_ne_nil _ _ hrest

/-- Pieces that are put together have the characters that each of them has. -/
theorem mem_joinWith_iff {sep : List Char} {pieces : List (List Char)} {c : Char} (hc : c ∉ sep) :
    c ∈ joinWith sep pieces ↔ ∃ piece ∈ pieces, c ∈ piece := by
  constructor
  · intro h
    exact (mem_joinWith h).resolve_left hc
  · rintro ⟨piece, hpiece, h⟩
    induction pieces with
    | nil => cases hpiece
    | cons first rest ih =>
      cases rest with
      | nil =>
        obtain rfl := List.mem_singleton.1 hpiece
        exact h
      | cons next rest =>
        rw [joinWith]
        · rcases List.mem_cons.1 hpiece with rfl | hpiece
          · exact List.mem_append_left _ (List.mem_append_left _ h)
          · exact List.mem_append_right _ (ih hpiece)
        · exact fun hrest => List.cons_ne_nil _ _ hrest

/-! ### The ends of a text -/

theorem dropHead?_eq_some_iff {head s rest : List Char} :
    dropHead? head s = some rest ↔ s = head ++ rest := by
  induction head generalizing s with
  | nil => rw [dropHead?, Option.some_inj, List.nil_append]
  | cons h head ih =>
    cases s with
    | nil => simp [dropHead?]
    | cons c s =>
      rw [dropHead?]
      split
      · next heq => rw [ih, heq, List.cons_append, List.cons_inj_right]
      · next hne => simp [Ne.symm hne]

theorem dropTail?_eq_some_iff {tail s rest : List Char} :
    dropTail? tail s = some rest ↔ s = rest ++ tail := by
  simp only [dropTail?, Option.map_eq_some_iff, dropHead?_eq_some_iff]
  constructor
  · rintro ⟨reversed, hs, rfl⟩
    rw [← List.reverse_reverse s, hs, List.reverse_append, List.reverse_reverse]
  · rintro rfl
    exact ⟨rest.reverse, List.reverse_append, List.reverse_reverse rest⟩

/-- A cut at a part loses nothing but the part. -/
theorem append_of_splitFirstAt? {part s before after : List Char}
    (h : splitFirstAt? part s = some (before, after)) : s = before ++ part ++ after := by
  induction s generalizing before with
  | nil =>
    rw [splitFirstAt?] at h
    split at h
    · rename_i hpart
      obtain rfl := List.isEmpty_iff.1 hpart
      obtain ⟨rfl, rfl⟩ := Prod.mk.inj (Option.some.inj h)
      rfl
    · cases h
  | cons c s ih =>
    rw [splitFirstAt?] at h
    split at h
    · rename_i rest hhead
      obtain ⟨rfl, rfl⟩ := Prod.mk.inj (Option.some.inj h)
      exact dropHead?_eq_some_iff.1 hhead
    · obtain ⟨⟨front, rest⟩, hsplit, heq⟩ := Option.map_eq_some_iff.1 h
      obtain ⟨rfl, rfl⟩ := Prod.mk.inj heq
      rw [ih hsplit, List.cons_append, List.cons_append]

/-! ### Characters and numerals -/

/-- No blank stands between the space and the last of the control characters. -/
theorem isBlank_eq_false {c : Char} (hfirst : 0x20 < c.toNat) (hlast : c.toNat < 0x85) :
    isBlank c = false := by
  simp only [isBlank, CodeRange.mem, blankRanges, CodeRange.holds, List.any_cons, List.any_nil,
    Bool.or_false, Bool.or_eq_false_iff, Bool.and_eq_false_iff, decide_eq_false_iff_not]
  omega

theorem isDigit_of_mem_digits {n : Nat} {c : Char} (h : c ∈ digits n) : c.isDigit = true :=
  List.all_eq_true.1 (all_isDigit_digits n) c h

@[simp]
theorem digits_inj {m n : Nat} : digits m = digits n ↔ m = n := by
  refine ⟨fun h => ?_, congrArg digits⟩
  have hm := ofDigits?_digits m
  rw [h, ofDigits?_digits] at hm
  exact (Option.some.inj hm).symm

@[simp]
theorem natText_inj {m n : Nat} : natText m = natText n ↔ m = n := by
  rw [natText, natText, String.ofList_inj, digits_inj]

end Inspection.Text
