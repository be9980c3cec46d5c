import Inspection.Decimal.Reader
import Inspection.Proofs.Decimal.Rounding
import Inspection.Proofs.Text.Trimming
import Mathlib

/-!
# Decimal — Reading integers

An integer is written in digits, with one sign before them or none.  Such a text holds no blank, no
point and no mark of an exponent and is none of the words, so a format reads from it the number that
the integer rounds to.

* `Writes`: the texts of an integer.
* `Writes.reading`: what a format reads from them.
-/

namespace Inspection.Decimal

/-- The characters write the integer. -/
inductive Writes : List Char → Int → Prop where
  | plain {s : List Char} {n : Nat} (digits : Text.ofDigits? s = some n) : Writes s n
  | plus {s : List Char} {n : Nat} (digits : Text.ofDigits? s = some n) : Writes ('+' :: s) n
  | minus {s : List Char} {n : Nat} (digits : Text.ofDigits? s = some n) : Writes ('-' :: s) (-n)

variable {f : Format} {s : List Char} {i : Int} {n : Nat} {c : Char}

/-! ### Digits -/

theorem ofDigits?_eq_some_iff :
    Text.ofDigits? s = some n ↔
      s ≠ [] ∧ (∀ c ∈ s, c.isDigit = true) ∧ Nat.ofDigitChars 10 s 0 = n := by
  rw [Text.ofDigits?]
  split
  · rename_i h
    simp_all
  · rename_i h
    simp_all

theorem isDigit_iff : c.isDigit = true ↔ 48 ≤ c.toNat ∧ c.toNat ≤ 57 := by
  rw [Char.isDigit, Bool.and_eq_true, decide_eq_true_eq, decide_eq_true_eq]
  exact Iff.rfl

theorem not_isBlank_of_isDigit (h : c.isDigit = true) : Text.isBlank c = false := by
  obtain ⟨hfirst, hlast⟩ := isDigit_iff.1 h
  exact Text.isBlank_eq_false (by omega) (by omega)

theorem toLower_of_isDigit (h : c.isDigit = true) : c.toLower = c := by
  rw [Char.toLower, dif_neg]
  rintro ⟨habove, -⟩
  have hlow : 65 ≤ c.toNat := habove
  have := isDigit_iff.1 h
  omega

theorem ne_of_isDigit {d : Char} (h : c.isDigit = true) (hd : d.isDigit = false) : c ≠ d := by
  rintro rfl
  rw [h] at hd
  cases hd

/-- A word with a letter is not written in digits. -/
theorem isWord_of_isDigit (word : String) (hword : word.toList.all Char.isDigit = false)
    (h : ∀ c ∈ s, c.isDigit = true) : isWord word s = false := by
  rw [isWord, beq_eq_false_iff_ne]
  intro heq
  rw [← heq, List.all_map, List.all_eq_false] at hword
  obtain ⟨c, hc, hnot⟩ := hword
  exact hnot (by rw [Function.comp, toLower_of_isDigit (h c hc), h c hc])

theorem splitSign_of_isDigit (h : ∀ c ∈ s, c.isDigit = true) : splitSign s = (false, s) := by
  rw [splitSign]
  · exact fun rest hs => absurd (h _ (hs ▸ List.mem_cons_self ..)) (by decide)
  · exact fun rest hs => absurd (h _ (hs ▸ List.mem_cons_self ..)) (by decide)

/-! ### What is read -/

theorem significand?_of_isDigit (hne : s ≠ []) (h : ∀ c ∈ s, c.isDigit = true) :
    significand? s = some (s, []) := by
  have hpoint : Text.splitFirst? (· == '.') s = none :=
    Text.splitFirst?_eq_none fun c hc => beq_false_of_ne (ne_of_isDigit (h c hc) (by decide))
  have hall : s.all Char.isDigit = true := List.all_eq_true.2 h
  have hsome : s.isEmpty = false := List.isEmpty_eq_false_iff.2 hne
  simp only [significand?, hpoint, Option.getD_none, hall, List.all_nil, List.append_nil, hsome,
    Bool.not_false, Bool.and_self, if_true]

theorem ofUnsigned?_digits (hs : Text.ofDigits? s = some n) (negative : Bool) :
    Numeral.ofUnsigned? negative s = some ⟨negative, n, 0⟩ := by
  obtain ⟨hne, hdigits, hvalue⟩ := ofDigits?_eq_some_iff.1 hs
  have hmark : Text.splitFirst? (fun c => c == 'e' || c == 'E') s = none :=
    Text.splitFirst?_eq_none fun c hc => Bool.or_eq_false_iff.2
      ⟨beq_false_of_ne (ne_of_isDigit (hdigits c hc) (by decide)),
        beq_false_of_ne (ne_of_isDigit (hdigits c hc) (by decide))⟩
  simp [Numeral.ofUnsigned?, hmark, significand?_of_isDigit hne hdigits, hvalue]

/-- The number that unsigned digits come to. -/
theorem reading_digits (hf : 0 < f.precision) (hs : Text.ofDigits? s = some n) {k : Nat}
    (hn : n < 2 ^ k) (hk : k < f.top) {t : List Char} {negative : Bool}
    (ht : splitSign t = (negative, s)) :
    Reading.ofChars? f t = some (.finite negative (f.round (n * 2 ^ f.lowest) 1)) := by
  obtain ⟨-, hdigits, -⟩ := ofDigits?_eq_some_iff.1 hs
  rw [Reading.ofChars?, ht]
  simp [isWord_of_isDigit "inf" (by decide) hdigits,
    isWord_of_isDigit "infinity" (by decide) hdigits,
    isWord_of_isDigit "nan" (by decide) hdigits, ofUnsigned?_digits hs,
    Format.ofDecimal?_zero hf hn hk]

namespace Writes

/-- **A format reads the number that the integer rounds to.** -/
theorem reading (h : Writes s i) (hf : 0 < f.precision) {k : Nat} (hi : i.natAbs < 2 ^ k)
    (hk : k < f.top) : (Reading.ofChars? f s).bind Reading.value? = some (f.rounded i) := by
  cases h with
  | plain hs =>
    have hdigits := (ofDigits?_eq_some_iff.1 hs).2.1
    rw [reading_digits hf hs (by omega) hk (splitSign_of_isDigit hdigits), Format.rounded_natCast]
    rfl
  | plus hs =>
    rw [reading_digits hf hs (by omega) hk rfl, Format.rounded_natCast]
    rfl
  | minus hs =>
    rw [reading_digits hf hs (by omega) hk rfl, Format.rounded_neg, Format.rounded_natCast]
    rfl

theorem not_isBlank (h : Writes s i) : ∀ c ∈ s, Text.isBlank c = false := by
  cases h with
  | plain hs => exact fun c hc => not_isBlank_of_isDigit ((ofDigits?_eq_some_iff.1 hs).2.1 c hc)
  | plus hs | minus hs =>
    refine List.forall_mem_cons.2 ⟨by decide, fun c hc => ?_⟩
    exact not_isBlank_of_isDigit ((ofDigits?_eq_some_iff.1 hs).2.1 c hc)

theorem trim_eq (h : Writes s i) : Text.trim s = s := Text.trim_of_forall h.not_isBlank

end Writes

end Inspection.Decimal
