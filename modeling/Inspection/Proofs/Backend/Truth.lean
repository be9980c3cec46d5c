import Inspection.Backend.Basic
import Inspection.Proofs.Decimal.Integers
import Mathlib

/-!
# Backend — The truth of a number

An expression is decided by a database, which answers with a number; zero is false and every other
number is true.  The answer is a text, and of the texts that write zero only `0` is taken for false.
So an expression fails as it should where the number is an integer as a column of integers shows it;
where it has a fraction it passes, whatever it is.

* `Decimal.WritesDecimal`: the texts of a number.
* `isTrueCell_iff`: which of them count as true.
* `Backends.test_numeral`: when an expression passes.
-/

namespace Inspection

namespace Decimal

/-- The characters write the number without a sign: digits, and maybe a point with digits behind
it. -/
inductive WritesUnsigned : List Char → ℚ → Prop where
  | whole {s : List Char} {n : Nat} (digits : Text.ofDigits? s = some n) : WritesUnsigned s n
  | fraction {s t : List Char} {n m : Nat} (digits : Text.ofDigits? s = some n)
      (behind : Text.ofDigits? t = some m) :
      WritesUnsigned (s ++ '.' :: t) (n + m / 10 ^ t.length)

/-- The characters write the number, with one sign or none. -/
inductive WritesDecimal : List Char → ℚ → Prop where
  | plain {s : List Char} {q : ℚ} (h : WritesUnsigned s q) : WritesDecimal s q
  | plus {s : List Char} {q : ℚ} (h : WritesUnsigned s q) : WritesDecimal ('+' :: s) q
  | minus {s : List Char} {q : ℚ} (h : WritesUnsigned s q) : WritesDecimal ('-' :: s) (-q)

variable {s : List Char} {q : ℚ} {n : Nat} {i : Int} {c : Char}

/-! ### What a number is written with -/

theorem WritesUnsigned.ne_nil (h : WritesUnsigned s q) : s ≠ [] := by
  cases h with
  | whole digits => exact (ofDigits?_eq_some_iff.1 digits).1
  | fraction => simp

theorem WritesUnsigned.mem (h : WritesUnsigned s q) (hc : c ∈ s) : c.isDigit = true ∨ c = '.' := by
  cases h with
  | whole digits => exact .inl ((ofDigits?_eq_some_iff.1 digits).2.1 c hc)
  | fraction digits behind =>
    obtain hc | hc := List.mem_append.1 hc
    · exact .inl ((ofDigits?_eq_some_iff.1 digits).2.1 c hc)
    · obtain rfl | hc := List.mem_cons.1 hc
      · exact .inr rfl
      · exact .inl ((ofDigits?_eq_some_iff.1 behind).2.1 c hc)

theorem WritesDecimal.ne_nil (h : WritesDecimal s q) : s ≠ [] := by
  cases h with
  | plain h => exact h.ne_nil
  | plus | minus => exact List.cons_ne_nil _ _

theorem WritesDecimal.mem (h : WritesDecimal s q) (hc : c ∈ s) :
    c.isDigit = true ∨ c = '.' ∨ c = '+' ∨ c = '-' := by
  cases h with
  | plain h => exact (h.mem hc).imp_right .inl
  | plus h =>
    obtain rfl | hc := List.mem_cons.1 hc
    · exact .inr (.inr (.inl rfl))
    · exact (h.mem hc).imp_right .inl
  | minus h =>
    obtain rfl | hc := List.mem_cons.1 hc
    · exact .inr (.inr (.inr rfl))
    · exact (h.mem hc).imp_right .inl

/-- No word with an `l` is a number, in whichever case. -/
theorem WritesDecimal.ne_word (h : WritesDecimal s q) {w : List Char} (hl : 'l' ∈ w) :
    s.map Char.toLower ≠ w := by
  rintro rfl
  obtain ⟨c, hc, hlower⟩ := List.mem_map.1 hl
  obtain hdigit | rfl | rfl | rfl := h.mem hc
  · rw [toLower_of_isDigit hdigit] at hlower
    rw [hlower] at hdigit
    cases hdigit
  · exact absurd hlower (by decide)
  · exact absurd hlower (by decide)
  · exact absurd hlower (by decide)

/-! ### Integers -/

/-- Digits alone write one integer. -/
theorem WritesUnsigned.eq_digits (h : WritesUnsigned (Text.digits n) q) : q = n := by
  generalize hs : Text.digits n = s at h
  cases h with
  | whole digits =>
    rw [← hs, Text.ofDigits?_digits] at digits
    rw [Option.some.inj digits]
  | fraction =>
    have hpoint : '.' ∈ Text.digits n := by
      rw [hs]
      exact List.mem_append_right _ (List.mem_cons_self ..)
    exact absurd (Text.isDigit_of_mem_digits hpoint) (by decide)

/-- An integer as it is written writes that integer. -/
theorem WritesDecimal.eq_signedDigits (h : WritesDecimal (Text.signedDigits i) q) : q = i := by
  generalize hs : Text.signedDigits i = s at h
  rw [Text.signedDigits] at hs
  split at hs
  · -- the text starts with a minus sign, so neither a digit nor a plus sign comes first
    cases h with
    | plain h =>
      have hsign : '-' ∈ s := hs ▸ List.mem_cons_self ..
      obtain hsign | hsign := h.mem hsign <;> exact absurd hsign (by decide)
    | plus h => cases hs
    | minus h =>
      obtain rfl := (List.cons.inj hs).2
      rw [h.eq_digits, ← Int.cast_natCast, ← Int.cast_neg, Int.ofNat_natAbs_of_nonpos (by omega),
        neg_neg]
  · have hdigit (c : Char) (hc : c ∈ s) : c.isDigit = true :=
      Text.isDigit_of_mem_digits (hs ▸ hc)
    cases h with
    | plain h =>
      obtain rfl := hs
      rw [h.eq_digits, ← Int.cast_natCast, Int.natAbs_of_nonneg (by omega)]
    | plus | minus => exact absurd (hdigit _ (List.mem_cons_self ..)) (by decide)

theorem WritesDecimal.eq_zero (h : WritesDecimal ['0'] q) : q = 0 := by
  have h : WritesDecimal (Text.signedDigits 0) q := h
  simpa using h.eq_signedDigits

end Decimal

open Decimal

variable {b : Backends} {node : Node} {expression cell : String} {rows : Rows} {q : ℚ}

/-! ### Cells -/

theorem trimmed_eq_iff {s t : String} : Text.trimmed s = t ↔ Text.trim s.toList = t.toList :=
  ⟨fun h => by rw [← h, Text.trimmed, String.toList_ofList],
    fun h => by rw [Text.trimmed, h, String.ofList_toList]⟩

/-- A number counts as true unless it is written `0`. -/
theorem isTrueCell_iff (h : WritesDecimal (Text.trim cell.toList) q) :
    isTrueCell cell = true ↔ Text.trimmed cell ≠ "0" := by
  have hempty : (Text.trim cell.toList).isEmpty = false := List.isEmpty_eq_false_iff.2 h.ne_nil
  have hfalse := beq_false_of_ne (h.ne_word (w := "false".toList) (by decide))
  have hnull := beq_false_of_ne (h.ne_word (w := "null".toList) (by decide))
  have hzero : "0".toList = ['0'] := rfl
  rw [isTrueCell, hempty, hfalse, hnull, Ne, trimmed_eq_iff, hzero]
  simp

theorem Backends.test_sql_reply
    (hreply : b.query node ("SELECT (" ++ expression ++ ")") = .ok rows) :
    (b.test node .sql expression).reply = .ok (isTrueCell (firstCell rows)) := by
  simp only [Backends.test, Functor.map, Backends.runQuery, hreply, Traced.call, Traced.bind]
  rfl

/-- **When an expression passes** whose answer is a number: where it is not zero, and where it is
zero but is not written `0`.  Integers are written in one way only and decided rightly; a number
with a point passes. -/
theorem Backends.test_numeral (hreply : b.query node ("SELECT (" ++ expression ++ ")") = .ok rows)
    (h : WritesDecimal (Text.trim (firstCell rows).toList) q) :
    ∃ passed, (b.test node .sql expression).reply = .ok passed ∧
      (passed = true ↔ q ≠ 0 ∨ Text.trimmed (firstCell rows) ≠ "0") ∧
      (∀ i, Text.trimmed (firstCell rows) = Text.intText i → (passed = true ↔ q ≠ 0)) ∧
      ('.' ∈ Text.trim (firstCell rows).toList → passed = true) := by
  refine ⟨_, test_sql_reply hreply, ?_, fun i hi => ?_, fun hpoint => ?_⟩ <;>
    rw [isTrueCell_iff h]
  · refine ⟨.inr, ?_⟩
    rintro (hq | hwritten)
    · intro hzero
      rw [trimmed_eq_iff] at hzero
      rw [hzero] at h
      exact hq h.eq_zero
    · exact hwritten
  · have hcell := trimmed_eq_iff.1 hi
    rw [Text.intText, String.toList_ofList] at hcell
    obtain rfl := (hcell ▸ h).eq_signedDigits
    refine not_congr ⟨fun hzero => ?_, fun hzero => ?_⟩
    · rw [trimmed_eq_iff.1 hzero] at h
      exact h.eq_zero
    · rw [hi, Int.cast_eq_zero.1 hzero]
      rfl
  · intro hzero
    rw [trimmed_eq_iff.1 hzero] at hpoint
    exact absurd hpoint (by decide)

namespace Sample

def host : Node := { id := "n", host := "h" }

/-- Backends whose database answers with one cell. -/
def answering (cell : String) : Backends where
  shell _ _ := .ok {}
  query _ _ := .ok [[cell]]
  parameter _ _ := .silent (.ok "")

end Sample

theorem Backends.test_numeral_half :
    (Sample.answering " -00.50 ").query Sample.host "SELECT (x)" = .ok [[" -00.50 "]] ∧
      WritesDecimal (Text.trim " -00.50 ".toList) (-(1 / 2)) ∧
      ((Sample.answering " -00.50 ").test Sample.host .sql "x").reply = .ok true := by
  have hreply : (Sample.answering " -00.50 ").query Sample.host ("SELECT (" ++ "x" ++ ")") =
    .ok [[" -00.50 "]] := rfl
  have hcell : Text.trim " -00.50 ".toList = '-' :: (['0', '0'] ++ '.' :: ['5', '0']) := by cbv
  have hhalf : ((0 : ℕ) + (50 : ℕ) / 10 ^ 2 : ℚ) = 1 / 2 := by norm_num
  have h : WritesDecimal (Text.trim " -00.50 ".toList) (-(1 / 2)) := by
    rw [hcell, ← hhalf]
    exact .minus (.fraction (by cbv) (by cbv))
  obtain ⟨passed, hpassed, hiff, -, -⟩ := Backends.test_numeral hreply h
  obtain rfl : passed = true := hiff.2 (.inl (by norm_num))
  exact ⟨hreply, h, hpassed⟩

/-- A zero with a fraction passes. -/
theorem Backends.test_scaled_zero :
    WritesDecimal (Text.trim "0.00".toList) 0 ∧
      ((Sample.answering "0.00").test Sample.host .sql "x").reply = .ok true := by
  have hcell : Text.trim "0.00".toList = ['0'] ++ '.' :: ['0', '0'] := by cbv
  have hzero : ((0 : ℕ) + (0 : ℕ) / 10 ^ 2 : ℚ) = 0 := by norm_num
  refine ⟨?_, by cbv⟩
  rw [hcell, ← hzero]
  exact .plain (.fraction (by cbv) (by cbv))

end Inspection
