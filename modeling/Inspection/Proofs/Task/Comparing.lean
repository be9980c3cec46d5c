import Inspection.Proofs.Decimal.Integers
import Inspection.Task.Evaluation

/-!
# Task — Comparing integers

A rule compares numbers of 64 bits, of which the significand has 53.  An output and an operand that
write integers are compared as integers, up to the integers that round to the same number: those
count as equal for every rule, so that a check may pass that should not, and none fails that should
pass.

* `Integer`: the texts of an integer as a database keeps it.
* `Merged`: integers that a rule cannot tell apart.
* `evaluate_integers`: what each comparison says about integers.
-/

namespace Inspection

open Decimal

/-- An integer of 64 bits, with a sign or without one. -/
def IsBigint (i : Int) : Prop := -2 ^ 63 ≤ i ∧ i < 2 ^ 64

instance (i : Int) : Decidable (IsBigint i) := inferInstanceAs (Decidable (_ ∧ _))

/-- The text, apart from blanks around it, writes such an integer. -/
structure Integer (s : String) (i : Int) : Prop where
  writes : Writes (Text.trim s.toList) i
  bigint : IsBigint i

/-- Different integers that round to the same number of 64 bits. -/
def Merged (i j : Int) : Prop := i ≠ j ∧ binary64.rounded i = binary64.rounded j

instance (i j : Int) : Decidable (Merged i j) := inferInstanceAs (Decidable (_ ∧ _))

variable {i j k : Int} {s output bound low high : String}

theorem IsBigint.natAbs_lt (h : IsBigint i) : i.natAbs < 2 ^ 64 := by
  obtain ⟨hlow, hhigh⟩ := h
  omega

/-! ### The number that is compared -/

theorem Integer.ofWrites (h : Writes s.toList i) (hi : IsBigint i) : Integer s i :=
  ⟨h.trim_eq.symm ▸ h, hi⟩

theorem Integer.trimmed (h : Integer s i) : Integer (Text.trimmed s) i := by
  refine ⟨?_, h.bigint⟩
  rw [Text.trimmed, String.toList_ofList, Text.trim_trim]
  exact h.writes

theorem Integer.numericValue?_eq (h : Integer s i) :
    numericValue? s = some (binary64.rounded i) :=
  h.writes.reading (by decide) h.bigint.natAbs_lt (by decide)

theorem merged_comm : Merged i j ↔ Merged j i := by
  rw [Merged, Merged, ne_comm, eq_comm]

theorem rounded_eq_iff : binary64.rounded i = binary64.rounded j ↔ i = j ∨ Merged i j := by
  by_cases h : i = j
  · simp [h]
  · simp [h, Merged]

theorem rounded_le_iff_or_merged :
    binary64.rounded i ≤ binary64.rounded j ↔ i ≤ j ∨ Merged i j := by
  rw [Format.rounded_le_iff (by decide), rounded_eq_iff]
  constructor
  · rintro (hle | heq | hmerged)
    · exact .inl hle
    · exact .inl heq.le
    · exact .inr hmerged
  · rintro (hle | hmerged)
    · exact .inl hle
    · exact .inr (.inr hmerged)

/-- Only large integers that are close to each other are merged. -/
theorem Merged.bounds (h : Merged i j) (hi : IsBigint i) (hj : IsBigint j) :
    2 ^ 53 ≤ i.natAbs ∧ 2 ^ 53 ≤ j.natAbs ∧ (i - j).natAbs ≤ 2 ^ 11 := by
  obtain ⟨hne, hrounded⟩ := h
  refine ⟨?_, ?_, ?_⟩
  · refine Nat.not_lt.1 fun hlt => hne ?_
    exact (Format.rounded_eq_iff_of_lt (f := binary64) (by decide) hlt).1 hrounded
  · refine Nat.not_lt.1 fun hlt => hne ?_
    exact ((Format.rounded_eq_iff_of_lt (f := binary64) (by decide) hlt).1 hrounded.symm).symm
  · exact Format.natAbs_sub_le_of_rounded_eq (f := binary64) hi.natAbs_lt hj.natAbs_lt
      (by decide) hrounded

/-! ### What a rule says -/

@[simp]
theorem check_eq_passed {holds : Bool} {mismatch : Mismatch} :
    Evaluation.check holds mismatch = .passed ↔ holds = true := by
  cases holds <;> simp [Evaluation.check]

theorem evaluateEqual_eq_passed_iff (hout : Integer output i) (hbound : Integer bound j) :
    Rule.evaluateEqual output bound = .passed ↔ i = j ∨ Merged i j := by
  simp only [Rule.evaluateEqual, hout.trimmed.numericValue?_eq, hbound.trimmed.numericValue?_eq,
    check_eq_passed, beq_iff_eq]
  exact rounded_eq_iff

theorem evaluateMin_eq_passed_iff (hout : Integer output i) (hbound : Integer bound j) :
    Rule.evaluateMin output bound = .passed ↔ j ≤ i ∨ Merged i j := by
  simp only [Rule.evaluateMin, hout.trimmed.numericValue?_eq, hbound.numericValue?_eq,
    check_eq_passed, decide_eq_true_eq]
  rw [rounded_le_iff_or_merged, merged_comm]

theorem evaluateMax_eq_passed_iff (hout : Integer output i) (hbound : Integer bound j) :
    Rule.evaluateMax output bound = .passed ↔ i ≤ j ∨ Merged i j := by
  simp only [Rule.evaluateMax, hout.trimmed.numericValue?_eq, hbound.numericValue?_eq,
    check_eq_passed, decide_eq_true_eq]
  exact rounded_le_iff_or_merged

/-- Between two bounds is at least the one and at most the other. -/
theorem evaluateBetween_eq_passed_iff (hout : Integer output i) (hlow : Integer low j)
    (hhigh : Integer high k) :
    Rule.evaluateBetween output low high = .passed ↔
      Rule.evaluateMin output low = .passed ∧ Rule.evaluateMax output high = .passed := by
  simp only [Rule.evaluateBetween, Rule.evaluateMin, Rule.evaluateMax,
    hout.trimmed.numericValue?_eq, hlow.numericValue?_eq, hhigh.numericValue?_eq, check_eq_passed,
    Bool.and_eq_true]

/-- **Integers are compared exactly, but for those that are merged.** -/
theorem evaluate_integers (hout : Integer output i) (hlow : Integer low j)
    (hhigh : Integer high k) :
    (evaluateRule (some ⟨.equal, .scalar low⟩) output = .passed ↔ i = j ∨ Merged i j) ∧
    (evaluateRule (some ⟨.min, .scalar low⟩) output = .passed ↔ j ≤ i ∨ Merged i j) ∧
    (evaluateRule (some ⟨.max, .scalar low⟩) output = .passed ↔ i ≤ j ∨ Merged i j) ∧
    (evaluateRule (some ⟨.between, .range low high⟩) output = .passed ↔
      (j ≤ i ∨ Merged i j) ∧ (i ≤ k ∨ Merged i k)) ∧
    (Merged i j → 2 ^ 53 ≤ i.natAbs ∧ 2 ^ 53 ≤ j.natAbs ∧ (i - j).natAbs ≤ 2 ^ 11) := by
  simp only [evaluateRule, Rule.evaluate]
  refine ⟨evaluateEqual_eq_passed_iff hout hlow, evaluateMin_eq_passed_iff hout hlow,
    evaluateMax_eq_passed_iff hout hlow, ?_, fun h => h.bounds hout.bigint hlow.bigint⟩
  rw [evaluateBetween_eq_passed_iff hout hlow hhigh, evaluateMin_eq_passed_iff hout hlow,
    evaluateMax_eq_passed_iff hout hhigh]

theorem evaluate_integers_widest :
    Integer "9007199254740993" 9007199254740993 ∧ Integer " -7" (-7) ∧
      Integer "+18446744073709551615" 18446744073709551615 ∧
      evaluateRule (some ⟨.between, .range " -7" "+18446744073709551615"⟩) "9007199254740993" =
        .passed := by
  have hout : Integer "9007199254740993" 9007199254740993 := .ofWrites (.plain (by cbv)) (by decide)
  have hlow : Integer " -7" (-7) := ⟨.minus (n := 7) (by cbv), by decide⟩
  have hhigh : Integer "+18446744073709551615" 18446744073709551615 :=
    .ofWrites (.plus (s := "18446744073709551615".toList) (by cbv)) (by decide)
  have hbetween := (evaluate_integers hout hlow hhigh).2.2.2.1
  exact ⟨hout, hlow, hhigh, hbetween.2 ⟨.inl (by decide), .inl (by decide)⟩⟩

/-- The first integers that are merged: a rule that one of them breaks passes with the other. -/
theorem evaluate_first_merged :
    Integer "9007199254740992" 9007199254740992 ∧ Integer "9007199254740993" 9007199254740993 ∧
      Merged 9007199254740992 9007199254740993 ∧
      evaluateRule (some ⟨.equal, .scalar "9007199254740992"⟩) "9007199254740993" = .passed ∧
      evaluateRule (some ⟨.min, .scalar "9007199254740993"⟩) "9007199254740992" = .passed ∧
      evaluateRule (some ⟨.max, .scalar "9007199254740992"⟩) "9007199254740993" = .passed := by
  have heven : Integer "9007199254740992" 9007199254740992 :=
    .ofWrites (.plain (by cbv)) (by decide)
  have hodd : Integer "9007199254740993" 9007199254740993 :=
    .ofWrites (.plain (by cbv)) (by decide)
  have hmerged : Merged 9007199254740992 9007199254740993 := ⟨by decide, by decide +kernel⟩
  have hmerged' := merged_comm.1 hmerged
  refine ⟨heven, hodd, hmerged, ?_, ?_, ?_⟩
  · exact (evaluateEqual_eq_passed_iff hodd heven).2 (.inr hmerged')
  · exact (evaluateMin_eq_passed_iff heven hodd).2 (.inr hmerged)
  · exact (evaluateMax_eq_passed_iff hodd heven).2 (.inr hmerged')

end Inspection
