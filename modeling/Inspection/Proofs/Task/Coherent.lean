import Inspection.Proofs.Task.Comparing
import Inspection.Proofs.Text.Trimming
import Inspection.Report.Basic

/-!
# Task — Comparisons agree with each other

Every comparison sees of a text its number, if it is numeric, and otherwise nothing but the text
without the blanks around it.  `equal` compares just these, so it is an equivalence, although it
compares some texts as numbers and others as texts; and `min`, `max` and `between` are the order of
the numbers.

* `comparand`: what `equal` compares of a text.
* `Rule.passes_equal_iff`, `Rule.passes_min_iff` and the like: what passes a comparison.
* `Rule.verdict?_padded`: blanks around an output or an operand change no verdict.
* `Rule.evaluate_coherent`: how the comparisons agree.
-/

namespace Inspection

open Decimal (Reading isWord splitSign)

/-- The verdict, unless an expression is left to decide. -/
def Evaluation.verdict? : Evaluation → Option Verdict
  | .passed => some .passed
  | .failed _ => some .failed
  | .expression _ => none

/-- The output passes the rule. -/
def Rule.Passes (r : Rule) (output : String) : Prop := evaluateRule (some r) output = .passed

/-- The text denotes a finite number. -/
def IsNumeric (s : String) : Prop := ∃ value, numericValue? s = some value

/-- What is compared of a text: its number, or the text without the blanks around it. -/
def comparand (s : String) : Int ⊕ String :=
  match numericValue? s with
  | some value => .inl value
  | none => .inr (Text.trimmed s)

/-- The words for what is no finite number, in letters of either case and with a sign or none. -/
structure IsNumberWord (s : List Char) : Prop where
  spelled : ∃ sign ∈ [[], ['+'], ['-']], ∃ word, s = sign ++ word ∧
    word.map Char.toLower ∈ ["inf".toList, "infinity".toList, "nan".toList]

/-- The same operand, with blanks around its texts. -/
inductive Operand.Padded : Operand → Operand → Prop where
  | scalar {s t : String} (text : Text.Padded Text.isBlank s.toList t.toList) :
      Padded (.scalar s) (.scalar t)
  | range {low high low' high' : String}
      (lower : Text.Padded Text.isBlank low.toList low'.toList)
      (upper : Text.Padded Text.isBlank high.toList high'.toList) :
      Padded (.range low high) (.range low' high')

variable {s t output output' bound bound' low low' high high' : String}

/-! ### What is compared -/

@[simp]
theorem numericValue?_trimmed (s : String) : numericValue? (Text.trimmed s) = numericValue? s := by
  rw [numericValue?, numericValue?, Text.trimmed, String.toList_ofList, Text.trim_trim]

theorem numericValue?_congr (h : Text.trimmed s = Text.trimmed t) :
    numericValue? s = numericValue? t := by
  rw [← numericValue?_trimmed s, h, numericValue?_trimmed]

namespace Rule

/-- **Equal are the texts of which the same is compared.** -/
theorem passes_equal_iff :
    Passes ⟨.equal, .scalar bound⟩ output ↔ comparand output = comparand bound := by
  simp only [Passes, evaluateRule, evaluate, evaluateEqual, numericValue?_trimmed, check_eq_passed,
    comparand]
  cases hout : numericValue? output with
  | some v =>
    cases hbound : numericValue? bound with
    | some b => simp
    | none =>
      -- the same text would be numeric both times
      have hne : Text.trimmed output ≠ Text.trimmed bound := fun h => by
        rw [numericValue?_congr h, hbound] at hout
        cases hout
      simp [hne]
  | none =>
    cases hbound : numericValue? bound with
    | some b =>
      have hne : Text.trimmed output ≠ Text.trimmed bound := fun h => by
        rw [← numericValue?_congr h, hout] at hbound
        cases hbound
      simp [hne]
    | none => simp

theorem passes_min_iff :
    Passes ⟨.min, .scalar bound⟩ output ↔
      ∃ v b, numericValue? output = some v ∧ numericValue? bound = some b ∧ b ≤ v := by
  simp only [Passes, evaluateRule, evaluate, evaluateMin, numericValue?_trimmed]
  cases numericValue? output <;> cases numericValue? bound <;> simp

theorem passes_max_iff :
    Passes ⟨.max, .scalar bound⟩ output ↔
      ∃ v b, numericValue? output = some v ∧ numericValue? bound = some b ∧ v ≤ b := by
  simp only [Passes, evaluateRule, evaluate, evaluateMax, numericValue?_trimmed]
  cases numericValue? output <;> cases numericValue? bound <;> simp

/-- Between two bounds is at least the one and at most the other. -/
theorem passes_between_iff :
    Passes ⟨.between, .range low high⟩ output ↔
      Passes ⟨.min, .scalar low⟩ output ∧ Passes ⟨.max, .scalar high⟩ output := by
  rw [passes_min_iff, passes_max_iff]
  simp only [Passes, evaluateRule, evaluate, evaluateBetween, numericValue?_trimmed]
  cases numericValue? output <;> cases numericValue? low <;> cases numericValue? high <;> simp

/-! ### Blanks around a text -/

theorem verdict?_check (holds : Bool) (m : Mismatch) :
    (Evaluation.check holds m).verdict? = some (if holds then .passed else .failed) := by
  cases holds <;> rfl

theorem verdict?_evaluateEqual (hout : Text.trimmed output = Text.trimmed output')
    (hbound : Text.trimmed bound = Text.trimmed bound') :
    (evaluateEqual output bound).verdict? = (evaluateEqual output' bound').verdict? := by
  rw [evaluateEqual, evaluateEqual, hout, hbound]

theorem verdict?_evaluateMin (hout : Text.trimmed output = Text.trimmed output')
    (hbound : Text.trimmed bound = Text.trimmed bound') :
    (evaluateMin output bound).verdict? = (evaluateMin output' bound').verdict? := by
  simp only [evaluateMin, hout, hbound, numericValue?_congr hbound]
  split
  · rw [verdict?_check]
  · rfl

theorem verdict?_evaluateMax (hout : Text.trimmed output = Text.trimmed output')
    (hbound : Text.trimmed bound = Text.trimmed bound') :
    (evaluateMax output bound).verdict? = (evaluateMax output' bound').verdict? := by
  simp only [evaluateMax, hout, hbound, numericValue?_congr hbound]
  split
  · rw [verdict?_check]
  · rfl

theorem verdict?_evaluateBetween (hout : Text.trimmed output = Text.trimmed output')
    (hlow : Text.trimmed low = Text.trimmed low') (hhigh : Text.trimmed high = Text.trimmed high') :
    (evaluateBetween output low high).verdict? = (evaluateBetween output' low' high').verdict? := by
  simp only [evaluateBetween, hout, hlow, hhigh, numericValue?_congr hlow,
    numericValue?_congr hhigh]
  split
  · rw [verdict?_check]
  · rfl

/-- **Blanks around an output or an operand change no verdict**, whatever the comparison is and
whether the operand fits it or not. -/
theorem verdict?_padded {c : Comparison} {operand operand' : Operand}
    (hout : Text.Padded Text.isBlank output.toList output'.toList)
    (hoperand : operand.Padded operand') :
    (evaluate ⟨c, operand⟩ output).verdict? = (evaluate ⟨c, operand'⟩ output').verdict? := by
  have hout := (Text.trimmed_padded hout).symm
  cases hoperand with
  | scalar text =>
    have htext := (Text.trimmed_padded text).symm
    cases c with simp only [evaluate]
    | equal => exact verdict?_evaluateEqual hout htext
    | min => exact verdict?_evaluateMin hout htext
    | max => exact verdict?_evaluateMax hout htext
    | between | expression => rfl
  | range lower upper =>
    have hlow := (Text.trimmed_padded lower).symm
    have hhigh := (Text.trimmed_padded upper).symm
    cases c with simp only [evaluate]
    | between => exact verdict?_evaluateBetween hout hlow hhigh
    | equal | min | max | expression => rfl

end Rule

/-! ### Words for numbers -/

/-- A sign is no letter, so it is the sign of what follows. -/
theorem splitSign_append {sign word : List Char} (hsign : sign ∈ [[], ['+'], ['-']])
    (hword : word.map Char.toLower ∈ ["inf".toList, "infinity".toList, "nan".toList]) :
    (splitSign (sign ++ word)).2 = word := by
  simp only [List.mem_cons, List.not_mem_nil, or_false] at hsign
  obtain rfl | rfl | rfl := hsign
  · rw [List.nil_append, splitSign]
    · rintro rest rfl
      exact absurd hword (by simp)
    · rintro rest rfl
      exact absurd hword (by simp)
  · rfl
  · rfl

/-- **No such word is numeric.** -/
theorem IsNumberWord.not_isNumeric (h : IsNumberWord (Text.trim s.toList)) : ¬IsNumeric s := by
  obtain ⟨sign, hsign, word, hs, hword⟩ := h
  have hrest := splitSign_append hsign hword
  simp only [List.mem_cons, List.not_mem_nil, or_false] at hword
  rintro ⟨value, hvalue⟩
  simp only [numericValue?, hs, Reading.ofChars?, hrest, isWord] at hvalue
  obtain hword | hword | hword := hword <;> simp [hword, Reading.value?] at hvalue

/-! ### How the comparisons agree -/

namespace Rule

/-- Equal is what is compared as the same. -/
theorem equivalence_equal :
    Equivalence fun output bound => Passes ⟨.equal, .scalar bound⟩ output := by
  simp only [passes_equal_iff]
  exact ⟨fun _ => rfl, Eq.symm, Eq.trans⟩

/-- Numbers are equal when neither is above the other. -/
theorem passes_equal_iff_min_max (hout : IsNumeric output) (hbound : IsNumeric bound) :
    Passes ⟨.equal, .scalar bound⟩ output ↔
      Passes ⟨.min, .scalar bound⟩ output ∧ Passes ⟨.max, .scalar bound⟩ output := by
  obtain ⟨v, hv⟩ := hout
  obtain ⟨b, hb⟩ := hbound
  simp only [passes_equal_iff, passes_min_iff, passes_max_iff, comparand, hv, hb, Sum.inl.injEq,
    Option.some.injEq]
  constructor
  · rintro rfl
    exact ⟨⟨v, v, rfl, rfl, le_rfl⟩, v, v, rfl, rfl, le_rfl⟩
  · rintro ⟨⟨_, _, rfl, rfl, hle⟩, _, _, rfl, rfl, hge⟩
    exact le_antisymm hge hle

theorem Passes.isNumeric_min (h : Passes ⟨.min, .scalar bound⟩ output) :
    IsNumeric output ∧ IsNumeric bound := by
  obtain ⟨v, b, hv, hb, -⟩ := passes_min_iff.1 h
  exact ⟨⟨v, hv⟩, b, hb⟩

theorem Passes.isNumeric_max (h : Passes ⟨.max, .scalar bound⟩ output) :
    IsNumeric output ∧ IsNumeric bound := by
  obtain ⟨v, b, hv, hb, -⟩ := passes_max_iff.1 h
  exact ⟨⟨v, hv⟩, b, hb⟩

/-- **The comparisons agree with each other.**  `between` is `min` and `max`; `equal` is an
equivalence on all texts and, for numbers, `min` and `max` with one bound; what is not numeric, an
infinite number or a word for none among it, passes none of the three as an output or as a bound;
and blanks around a text change no verdict. -/
theorem evaluate_coherent :
    (∀ output low high, Passes ⟨.between, .range low high⟩ output ↔
      Passes ⟨.min, .scalar low⟩ output ∧ Passes ⟨.max, .scalar high⟩ output) ∧
    (Equivalence fun output bound => Passes ⟨.equal, .scalar bound⟩ output) ∧
    (∀ output bound, IsNumeric output → IsNumeric bound →
      (Passes ⟨.equal, .scalar bound⟩ output ↔
        Passes ⟨.min, .scalar bound⟩ output ∧ Passes ⟨.max, .scalar bound⟩ output)) ∧
    (∀ output bound, ¬(IsNumeric output ∧ IsNumeric bound) →
      ¬Passes ⟨.min, .scalar bound⟩ output ∧ ¬Passes ⟨.max, .scalar bound⟩ output ∧
      ∀ other, ¬Passes ⟨.between, .range bound other⟩ output ∧
        ¬Passes ⟨.between, .range other bound⟩ output) ∧
    (∀ s : String, IsNumberWord (Text.trim s.toList) → ¬IsNumeric s) ∧
    ∀ c (operand operand' : Operand) (output output' : String),
      Text.Padded Text.isBlank output.toList output'.toList → operand.Padded operand' →
      (evaluateRule (some ⟨c, operand⟩) output).verdict? =
        (evaluateRule (some ⟨c, operand'⟩) output').verdict? := by
  refine ⟨fun _ _ _ => passes_between_iff, equivalence_equal,
    fun _ _ => passes_equal_iff_min_max, fun output bound hnot => ?_,
    fun _ => IsNumberWord.not_isNumeric, fun _ _ _ _ _ => verdict?_padded⟩
  have hmin : ¬Passes ⟨.min, .scalar bound⟩ output := mt Passes.isNumeric_min hnot
  have hmax : ¬Passes ⟨.max, .scalar bound⟩ output := mt Passes.isNumeric_max hnot
  refine ⟨hmin, hmax, fun other => ?_⟩
  rw [passes_between_iff, passes_between_iff]
  exact ⟨fun h => hmin h.1, fun h => hmax h.2⟩

theorem evaluate_coherent_sample :
    IsNumeric "5" ∧ IsNumeric "+5" ∧ IsNumberWord (Text.trim "-Infinity ".toList) ∧
      Passes ⟨.min, .scalar "+5"⟩ "5" ∧ Passes ⟨.max, .scalar "+5"⟩ "5" ∧
      ¬Passes ⟨.between, .range "-Infinity " "+5"⟩ "5" ∧
      (evaluateRule (some ⟨.max, .scalar "\t+5 "⟩) "5\n").verdict? = some .passed := by
  have hfive : Integer "5" 5 := .ofWrites (.plain (by cbv)) (by decide)
  have hplus : Integer "+5" 5 := .ofWrites (.plus (s := ['5']) (by cbv)) (by decide)
  have hword : IsNumberWord (Text.trim "-Infinity ".toList) :=
    ⟨['-'], by simp, "Infinity".toList, by decide_cbv, by decide_cbv⟩
  have hequal : Passes ⟨.equal, .scalar "+5"⟩ "5" := by
    rw [passes_equal_iff, comparand, comparand, hfive.numericValue?_eq, hplus.numericValue?_eq]
  obtain ⟨-, -, hequal_iff, hnever, hwords, hpadded⟩ := evaluate_coherent
  obtain ⟨hmin, hmax⟩ := (hequal_iff "5" "+5" ⟨_, hfive.numericValue?_eq⟩
    ⟨_, hplus.numericValue?_eq⟩).1 hequal
  have hlow : ¬(IsNumeric "5" ∧ IsNumeric "-Infinity ") := fun h => hwords _ hword h.2
  have houtput : Text.trim "5\n".toList = "5".toList := by decide_cbv
  have hoperand : Text.trim "\t+5 ".toList = "+5".toList := by decide_cbv
  refine ⟨⟨_, hfive.numericValue?_eq⟩, ⟨_, hplus.numericValue?_eq⟩, hword, hmin, hmax,
    ((hnever _ _ hlow).2.2 "+5").1, ?_⟩
  rw [← hpadded .max (.scalar "+5") _ "5" _ (houtput ▸ Text.padded_trim _)
    (.scalar (hoperand ▸ Text.padded_trim _)), show evaluateRule _ "5" = .passed from hmax]
  rfl

end Rule

end Inspection
