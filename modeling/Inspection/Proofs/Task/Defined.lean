import Inspection.Proofs.Except
import Inspection.Proofs.Task.Fitting
import Inspection.Proofs.Version.Grammar
import Inspection.Task.Definition
import Mathlib

/-!
# Task — What a text defines

A text that defines a task has been resolved part by part, and each part has been checked when it
was.  What the checks leave holds of every task there is: of the ranges of its variants, the numbers
of its steps, their commands, names and rules.

* `StepForm.Gives`, `VariantForm.Gives`: a step and a variant beside what the text says about them.
* `Task.ofText_gives`: what holds of a task that a text defines, and of its runs.
-/

namespace Inspection

/-! ### Rules -/

/-- Each comparison gets an operand of its own sort from a value, or none. -/
theorem Operand.ofValue_fits {c : Comparison} {v : Yaml.Value} {operand : Operand}
    (h : Operand.ofValue c v = .ok operand) : (Rule.mk c operand).isFitting = true := by
  unfold Operand.ofValue at h
  split at h
  · split at h
    · obtain ⟨low, -, h⟩ := bind_eq_ok h
      obtain ⟨high, -, h⟩ := bind_eq_ok h
      rw [← Except.ok.inj h]
      rfl
    · split at h
      · rw [← Except.ok.inj h]
        rfl
      · cases h
    · cases h
  · -- every other comparison takes a scalar
    rename_i hbetween
    obtain ⟨text, -, rfl⟩ := map_eq_ok h
    cases c with
    | between => exact absurd rfl hbetween
    | _ => rfl

theorem ResultForm.rule?_fits {f : ResultForm} {r : Rule} (h : f.rule? = .ok (some r)) :
    r.isFitting = true := by
  unfold rule? at h
  split at h
  · cases h
  · cases h
  · obtain ⟨operand, hoperand, h⟩ := map_eq_ok h
    obtain rfl := Option.some.inj h
    exact Operand.ofValue_fits hoperand

/-! ### Steps -/

/-- A step beside what the text says about it: its kind is the one that is named there, its command
stands in the field of that kind, and what the text has checked holds of it. -/
structure StepForm.Gives (f : StepForm) (index : Nat) (step : Step) : Prop where
  index : step.index = index
  kind : StepKind.ofTag f.tag = .ok step.kind
  command : f.command? step.kind = some step.command
  notBlank : Text.isBlankText step.command = false
  setValue : ∀ name, step.setValue = some name → name ≠ "" ∧ Text.trimmed name = name
  fits : step.Fits

theorem StepForm.resolve_gives {f : StepForm} {index : Nat} {step : Step}
    (h : f.resolve index = .ok step) : f.Gives index step := by
  unfold resolve at h
  split at h
  · cases h
  rename_i kind hkind
  split at h
  · cases h
  rename_i command hcommand
  split at h
  · cases h
  rename_i rule hrule
  -- all three checks have passed; what is left is the record that they make
  obtain rfl := Except.ok.inj h
  obtain ⟨hcommand, hblank⟩ := Option.filter_eq_some_iff.1 hcommand
  refine ⟨rfl, hkind, hcommand, by simpa using hblank, fun name hname => ?_, fun r hr => ?_⟩
  · obtain ⟨hname, hne⟩ := Option.filter_eq_some_iff.1 hname
    obtain ⟨raw, -, rfl⟩ := Option.map_eq_some_iff.1 hname
    exact ⟨by simpa using hne, Text.trimmed_trimmed raw⟩
  · exact ResultForm.rule?_fits (hrule.trans (congrArg _ hr))

/-- Steps beside what the text says about them, numbered from an index on. -/
inductive StepsGiven : Nat → List StepForm → List Step → Prop where
  | nil (index : Nat) : StepsGiven index [] []
  | cons {index : Nat} {f : StepForm} {step : Step} {forms : List StepForm} {steps : List Step}
      (h : f.Gives index step) (more : StepsGiven (index + 1) forms steps) :
      StepsGiven index (f :: forms) (step :: steps)

theorem resolveSteps_given {index : Nat} {forms : List StepForm} {steps : List Step}
    (h : resolveSteps index forms = .ok steps) : StepsGiven index forms steps := by
  induction forms generalizing index steps with
  | nil =>
    obtain rfl := Except.ok.inj h
    exact .nil index
  | cons f forms ih =>
    rw [resolveSteps] at h
    obtain ⟨step, hstep, h⟩ := bind_eq_ok h
    obtain ⟨rest, hrest, h⟩ := bind_eq_ok h
    obtain rfl := Except.ok.inj h
    exact .cons (StepForm.resolve_gives hstep) (ih hrest)

theorem StepsGiven.map_index {index : Nat} {forms : List StepForm} {steps : List Step}
    (h : StepsGiven index forms steps) :
    steps.map (·.index) = List.range' index steps.length := by
  induction h with
  | nil => rfl
  | cons h _ ih => rw [List.map_cons, h.index, ih, List.length_cons, List.range'_succ]

theorem StepsGiven.exists_form {index : Nat} {forms : List StepForm} {steps : List Step}
    (h : StepsGiven index forms steps) {step : Step} (hstep : step ∈ steps) :
    ∃ f k, f ∈ forms ∧ f.Gives k step := by
  induction h with
  | nil => cases hstep
  | cons h _ ih =>
    obtain rfl | hstep := List.mem_cons.1 hstep
    · exact ⟨_, _, List.mem_cons_self .., h⟩
    · obtain ⟨f, k, hf, hk⟩ := ih hstep
      exact ⟨f, k, List.mem_cons_of_mem _ hf, hk⟩

/-! ### Variants and tasks -/

/-- A variant beside what the text says about it. -/
structure VariantForm.Gives (f : VariantForm) (variant : Variant) : Prop where
  range : VersionRange.parse (f.version.getD "[*, *]") = .ok variant.range
  steps : StepsGiven 1 f.steps variant.steps

theorem VariantForm.resolve_gives {f : VariantForm} {variant : Variant}
    (h : f.resolve = .ok variant) : f.Gives variant := by
  unfold resolve at h
  obtain ⟨range, hrange, h⟩ := bind_eq_ok h
  obtain ⟨steps, hsteps, h⟩ := bind_eq_ok h
  obtain rfl := Except.ok.inj h
  exact ⟨mapError_eq_ok hrange, resolveSteps_given hsteps⟩

theorem TaskForm.resolve_gives {f : TaskForm} {name : String} {t : Task}
    (h : f.resolve name = .ok t) :
    t.variants ≠ [] ∧ List.Forall₂ VariantForm.Gives f.variants t.variants := by
  unfold resolve at h
  split at h
  · cases h
  · rename_i hne
    obtain ⟨variants, hvariants, h⟩ := bind_eq_ok h
    obtain rfl := Except.ok.inj h
    have hall := (mapM_eq_ok hvariants).imp fun _ _ => VariantForm.resolve_gives
    refine ⟨fun hnil : variants = [] => hne ?_, hall⟩
    rw [hnil] at hall
    rw [List.forall₂_nil_right_iff.1 hall]
    rfl

/-- **What holds of every task that a text defines.**  It has a variant; ranges between two versions
are the right way round; steps are numbered from one on; every command is that of its step's own
kind and not blank; names for outputs are trimmed and not empty; and two bounds go with `between`
alone.  So, whatever the variables of a node and the outputs of its steps are, no run comes to
evaluate a rule that does not fit its operand. -/
theorem Task.ofText_gives {name text : String} {t : Task} (h : Task.ofText name text = .ok t) :
    (∃ form, Yaml.decode text TaskForm.read = .ok form ∧
      List.Forall₂ VariantForm.Gives form.variants t.variants) ∧
    t.variants ≠ [] ∧
    ∀ variant ∈ t.variants,
      (∀ lower upper, variant.range = ⟨.at lower, .at upper⟩ → lower.atMost upper = true) ∧
      variant.steps.map (·.index) = List.range' 1 variant.steps.length ∧
      (∀ step ∈ variant.steps,
        Text.isBlankText step.command = false ∧
        (∀ name, step.setValue = some name → name ≠ "" ∧ Text.trimmed name = name) ∧
        ∀ r, step.rule = some r →
          ((∃ low high, r.operand = .range low high) ↔ r.comparison = .between)) ∧
      ∀ (s : Session) (node : Node) (v : Version) (rule : Option Rule) (output : String),
        Evaluates s node variant.steps v rule output →
          ∀ operand c, evaluateRule rule output ≠ .failed (.unfitting operand c) := by
  obtain ⟨form, hform, hresolve⟩ := bind_eq_ok h
  obtain ⟨hne, hall⟩ := TaskForm.resolve_gives hresolve
  refine ⟨⟨form, mapError_eq_ok hform, hall⟩, hne, fun variant hvariant => ?_⟩
  obtain ⟨f, -, hf⟩ := exists_of_forall₂_right hall hvariant
  refine ⟨fun lower upper hrange => VersionRange.parse_ordered (hrange ▸ hf.range),
    hf.steps.map_index, fun step hstep => ?_, fun s node v rule output hevaluates => ?_⟩
  · obtain ⟨g, k, -, hg⟩ := hf.steps.exists_form hstep
    exact ⟨hg.notBlank, hg.setValue, fun r hr => Rule.isFitting_iff.1 (hg.fits r hr)⟩
  · refine hevaluates.ne_unfitting fun step hstep => ?_
    obtain ⟨g, k, -, hg⟩ := hf.steps.exists_form hstep
    exact hg.fits

namespace Sample

/-- A task for two versions, with a name for its output and a rule of two bounds. -/
def text : String :=
  "task:\n- version: '[4, 5]'\n  steps:\n" ++
  "  - type: ssh\n    ssh: c\n    result:\n" ++
  "      set_value: ' a '\n      verify_type: between\n      verify: [1, 2]\n"

/-- What the text defines. -/
def defined : Task where
  name := "t"
  info := ""
  variants := [{
    range := ⟨.at (.finite [4]), .at (.finite [5])⟩
    steps := [
      { index := 1, kind := .ssh, command := "c", setValue := some "a"
        rule := some ⟨.between, .range "1" "2"⟩ }] }]

end Sample

theorem Task.ofText_gives_sample :
    Task.ofText "t" Sample.text = .ok Sample.defined ∧
      ∀ variant ∈ Sample.defined.variants,
        variant.steps.map (·.index) = List.range' 1 variant.steps.length ∧
        ∀ (s : Session) (node : Node) (v : Version) (rule : Option Rule) (output : String),
          Evaluates s node variant.steps v rule output →
            ∀ operand c, evaluateRule rule output ≠ .failed (.unfitting operand c) := by
  have h : Task.ofText "t" Sample.text = .ok Sample.defined := by decide_cbv
  refine ⟨h, fun variant hvariant => ?_⟩
  have hgives := (Task.ofText_gives h).2.2 variant hvariant
  exact ⟨hgives.2.1, hgives.2.2.2⟩

end Inspection
