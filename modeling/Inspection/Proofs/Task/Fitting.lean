import Inspection.Proofs.Except
import Inspection.Proofs.Run.Carried

/-!
# Task — Operands that fit

A comparison takes one operand or two.  Replacing variables changes neither the comparison nor how
many operands there are, so a rule that fits when its task is read fits whenever it is evaluated.

* `Step.Fits.evaluateRule_ne`: the step for itself, whatever its variables and its output are.
* `Evaluates`: a run comes to evaluate a rule about an output.
* `exists_evaluates`: every output in a report has been evaluated.
* `Evaluates.ne_unfitting`: no rule that is evaluated does not fit, if none does as it is written.
-/

namespace Inspection

theorem Evaluation.check_ne_failed {holds : Bool} {m m' : Mismatch} (h : m ≠ m') :
    Evaluation.check holds m ≠ .failed m' := by
  cases holds with
  | true => rintro ⟨⟩
  | false => exact fun heq => h (Evaluation.failed.inj heq)

namespace Rule

/-- Two bounds go with `between`, and with nothing else. -/
theorem isFitting_iff {r : Rule} :
    r.isFitting = true ↔ ((∃ low high, r.operand = .range low high) ↔ r.comparison = .between) := by
  obtain ⟨comparison, operand⟩ := r
  cases comparison <;> cases operand <;> simp [isFitting]

/-- What a fitting rule says about an output is about the output. -/
theorem evaluate_ne_unfitting {r : Rule} (h : r.isFitting = true) (output : String)
    (operand : Operand) (c : Comparison) : r.evaluate output ≠ .failed (.unfitting operand c) := by
  obtain ⟨comparison, written⟩ := r
  cases written with
  | scalar text =>
    cases comparison with
    | expression => rintro ⟨⟩
    | equal =>
      simp only [evaluate, evaluateEqual]
      exact Evaluation.check_ne_failed (by rintro ⟨⟩)
    | min =>
      simp only [evaluate, evaluateMin]
      split
      · exact Evaluation.check_ne_failed (by rintro ⟨⟩)
      · rintro ⟨⟩
    | max =>
      simp only [evaluate, evaluateMax]
      split
      · exact Evaluation.check_ne_failed (by rintro ⟨⟩)
      · rintro ⟨⟩
    | between => cases h
  | range low high =>
    cases comparison with
    | between =>
      simp only [evaluate, evaluateBetween]
      split
      · exact Evaluation.check_ne_failed (by rintro ⟨⟩)
      · rintro ⟨⟩
    | _ => cases h

end Rule

/-- The rule, if there is one, has as many operands as its comparison takes. -/
def Step.Fits (step : Step) : Prop := ∀ r, step.rule = some r → r.isFitting = true

variable {s : Session} {node : Node} {vars : Bindings} {step : Step} {steps : List Step}
  {v : Version} {rule : Option Rule} {output : String}

/-- Replacing variables does not change what a rule is fit for. -/
theorem substituteOperand_isFitting {c : Comparison} {written operand : Operand}
    (h : vars.substituteOperand written = .ok operand) :
    (Rule.mk c operand).isFitting = (Rule.mk c written).isFitting := by
  cases written with
  | scalar template =>
    obtain ⟨text, -, rfl⟩ := map_eq_ok h
    cases c <;> rfl
  | range low high =>
    obtain ⟨low', -, h⟩ := bind_eq_ok h
    obtain ⟨high', -, h⟩ := bind_eq_ok h
    obtain rfl := Except.ok.inj h
    cases c <;> rfl

/-- A rule fits with its variables replaced if it fits as it is written. -/
theorem Step.Fits.substituteRule (hfits : step.Fits) {r : Rule}
    (h : vars.substituteRule step.rule = .ok (some r)) : r.isFitting = true := by
  cases hrule : step.rule with
  | none => rw [hrule] at h; cases h
  | some written =>
    rw [hrule] at h
    obtain ⟨operand, hoperand, h⟩ := map_eq_ok h
    obtain rfl := Option.some.inj h
    rw [substituteOperand_isFitting hoperand]
    exact hfits written hrule

/-- **Whatever its variables and its output are**, a step whose rule fits is not told that it does
not. -/
theorem Step.Fits.evaluateRule_ne (hfits : step.Fits)
    (h : vars.substituteRule step.rule = .ok rule) (output : String) (operand : Operand)
    (c : Comparison) : evaluateRule rule output ≠ .failed (.unfitting operand c) := by
  cases rule with
  | none => simp [evaluateRule]
  | some r => exact Rule.evaluate_ne_unfitting (hfits.substituteRule h) output operand c

/-! ### Runs -/

/-- A run comes to evaluate a rule about an output: the steps before have been carried out, the next
one has that output, and that is its rule, with the variables as the output has left them. -/
inductive Evaluates (s : Session) (node : Node) (steps : List Step) (v : Version)
    (rule : Option Rule) (output : String) : Prop where
  | mk {done rest : List Step} {step : Step} {results : List StepResult} {command : String}
      (hsteps : steps = done ++ step :: rest)
      (hdone : Carried s node (Bindings.ofNode node v) done results)
      (hprobe : Probed
        ((s.after ((Bindings.ofNode node v).asked done results).length).backends 0) node
        ((Bindings.ofNode node v).afterSteps done results) step command output)
      (hrule : (step.bindOutput ((Bindings.ofNode node v).afterSteps done results)
        output).substituteRule step.rule = .ok rule)

/-- What is recorded has been recorded by one of the steps, where it stands. -/
theorem Carried.exists_records {results : List StepResult} {r : StepResult}
    (h : Carried s node vars steps results) (hr : r ∈ results) :
    ∃ done step rest before, steps = done ++ step :: rest ∧ Carried s node vars done before ∧
      Records (s.after (vars.asked done before).length) node (vars.afterSteps done before) step
        r := by
  induction h with
  | nil => cases hr
  | cons h _ ih =>
    obtain rfl | hr := List.mem_cons.1 hr
    · exact ⟨[], _, _, [], rfl, .nil _ _ _, h⟩
    · obtain ⟨done, step, rest, before, rfl, hbefore, hrecords⟩ := ih hr
      -- the session of the tail is the one that the first step leaves
      refine ⟨_ :: done, step, rest, _ :: before, rfl, .cons h hbefore, ?_⟩
      rw [after_asked_cons]
      exact hrecords

/-- Every output in a report has been evaluated. -/
theorem exists_evaluates {r : StepResult}
    (h : r ∈ ((s.runNode node steps v).ending.report node.id).steps) :
    ∃ rule, Evaluates s node steps v rule r.output := by
  obtain ⟨carried, rest, hcarried, h'⟩ := exists_carried s node steps v
  obtain ⟨done, step, more, before, hsteps, hbefore, hrecords⟩ := h'.exists_records h
  rw [hsteps, List.append_assoc, List.cons_append] at hcarried
  cases hrecords with
  | passed hprobe hrule _ => exact ⟨_, .mk hcarried hbefore hprobe hrule⟩
  | failed hprobe hrule _ _ => exact ⟨_, .mk hcarried hbefore hprobe hrule⟩

theorem Evaluates.ne_unfitting (h : Evaluates s node steps v rule output)
    (hfits : ∀ step ∈ steps, step.Fits) (operand : Operand) (c : Comparison) :
    evaluateRule rule output ≠ .failed (.unfitting operand c) := by
  obtain ⟨hsteps, -, -, hrule⟩ := h
  have hmem : _ ∈ steps := hsteps ▸ List.mem_append_right _ (List.mem_cons_self ..)
  exact (hfits _ hmem).evaluateRule_ne hrule output operand c

end Inspection
