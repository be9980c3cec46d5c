import Inspection.Proofs.Report.Status
import Inspection.Proofs.Run.Carried

/-!
# Run — What a report can be checked against

A node's report says enough to be checked: the definitions of its steps and the outputs that it has
recorded tell all else of it, but for how the backend has decided an expression.

* `Recomputed`: what is recorded of one step.
* `Carried.recomputed`: so it is for all that is carried out.
* `runNode_recomputed`: the whole report, its status included.
-/

namespace Inspection

/-- What is wrong with an output wherever the check fails. -/
def Evaluation.mismatch? : Evaluation → Option Mismatch
  | .passed => none
  | .failed m => some m
  | .expression text => some (.falseExpression text)

/-- A record is as its step's definition and its own output have it, for the variables before the
step and those after it, with which the rule of the step is `rule`. -/
structure Recomputed (step : Step) (before after : Bindings) (rule : Option Rule)
    (r : StepResult) : Prop where
  index : r.index = step.index
  kind : r.kind = step.kind
  command : before.substitute step.command = .ok r.command
  rendered : after.substituteRule step.rule = .ok rule
  verdict : (∀ text, rule ≠ some ⟨.expression, .scalar text⟩) →
    (r.verdict = .passed ↔ evaluateRule rule r.output = .passed)
  message_iff : r.message.isSome ↔ r.verdict = .failed
  /-- The step's own message takes the place of the default. -/
  own : ∀ template, step.failureMessage = some template → r.verdict = .failed →
    ∃ text, after.substitute template = .ok text ∧ r.message = some text
  byDefault : step.failureMessage = none → r.verdict = .failed →
    r.message = (evaluateRule rule r.output).mismatch?.map (·.message)
  severity : r.severity = r.verdict.severity step.reportType

variable {b : Backends} {s : Session} {node : Node} {vars : Bindings} {step : Step}
  {steps : List Step} {r : StepResult} {results : List StepResult}

theorem Checked.mismatch?_eq {rule : Option Rule} {output : String} {m : Mismatch}
    {kind : StepKind} (h : Checked b node kind rule output (some m)) :
    (evaluateRule rule output).mismatch? = some m := by
  cases h with
  | failed h => rw [h]; rfl
  | fails h hreply => rw [h]; rfl

/-- The check of a rule that is no expression passes exactly if its evaluation does. -/
theorem Checked.eq_none_iff {rule : Option Rule} {output : String} {m : Option Mismatch}
    {kind : StepKind} (h : Checked b node kind rule output m)
    (hrule : ∀ text, rule ≠ some ⟨.expression, .scalar text⟩) :
    m = none ↔ evaluateRule rule output = .passed := by
  cases h with
  | passed h => simp [h]
  | failed h => simp [h]
  | holds h _ | fails h _ => exact absurd (evaluateRule_eq_expression_iff.1 h) (hrule _)

theorem Records.recomputed (h : Records s node vars step r) :
    ∃ rule, Recomputed step vars (step.bindOutput vars r.output) rule r := by
  cases h with
  | @passed command output rule hprobe hrule hcheck =>
    refine ⟨rule, rfl, rfl, hprobe.hcommand, hrule, fun hne => ?_, by simp, ?_, ?_, rfl⟩
    · simpa using hcheck.eq_none_iff hne
    · simp
    · simp
  | @failed command output message rule m hprobe hrule hcheck hmessage =>
    refine ⟨rule, rfl, rfl, hprobe.hcommand, hrule, fun hne => ?_, by simp, ?_, ?_, rfl⟩
    · simpa using hcheck.eq_none_iff hne
    · intro template htemplate _
      rw [Step.messageFor, htemplate] at hmessage
      exact ⟨message, hmessage, rfl⟩
    · intro hnone _
      rw [Step.messageFor, hnone] at hmessage
      rw [hcheck.mismatch?_eq, Option.map_some, Except.ok.inj hmessage]

/-! ### All steps of a node -/

/-- Each step is carried out with the variables that the ones before it have left. -/
theorem Carried.records (h : Carried s node vars steps results) {k : Nat}
    (hr : results[k]? = some r) :
    ∃ step, steps[k]? = some step ∧
      ∃ s', Records s' node (vars.afterSteps (steps.take k) results) step r := by
  induction h generalizing k with
  | nil => simp at hr
  | cons h _ ih =>
    cases k with
    | zero =>
      obtain rfl := Option.some.inj hr
      exact ⟨_, rfl, _, h⟩
    | succ k => exact ih hr

theorem afterSteps_take_succ {k : Nat} (hstep : steps[k]? = some step)
    (hr : results[k]? = some r) :
    vars.afterSteps (steps.take (k + 1)) results =
      step.bindOutput (vars.afterSteps (steps.take k) results) r.output := by
  induction steps generalizing vars results k with
  | nil => cases hstep
  | cons first rest ih =>
    cases results with
    | nil => cases hr
    | cons r' more =>
      cases k with
      | zero =>
        obtain rfl := Option.some.inj hstep
        obtain rfl := Option.some.inj hr
        rfl
      | succ k => exact ih hstep hr

/-- What steps record can be recomputed, one after another. -/
theorem Carried.recomputed (h : Carried s node vars steps results) :
    ∃ trail : Nat → Bindings, trail 0 = vars ∧
      ∀ k r, results[k]? = some r → ∃ step rule, steps[k]? = some step ∧
        trail (k + 1) = step.bindOutput (trail k) r.output ∧
        Recomputed step (trail k) (trail (k + 1)) rule r := by
  refine ⟨fun k => vars.afterSteps (steps.take k) results, rfl, fun k r hr => ?_⟩
  obtain ⟨step, hstep, s', hrecords⟩ := h.records hr
  obtain ⟨rule, hrule⟩ := hrecords.recomputed
  have hnext : vars.afterSteps (steps.take (k + 1)) results =
      step.bindOutput (vars.afterSteps (steps.take k) results) r.output :=
    afterSteps_take_succ hstep hr
  rw [← hnext] at hrule
  exact ⟨step, rule, hstep, hnext, hrule⟩

/-- **A node's report can be recomputed.**  Starting from the node's own variables and giving each
step's output the name that the step has for it, the variables before and after every step are
known.  The command is rendered with those before it; its rule and its message with those after it;
the verdict is that of the rule about the output, unless the backend has to decide it; there is a
message exactly if the check has failed; and the severity is as the step's report type says.  The
status is an error if the node was aborted, and else the greatest of the severities. -/
theorem runNode_recomputed (s : Session) (node : Node) (steps : List Step) (v : Version) :
    let report := (s.runNode node steps v).ending.report node.id
    (∃ vars : Nat → Bindings, vars 0 = Bindings.ofNode node v ∧
      ∀ k r, report.steps[k]? = some r → ∃ step rule, steps[k]? = some step ∧
        vars (k + 1) = step.bindOutput (vars k) r.output ∧
        Recomputed step (vars k) (vars (k + 1)) rule r) ∧
    (report.isAborted = true → report.status = .error) ∧
    (report.isAborted = false →
      (∀ r ∈ report.steps, r.severity.rank ≤ report.status.rank) ∧
        (report.status = .pass ∨ ∃ r ∈ report.steps, r.severity = report.status)) := by
  intro report
  refine ⟨?_, NodeReport.status_of_isAborted, fun hcompleted => ?_⟩
  · obtain ⟨done, rest, rfl, h⟩ := exists_carried s node steps v
    obtain ⟨vars, hzero, hrecords⟩ := h.recomputed
    refine ⟨vars, hzero, fun k r hr => ?_⟩
    obtain ⟨step, rule, hstep, hrecord⟩ := hrecords k r hr
    have hk : k < done.length := (List.getElem?_eq_some_iff.1 hstep).1
    exact ⟨step, rule, (List.getElem?_append_left hk).trans hstep, hrecord⟩
  · have hstatus := NodeReport.status_of_not_isAborted hcompleted
    obtain ⟨hle, hmem⟩ := Severity.worst_eq_iff.1 hstatus.symm
    exact ⟨List.forall_mem_map.1 hle, hmem.imp_right List.mem_map.1⟩

end Inspection
