import Inspection.Run.NodeRun

/-!
# Run — What a step does

A step takes the output of its command and has it checked.  It *records* what it has found, or it
*refuses* to go on, or its backend panics: one of the three, as its variables and the replies have
it.  A command is the first request of its step and finds the backends of the session as they are
then; an expression is the second.

* `Records`, `Refuses`, `Panics`: the ends of a step.
* `Refuses`: the five points at which a step can fail; a failed check is none of them.
* `Step.asked`: all that a step asks that gets to its end.
* `stepGoes_iff`: these are the ends of a step, and no step has two of them.
-/

namespace Inspection

/-- What a check finds wrong with an output, if anything; an expression is as the backend says. -/
inductive Checked (b : Backends) (node : Node) (kind : StepKind) (rule : Option Rule)
    (output : String) : Option Mismatch → Prop where
  | passed (h : evaluateRule rule output = .passed) : Checked b node kind rule output none
  | failed {m : Mismatch} (h : evaluateRule rule output = .failed m) :
      Checked b node kind rule output (some m)
  | holds {text : String} (h : evaluateRule rule output = .expression text)
      (hreply : (b.test node kind text).reply = .ok true) : Checked b node kind rule output none
  | fails {text : String} (h : evaluateRule rule output = .expression text)
      (hreply : (b.test node kind text).reply = .ok false) :
      Checked b node kind rule output (some (.falseExpression text))

/-- The step has a command, and the command an output. -/
structure Probed (b : Backends) (node : Node) (vars : Bindings) (step : Step)
    (command output : String) : Prop where
  hcommand : vars.substitute step.command = .ok command
  houtput : (b.probe node step.kind command).reply = .ok output

/-- What a step asks about an output: whether its rule holds, if that is an expression. -/
def Step.tests (step : Step) (vars : Bindings) : List Request :=
  match step.rule with
  | some ⟨.expression, .scalar template⟩ =>
    ((vars.substitute template).toOption.map (.test step.kind)).toList
  | _ => []

/-- All that a step asks: its command, and of the output whether its rule holds if that is an
expression. -/
def Step.asked (step : Step) (vars : Bindings) (command output : String) : List Request :=
  .probe step.kind command :: step.tests (step.bindOutput vars output)

/-- The step is carried out, and what it records. -/
inductive Records (s : Session) (node : Node) (vars : Bindings) (step : Step) :
    StepResult → Prop where
  | passed {command output : String} {rule : Option Rule}
      (hprobe : Probed (s.backends 0) node vars step command output)
      (hrule : (step.bindOutput vars output).substituteRule step.rule = .ok rule)
      (hcheck : Checked (s.backends 1) node step.kind rule output none) :
      Records s node vars step
        { index := step.index, kind := step.kind, command, output
          verdict := .passed, severity := Verdict.passed.severity step.reportType }
  | failed {command output message : String} {rule : Option Rule} {m : Mismatch}
      (hprobe : Probed (s.backends 0) node vars step command output)
      (hrule : (step.bindOutput vars output).substituteRule step.rule = .ok rule)
      (hcheck : Checked (s.backends 1) node step.kind rule output (some m))
      (hmessage : step.messageFor (step.bindOutput vars output) m = .ok message) :
      Records s node vars step
        { index := step.index, kind := step.kind, command, output, message := some message
          verdict := .failed, severity := Verdict.failed.severity step.reportType }

/-- The step fails, with all that it has asked: its command or its rule has a variable without a
value, its backend has no output or no answer for it, or its check has failed and the message for
that has a variable without a value. -/
inductive Refuses (s : Session) (node : Node) (vars : Bindings) (step : Step) :
    List Request → NodeError → Prop where
  | command {e : BindingError} (h : vars.substitute step.command = .error e) :
      Refuses s node vars step [] (.binding e)
  | probe {command : String} {e : BackendError}
      (hcommand : vars.substitute step.command = .ok command)
      (h : ((s.backends 0).probe node step.kind command).reply = .failed e) :
      Refuses s node vars step [.probe step.kind command] (.backend e)
  | rule {command output : String} {e : BindingError}
      (hprobe : Probed (s.backends 0) node vars step command output)
      (h : (step.bindOutput vars output).substituteRule step.rule = .error e) :
      Refuses s node vars step [.probe step.kind command] (.binding e)
  | test {command output text : String} {e : BackendError}
      (hprobe : Probed (s.backends 0) node vars step command output)
      (hrule : (step.bindOutput vars output).substituteRule step.rule =
        .ok (some ⟨.expression, .scalar text⟩))
      (h : ((s.backends 1).test node step.kind text).reply = .failed e) :
      Refuses s node vars step [.probe step.kind command, .test step.kind text] (.backend e)
  | message {command output template : String} {rule : Option Rule} {m : Mismatch}
      {e : BindingError} (hprobe : Probed (s.backends 0) node vars step command output)
      (hrule : (step.bindOutput vars output).substituteRule step.rule = .ok rule)
      (hcheck : Checked (s.backends 1) node step.kind rule output (some m))
      (htemplate : step.failureMessage = some template)
      (h : (step.bindOutput vars output).substitute template = .error e) :
      Refuses s node vars step (step.asked vars command output) (.binding e)

/-- The backend panics where it should give an output or an answer. -/
inductive Panics (s : Session) (node : Node) (vars : Bindings) (step : Step) :
    List Request → String → Prop where
  | probe {command text : String} (hcommand : vars.substitute step.command = .ok command)
      (h : ((s.backends 0).probe node step.kind command).reply = .panicked text) :
      Panics s node vars step [.probe step.kind command] text
  | test {command output expression text : String}
      (hprobe : Probed (s.backends 0) node vars step command output)
      (hrule : (step.bindOutput vars output).substituteRule step.rule =
        .ok (some ⟨.expression, .scalar expression⟩))
      (h : ((s.backends 1).test node step.kind expression).reply = .panicked text) :
      Panics s node vars step [.probe step.kind command, .test step.kind expression] text

/-- How a step goes: what it asks, and its end. -/
inductive StepGoes (s : Session) (node : Node) (vars : Bindings) (step : Step) :
    List Request × StepEnd → Prop where
  | recorded {r : StepResult} (h : Records s node vars step r) :
      StepGoes s node vars step
        (step.asked vars r.command r.output, .recorded r (step.bindOutput vars r.output))
  | refused {asked : List Request} {e : NodeError} (h : Refuses s node vars step asked e) :
      StepGoes s node vars step (asked, .refused e)
  | panicked {asked : List Request} {text : String} (h : Panics s node vars step asked text) :
      StepGoes s node vars step (asked, .panicked text)

/-! ### Rules and expressions -/

theorem Evaluation.check_ne_expression (holds : Bool) (m : Mismatch) (text : String) :
    Evaluation.check holds m ≠ .expression text := by
  cases holds <;> simp [Evaluation.check]

/-- A rule is left to the backend exactly if it is an expression with one operand. -/
theorem evaluateRule_eq_expression_iff {rule : Option Rule} {output text : String} :
    evaluateRule rule output = .expression text ↔ rule = some ⟨.expression, .scalar text⟩ := by
  constructor
  · intro h
    cases rule with
    | none => cases h
    | some r =>
      obtain ⟨comparison, operand⟩ := r
      simp only [evaluateRule, Rule.evaluate] at h
      split at h
      · cases h
        rfl
      · exact absurd h (Evaluation.check_ne_expression _ _ _)
      · simp only [Rule.evaluateMin] at h
        split at h
        · exact absurd h (Evaluation.check_ne_expression _ _ _)
        · cases h
      · simp only [Rule.evaluateMax] at h
        split at h
        · exact absurd h (Evaluation.check_ne_expression _ _ _)
        · cases h
      · simp only [Rule.evaluateBetween] at h
        split at h
        · exact absurd h (Evaluation.check_ne_expression _ _ _)
        · cases h
      · cases h
  · rintro rfl
    rfl

section Rule

variable {vars : Bindings} {rule : Option Rule}

theorem substituteRule_scalar (vars : Bindings) (c : Comparison) (template : String) :
    vars.substituteRule (some ⟨c, .scalar template⟩) =
      (vars.substitute template).map fun text => some ⟨c, .scalar text⟩ := by
  simp only [Bindings.substituteRule, Bindings.substituteOperand]
  cases vars.substitute template <;> rfl

/-- Replacing variables makes an expression of a rule exactly if the rule is one. -/
theorem substituteRule_eq_expression_iff {text : String} :
    vars.substituteRule rule = .ok (some ⟨.expression, .scalar text⟩) ↔
      ∃ template, rule = some ⟨.expression, .scalar template⟩ ∧
        vars.substitute template = .ok text := by
  constructor
  · intro h
    match rule with
    | none => cases h
    | some ⟨comparison, .scalar template⟩ =>
      rw [substituteRule_scalar] at h
      cases htext : vars.substitute template with
      | error e => rw [htext] at h; cases h
      | ok text' =>
        rw [htext] at h
        cases h
        exact ⟨template, rfl, htext⟩
    | some ⟨comparison, .range low high⟩ =>
      simp only [Bindings.substituteRule, Bindings.substituteOperand] at h
      cases hlow : vars.substitute low with
      | error e => rw [hlow] at h; cases h
      | ok low' =>
        cases hhigh : vars.substitute high with
        | error e => rw [hlow, hhigh] at h; cases h
        | ok high' => rw [hlow, hhigh] at h; cases h
  · rintro ⟨template, rfl, htext⟩
    rw [substituteRule_scalar, htext]
    rfl

end Rule

section Step

variable {b : Backends} {s : Session} {node : Node} {vars : Bindings} {step : Step}
  {command output : String}

theorem tests_eq_of_expression {text : String}
    (h : vars.substituteRule step.rule = .ok (some ⟨.expression, .scalar text⟩)) :
    step.tests vars = [.test step.kind text] := by
  obtain ⟨template, hrule, htext⟩ := substituteRule_eq_expression_iff.1 h
  simp [Step.tests, hrule, htext, Except.toOption]

theorem tests_eq_nil
    (h : ∀ text, vars.substituteRule step.rule ≠ .ok (some ⟨.expression, .scalar text⟩)) :
    step.tests vars = [] := by
  rw [Step.tests]
  split
  · rename_i template hrule
    cases htext : vars.substitute template with
    | error e => rfl
    | ok text => exact absurd (substituteRule_eq_expression_iff.2 ⟨template, hrule, htext⟩) (h text)
  · rfl

/-- Only the check of an expression asks for anything. -/
theorem Checked.checkOutput_eq {rule : Option Rule} {m : Option Mismatch}
    (hrule : vars.substituteRule step.rule = .ok rule)
    (h : Checked b node step.kind rule output m) :
    checkOutput b node vars step command output =
      (step.tests vars, step.record vars command output m) := by
  have htests : (∀ text, evaluateRule rule output ≠ .expression text) → step.tests vars = [] :=
    fun hne => tests_eq_nil fun text heq =>
      hne text (evaluateRule_eq_expression_iff.2 (Except.ok.inj (hrule.symm.trans heq)))
  cases h with
  | passed h => rw [htests (by simp [h])]; simp only [checkOutput, hrule, h]
  | failed h => rw [htests (by simp [h])]; simp only [checkOutput, hrule, h]
  | holds h hreply | fails h hreply =>
    rw [tests_eq_of_expression (hrule.trans (by rw [evaluateRule_eq_expression_iff.1 h]))]
    simp only [checkOutput, hrule, h, hreply]

theorem Probed.runStep_eq (h : Probed (s.backends 0) node vars step command output) :
    runStep s node vars step =
      (.probe step.kind command ::
        (checkOutput (s.backends 1) node (step.bindOutput vars output) step command output).1,
        (checkOutput (s.backends 1) node (step.bindOutput vars output) step command output).2) := by
  simp only [runStep, h.hcommand, h.houtput]

theorem Probed.runStep_of_checked (h : Probed (s.backends 0) node vars step command output)
    {rule : Option Rule} {m : Option Mismatch}
    (hrule : (step.bindOutput vars output).substituteRule step.rule = .ok rule)
    (hcheck : Checked (s.backends 1) node step.kind rule output m) :
    runStep s node vars step =
      (step.asked vars command output,
        step.record (step.bindOutput vars output) command output m) := by
  rw [Step.asked, h.runStep_eq, hcheck.checkOutput_eq hrule]

/-! ### The ends of a step -/

/-- A step whose check is decided is carried out, unless its check has failed and the message has a
variable without a value. -/
theorem Probed.goes_of_checked (hprobe : Probed (s.backends 0) node vars step command output)
    {rule : Option Rule} {m : Option Mismatch}
    (hrule : (step.bindOutput vars output).substituteRule step.rule = .ok rule)
    (hcheck : Checked (s.backends 1) node step.kind rule output m) :
    StepGoes s node vars step (runStep s node vars step) := by
  rw [hprobe.runStep_of_checked hrule hcheck]
  cases m with
  | none => exact .recorded (.passed hprobe hrule hcheck)
  | some m =>
    rw [Step.record]
    cases hmessage : step.messageFor (step.bindOutput vars output) m with
    | ok message => exact .recorded (.failed hprobe hrule hcheck hmessage)
    | error e =>
      cases htemplate : step.failureMessage with
      | none => simp [Step.messageFor, htemplate] at hmessage
      | some template =>
        simp only [Step.messageFor, htemplate] at hmessage
        exact .refused (.message hprobe hrule hcheck htemplate hmessage)

theorem Probed.goes (hprobe : Probed (s.backends 0) node vars step command output) :
    StepGoes s node vars step (runStep s node vars step) := by
  cases hrule : (step.bindOutput vars output).substituteRule step.rule with
  | error e =>
    simp only [hprobe.runStep_eq, checkOutput, hrule]
    exact .refused (.rule hprobe hrule)
  | ok rule =>
    cases heval : evaluateRule rule output with
    | passed => exact hprobe.goes_of_checked hrule (.passed heval)
    | failed m => exact hprobe.goes_of_checked hrule (.failed heval)
    | expression text =>
      -- only here the check takes a request of its own
      have hexpression := hrule.trans (by rw [evaluateRule_eq_expression_iff.1 heval])
      cases hreply : ((s.backends 1).test node step.kind text).reply with
      | ok holds =>
        cases holds with
        | true => exact hprobe.goes_of_checked hrule (.holds heval hreply)
        | false => exact hprobe.goes_of_checked hrule (.fails heval hreply)
      | failed e =>
        simp only [hprobe.runStep_eq, checkOutput, hrule, heval, hreply]
        exact .refused (.test hprobe hexpression hreply)
      | panicked text =>
        simp only [hprobe.runStep_eq, checkOutput, hrule, heval, hreply]
        exact .panicked (.test hprobe hexpression hreply)

/-- Every step goes in one of the ways. -/
theorem runStep_goes (s : Session) (node : Node) (vars : Bindings) (step : Step) :
    StepGoes s node vars step (runStep s node vars step) := by
  cases hcommand : vars.substitute step.command with
  | error e =>
    simp only [runStep, hcommand]
    exact .refused (.command hcommand)
  | ok command =>
    cases hreply : ((s.backends 0).probe node step.kind command).reply with
    | ok output => exact Probed.goes ⟨hcommand, hreply⟩
    | failed e =>
      simp only [runStep, hcommand, hreply]
      exact .refused (.probe hcommand hreply)
    | panicked text =>
      simp only [runStep, hcommand, hreply]
      exact .panicked (.probe hcommand hreply)

/-- A step that is carried out and whose rule is an expression has asked whether that holds. -/
theorem Records.tests_eq {r : StepResult} (h : Records s node vars step r) {template : String}
    (hrule : step.rule = some ⟨.expression, .scalar template⟩) :
    ∃ text, (step.bindOutput vars r.output).substitute template = .ok text ∧
      step.tests (step.bindOutput vars r.output) = [.test step.kind text] := by
  obtain ⟨rule, h⟩ :
      ∃ rule, (step.bindOutput vars r.output).substituteRule step.rule = .ok rule := by
    cases h with
    | passed _ hrule _ => exact ⟨_, hrule⟩
    | failed _ hrule _ _ => exact ⟨_, hrule⟩
  rw [hrule, substituteRule_scalar] at h
  cases htext : (step.bindOutput vars r.output).substitute template with
  | error e => rw [htext] at h; cases h
  | ok text => exact ⟨text, rfl, by simp [Step.tests, hrule, htext, Except.toOption]⟩

theorem Records.runStep_eq {r : StepResult} (h : Records s node vars step r) :
    runStep s node vars step =
      (step.asked vars r.command r.output,
        .recorded r (step.bindOutput vars r.output)) := by
  cases h with
  | passed hprobe hrule hcheck =>
    rw [hprobe.runStep_of_checked hrule hcheck]
    rfl
  | failed hprobe hrule hcheck hmessage =>
    rw [hprobe.runStep_of_checked hrule hcheck, Step.record, hmessage]

theorem Refuses.runStep_eq {asked : List Request} {e : NodeError}
    (h : Refuses s node vars step asked e) : runStep s node vars step = (asked, .refused e) := by
  cases h with
  | command h => simp only [runStep, h]
  | probe hcommand h => simp only [runStep, hcommand, h]
  | rule hprobe h => simp only [hprobe.runStep_eq, checkOutput, h]
  | test hprobe hrule h =>
    simp only [hprobe.runStep_eq, checkOutput, hrule, evaluateRule_eq_expression_iff.2 rfl, h]
  | message hprobe hrule hcheck htemplate h =>
    simp only [hprobe.runStep_of_checked hrule hcheck, Step.record, Step.messageFor, htemplate, h]

theorem Panics.runStep_eq {asked : List Request} {text : String}
    (h : Panics s node vars step asked text) :
    runStep s node vars step = (asked, .panicked text) := by
  cases h with
  | probe hcommand h => simp only [runStep, hcommand, h]
  | test hprobe hrule h =>
    simp only [hprobe.runStep_eq, checkOutput, hrule, evaluateRule_eq_expression_iff.2 rfl, h]

/-- A step goes as it is run, and in no other way. -/
theorem stepGoes_iff {x : List Request × StepEnd} :
    StepGoes s node vars step x ↔ runStep s node vars step = x := by
  constructor
  · intro h
    cases h with
    | recorded h => exact h.runStep_eq
    | refused h => exact h.runStep_eq
    | panicked h => exact h.runStep_eq
  · rintro rfl
    exact runStep_goes s node vars step

/-- A step that is carried out has none of the failures. -/
theorem Records.not_refuses {asked : List Request} {r : StepResult} {e : NodeError}
    (h : Records s node vars step r) : ¬Refuses s node vars step asked e := by
  intro h'
  have heq := h.runStep_eq.symm.trans h'.runStep_eq
  simp at heq

end Step

end Inspection
