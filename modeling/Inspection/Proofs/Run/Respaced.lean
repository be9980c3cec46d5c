import Inspection.Proofs.Run.Steps
import Inspection.Proofs.Task.Coherent
import Inspection.Proofs.Template.Spacing

/-!
# Run — Blanks around operands

Blanks around a template stay around what it gives, and a comparison looks at neither those of an
output nor those of an operand.  So blanks around the operands of steps decide nothing: a run with
them and one without ask the same, find the same and end at the same step.  Only the words for what
is wrong may show them.

* `Rule.Respaced`, `Step.Respaced`: the same, the blanks around operands apart.
* `Bindings.substituteRule_respaced`, `evaluateRule_respaced`: such rules have the same variables
  and the same verdicts.
* `runStep_respaced`, `runSteps_respaced`: steps and runs of them go alike.
-/

namespace Inspection

open BindingError (SameVariable)

/-- The operand without the blanks around its texts. -/
def Operand.trimmed : Operand → Operand
  | .scalar text => .scalar (Text.trimmed text)
  | .range low high => .range (Text.trimmed low) (Text.trimmed high)

/-- The operands are the same, the blanks around their texts apart. -/
def Operand.Respaced (operand operand' : Operand) : Prop := operand.trimmed = operand'.trimmed

/-- The rules are the same, the blanks around their operands apart.  An expression is sent to a
backend as it is written, so its blanks stay as they are. -/
inductive Rule.Respaced : Option Rule → Option Rule → Prop where
  | refl (rule : Option Rule) : Respaced rule rule
  | operand {c : Comparison} {operand operand' : Operand} (hc : c ≠ .expression)
      (h : operand.Respaced operand') : Respaced (some ⟨c, operand⟩) (some ⟨c, operand'⟩)

/-- The steps are the same, the blanks around the operands of their rules apart. -/
inductive Step.Respaced (step : Step) : Step → Prop where
  | mk {rule : Option Rule} (h : Rule.Respaced step.rule rule) : Respaced step { step with rule }

/-- Both rules have the same verdict on the output, and no backend is asked for it. -/
def Rule.SameVerdict (output : String) (rule rule' : Option Rule) : Prop :=
  ∃ v, (evaluateRule rule output).verdict? = some v ∧ (evaluateRule rule' output).verdict? = some v

/-- The checks have the same verdict; what they find wrong may be different. -/
inductive Evaluation.Alike : Evaluation → Evaluation → Prop where
  | passed : Alike .passed .passed
  | failed (m m' : Mismatch) : Alike (.failed m) (.failed m')
  | expression (text : String) : Alike (.expression text) (.expression text)

/-- The records are the same, their messages apart. -/
def StepResult.SameFinding (r r' : StepResult) : Prop := { r with message := r'.message } = r'

/-- The steps end alike: they record the same but for the messages, or they fail for the same
reason, which may be that the same variable has no value. -/
inductive StepEnd.Alike : StepEnd → StepEnd → Prop where
  | recorded {r r' : StepResult} (h : r.SameFinding r') (vars : Bindings) :
      Alike (.recorded r vars) (.recorded r' vars)
  | refused (e : NodeError) : Alike (.refused e) (.refused e)
  | unbound {e e' : BindingError} (h : e.SameVariable e') :
      Alike (.refused (.binding e)) (.refused (.binding e'))
  | panicked (text : String) : Alike (.panicked text) (.panicked text)

/-- The outcomes are the same, or the same variable has no value at the same step. -/
inductive NodeOutcome.Alike : NodeOutcome → NodeOutcome → Prop where
  | refl (outcome : NodeOutcome) : Alike outcome outcome
  | unbound (index : Nat) {e e' : BindingError} (h : e.SameVariable e') :
      Alike (.aborted index (NodeError.binding e).message)
        (.aborted index (NodeError.binding e').message)

/-- The runs end alike, with the same records but for the messages. -/
inductive StepsEnd.Alike : StepsEnd → StepsEnd → Prop where
  | reported {results results' : List StepResult} {outcome outcome' : NodeOutcome}
      (hresults : List.Forall₂ StepResult.SameFinding results results')
      (houtcome : outcome.Alike outcome') :
      Alike (.reported results outcome) (.reported results' outcome')
  | panicked (text : String) : Alike (.panicked text) (.panicked text)

/-- Both ask the same, and their ends go together. -/
structure SameRequests {α : Type} (E : α → α → Prop) (x x' : List Request × α) : Prop where
  asked : x.1 = x'.1
  ending : E x.2 x'.2

variable {s t output : String} {c : Comparison} {operand operand' : Operand}
  {rule rule' : Option Rule} {step : Step} {steps steps' : List Step}

/-! ### Templates and rules -/

theorem Operand.respaced_trimmed (operand : Operand) : operand.trimmed.Respaced operand := by
  cases operand with
  | scalar text => exact congrArg Operand.scalar (Text.trimmed_trimmed text)
  | range low high =>
    exact congrArg₂ Operand.range (Text.trimmed_trimmed low) (Text.trimmed_trimmed high)

/-- **Texts that are trimmed to the same** have the same first variable without a value, or give
texts that are trimmed to the same. -/
theorem Bindings.substitute_trimmed (vars : Bindings) (h : Text.trimmed s = Text.trimmed t) :
    Agree SameVariable (fun text text' => Text.trimmed text = Text.trimmed text')
      (vars.substitute s) (vars.substitute t) := by
  have hs := vars.substitute_padded (Text.padded_trimmed s)
  have ht := vars.substitute_padded (h ▸ Text.padded_trimmed t)
  -- both are compared with what the trimmed text gives
  generalize vars.substitute (Text.trimmed s) = x, vars.substitute s = y,
    vars.substitute t = z at hs ht ⊢
  cases hs with
  | error hs =>
    cases ht with
    | error ht => exact .error (hs.symm.trans ht)
  | ok hs =>
    cases ht with
    | ok ht => exact .ok ((Text.trimmed_padded hs).trans (Text.trimmed_padded ht).symm)

theorem Bindings.substituteOperand_respaced (vars : Bindings) (h : operand.Respaced operand') :
    Agree SameVariable Operand.Respaced (vars.substituteOperand operand)
      (vars.substituteOperand operand') := by
  cases operand <;> cases operand' <;>
    simp only [Operand.Respaced, Operand.trimmed, Operand.scalar.injEq, Operand.range.injEq,
      reduceCtorEq] at h
  case scalar.scalar =>
    exact (vars.substitute_trimmed h).map fun _ _ => congrArg Operand.scalar
  case range.range =>
    obtain ⟨hlow, hhigh⟩ := h
    exact (vars.substitute_trimmed hlow).bind fun _ _ hlow =>
      (vars.substitute_trimmed hhigh).bind fun _ _ hhigh =>
        .ok (congrArg₂ Operand.range hlow hhigh)

/-- **Blanks around an operand** change no variable of a rule, and stay blanks around its operand
when the variables are replaced. -/
theorem Bindings.substituteRule_respaced (vars : Bindings) (h : Rule.Respaced rule rule') :
    Agree SameVariable Rule.Respaced (vars.substituteRule rule) (vars.substituteRule rule') := by
  cases h with
  | refl => exact .refl SameVariable.refl Rule.Respaced.refl _
  | operand hc h => exact (vars.substituteOperand_respaced h).map fun _ _ => .operand hc

/-! ### Verdicts -/

theorem Operand.padded_trimmed (operand : Operand) : operand.trimmed.Padded operand := by
  cases operand with
  | scalar text => exact .scalar (Text.padded_trimmed text)
  | range low high => exact .range (Text.padded_trimmed low) (Text.padded_trimmed high)

/-- **Blanks around an operand change no verdict.** -/
theorem Operand.Respaced.sameVerdict (h : operand.Respaced operand') (hc : c ≠ .expression)
    (output : String) : Rule.SameVerdict output (some ⟨c, operand⟩) (some ⟨c, operand'⟩) := by
  have htrimmed (o : Operand) : (evaluateRule (some ⟨c, o.trimmed⟩) output).verdict? =
      (evaluateRule (some ⟨c, o⟩) output).verdict? :=
    Rule.verdict?_padded (.refl _ _) o.padded_trimmed
  have hsome : ∃ v, (evaluateRule (some ⟨c, operand⟩) output).verdict? = some v := by
    cases hrule : evaluateRule (some ⟨c, operand⟩) output with
    | passed => exact ⟨.passed, rfl⟩
    | failed m => exact ⟨.failed, rfl⟩
    | expression text =>
      have hexpression := Option.some.inj (evaluateRule_eq_expression_iff.1 hrule)
      exact absurd (congrArg Rule.comparison hexpression) hc
  obtain ⟨v, hv⟩ := hsome
  exact ⟨v, hv, by rw [← htrimmed operand', ← h, htrimmed operand, hv]⟩

theorem Rule.SameVerdict.alike (h : Rule.SameVerdict output rule rule') :
    (evaluateRule rule output).Alike (evaluateRule rule' output) := by
  obtain ⟨v, hv, hv'⟩ := h
  revert hv hv'
  cases evaluateRule rule output <;> cases evaluateRule rule' output <;> rintro ⟨⟩ ⟨⟩
  case passed.passed => exact .passed
  case failed.failed m m' => exact .failed m m'

theorem evaluateRule_respaced (h : Rule.Respaced rule rule') (output : String) :
    (evaluateRule rule output).Alike (evaluateRule rule' output) := by
  cases h with
  | refl =>
    cases evaluateRule rule output with
    | passed => exact .passed
    | failed m => exact .failed m m
    | expression text => exact .expression text
  | operand hc h => exact (h.sameVerdict hc output).alike

/-! ### Steps -/

theorem StepResult.SameFinding.refl (r : StepResult) : r.SameFinding r := rfl

theorem StepResult.SameFinding.severity_eq {r r' : StepResult} (h : r.SameFinding r') :
    r.severity = r'.severity := by
  rw [← h]

theorem StepEnd.Alike.refl (x : StepEnd) : x.Alike x := by
  cases x with
  | recorded r vars => exact .recorded (.refl r) vars
  | refused e => exact .refused e
  | panicked text => exact .panicked text

/-- Two failed checks of a step are recorded alike, whatever each finds wrong. -/
theorem Step.record_failed_alike (step : Step) (vars : Bindings) (command output : String)
    (m m' : Mismatch) :
    (step.record vars command output (some m)).Alike
      (step.record vars command output (some m')) := by
  cases htemplate : step.failureMessage with
  | none =>
    simp only [Step.record, Step.messageFor, htemplate]
    exact .recorded (by rfl) vars
  | some template =>
    simp only [Step.record, Step.messageFor, htemplate]
    exact .refl _

/-- What a step asks about its output, and what it records. -/
theorem checkOutput_respaced (h : Rule.Respaced step.rule rule) (b : Backends) (node : Node)
    (vars : Bindings) (command output : String) :
    SameRequests StepEnd.Alike (checkOutput b node vars step command output)
      (checkOutput b node vars { step with rule } command output) := by
  have hrules := vars.substituteRule_respaced h
  simp only [checkOutput]
  generalize vars.substituteRule step.rule = x, vars.substituteRule rule = x' at hrules
  cases hrules with
  | error he => exact ⟨rfl, .unbound he⟩
  | @ok r r' hr =>
    have heval := evaluateRule_respaced hr output
    dsimp only
    generalize evaluateRule r output = y, evaluateRule r' output = y' at heval
    cases heval with
    | passed => exact ⟨rfl, .refl _⟩
    | failed m m' => exact ⟨rfl, step.record_failed_alike vars command output m m'⟩
    | expression text => exact ⟨rfl, .refl _⟩

/-- **One step.** -/
theorem runStep_respaced {step' : Step} (h : step.Respaced step') (s : Session) (node : Node)
    (vars : Bindings) :
    SameRequests StepEnd.Alike (runStep s node vars step) (runStep s node vars step') := by
  obtain ⟨hrule⟩ := h
  simp only [runStep]
  cases vars.substitute step.command with
  | error e => exact ⟨rfl, .refused _⟩
  | ok command =>
    dsimp only
    cases ((s.backends 0).probe node step.kind command).reply with
    | failed e => exact ⟨rfl, .refused _⟩
    | panicked text => exact ⟨rfl, .panicked _⟩
    | ok output =>
      have hcheck := checkOutput_respaced hrule (s.backends 1) node (step.bindOutput vars output)
        command output
      exact ⟨congrArg (Request.probe step.kind command :: ·) hcheck.asked, hcheck.ending⟩

/-! ### Runs -/

theorem StepsEnd.Alike.after {x x' : StepsEnd} {r r' : StepResult} (h : x.Alike x')
    (hr : r.SameFinding r') : (x.after r).Alike (x'.after r') := by
  cases h with
  | reported hresults houtcome => exact .reported (.cons hr hresults) houtcome
  | panicked text => exact .panicked text

/-- **Steps one after another**: each finds the variables and backends that it would have found. -/
theorem runSteps_respaced (h : List.Forall₂ Step.Respaced steps steps') (s : Session)
    (node : Node) (vars : Bindings) :
    SameRequests StepsEnd.Alike (runSteps s node vars steps) (runSteps s node vars steps') := by
  induction h generalizing s vars with
  | nil => exact ⟨rfl, .reported .nil (.refl .completed)⟩
  | @cons a a' rest rest' ha _ ih =>
    obtain ⟨hasked, hending⟩ := runStep_respaced ha s node vars
    have hindex : a.index = a'.index := by
      obtain ⟨-⟩ := ha
      rfl
    simp only [runSteps]
    generalize runStep s node vars a = x, runStep s node vars a' = x' at hasked hending ⊢
    obtain ⟨asked, x⟩ := x
    obtain ⟨asked', x'⟩ := x'
    obtain rfl : asked = asked' := hasked
    cases (hending : x.Alike x') with
    | recorded hr vars' =>
      -- equally many requests have been made, so the rest finds the same backends
      have hrest := ih (s.after asked.length) vars'
      exact ⟨congrArg (asked ++ ·) hrest.asked, hrest.ending.after hr⟩
    | refused e => exact ⟨rfl, hindex ▸ .reported .nil (.refl _)⟩
    | unbound he => exact ⟨rfl, hindex ▸ .reported .nil (.unbound _ he)⟩
    | panicked text => exact ⟨rfl, .panicked text⟩

theorem map_severity_eq {results results' : List StepResult}
    (h : List.Forall₂ StepResult.SameFinding results results') :
    results.map (·.severity) = results'.map (·.severity) := by
  induction h with
  | nil => rfl
  | cons hr _ ih => exact congrArg₂ List.cons hr.severity_eq ih

/-- Runs that end alike give a node the same status. -/
theorem StepsEnd.Alike.status_eq {x x' : StepsEnd} (h : x.Alike x') (id : String) :
    (x.report id).status = (x'.report id).status := by
  cases h with
  | reported hresults houtcome =>
    cases houtcome with
    | refl => simp only [StepsEnd.report, NodeReport.status, map_severity_eq hresults]
    | unbound index h => rfl
  | panicked text => rfl

end Inspection
