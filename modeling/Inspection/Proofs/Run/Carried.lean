import Inspection.Proofs.Run.Steps

/-!
# Run — Step after step

A node's steps are carried out in order, each with the variables that the ones before it have left
(`Bindings.afterSteps`) and in the session as it stands after their requests (`Bindings.asked`).
The run ends with the last of them, or with the first that fails, and asks for nothing after that.

* `Carried`: steps are carried out, with what they record.
* `runSteps_goes`: the three ends of a run, from `runStep_goes` by induction on the steps.
* `runNode_ends`: which of them it is, what is reported, and all that is asked.
-/

namespace Inspection

/-- The variables after steps that have recorded their outputs. -/
def Bindings.afterSteps (vars : Bindings) : List Step → List StepResult → Bindings
  | step :: steps, r :: results => (step.bindOutput vars r.output).afterSteps steps results
  | _, _ => vars

/-- All that steps ask which are carried out, one after another. -/
def Bindings.asked (vars : Bindings) : List Step → List StepResult → List Request
  | step :: steps, r :: results =>
    step.asked vars r.command r.output ++ (step.bindOutput vars r.output).asked steps results
  | _, _ => []

/-- The variables that steps leave a node which starts a task with its own. -/
def Node.varsAfter (node : Node) (v : Version) (steps : List Step) (results : List StepResult) :
    Bindings :=
  (Bindings.ofNode node v).afterSteps steps results

/-- The session that they leave. -/
def Session.afterSteps (s : Session) (node : Node) (v : Version) (steps : List Step)
    (results : List StepResult) : Session :=
  s.after ((Bindings.ofNode node v).asked steps results).length

/-- The steps are carried out one after another, and what they record. -/
inductive Carried : Session → Node → Bindings → List Step → List StepResult → Prop where
  | nil (s : Session) (node : Node) (vars : Bindings) : Carried s node vars [] []
  | cons {s : Session} {node : Node} {vars : Bindings} {step : Step} {steps : List Step}
      {r : StepResult} {results : List StepResult} (h : Records s node vars step r)
      (more : Carried (s.after (step.asked vars r.command r.output).length) node
        (step.bindOutput vars r.output) steps results) :
      Carried s node vars (step :: steps) (r :: results)

/-- How steps go: what they ask, and their end. -/
inductive StepsGo (s : Session) (node : Node) (vars : Bindings) (steps : List Step) :
    List Request × StepsEnd → Prop where
  | completed {results : List StepResult} (h : Carried s node vars steps results) :
      StepsGo s node vars steps (vars.asked steps results, .reported results .completed)
  | aborted {done rest : List Step} {step : Step} {results : List StepResult}
      {last : List Request} {e : NodeError} (hsteps : steps = done ++ step :: rest)
      (h : Carried s node vars done results)
      (hlast : Refuses (s.after (vars.asked done results).length) node
        (vars.afterSteps done results) step last e) :
      StepsGo s node vars steps
        (vars.asked done results ++ last, .reported results (.aborted step.index e.message))
  | panicked {done rest : List Step} {step : Step} {results : List StepResult}
      {last : List Request} {text : String} (hsteps : steps = done ++ step :: rest)
      (h : Carried s node vars done results)
      (hlast : Panics (s.after (vars.asked done results).length) node
        (vars.afterSteps done results) step last text) :
      StepsGo s node vars steps (vars.asked done results ++ last, .panicked text)

variable {s : Session} {node : Node} {vars : Bindings} {step : Step} {steps : List Step}
  {r : StepResult} {results : List StepResult}

theorem Session.after_after (s : Session) (m n : Nat) : (s.after m).after n = s.after (m + n) := by
  simp only [Session.after, Nat.add_assoc, Nat.add_comm n m]

/-- The steps after the first ask in the session that the first leaves. -/
theorem after_asked_cons (s : Session) (vars : Bindings) (step : Step) (steps : List Step)
    (r : StepResult) (results : List StepResult) :
    s.after (vars.asked (step :: steps) (r :: results)).length =
      (s.after (step.asked vars r.command r.output).length).after
        ((step.bindOutput vars r.output).asked steps results).length := by
  rw [Bindings.asked, List.length_append, Session.after_after]

theorem Carried.length_eq (h : Carried s node vars steps results) :
    results.length = steps.length := by
  induction h with
  | nil => rfl
  | cons _ _ ih => rw [List.length_cons, List.length_cons, ih]

theorem Carried.map_index (h : Carried s node vars steps results) :
    results.map (·.index) = steps.map (·.index) := by
  induction h with
  | nil => rfl
  | cons h _ ih =>
    rw [List.map_cons, List.map_cons, ih]
    cases h <;> rfl

/-- None of the steps that are carried out fails where it stands. -/
theorem Carried.not_refuses (h : Carried s node vars steps results) {done rest : List Step}
    (hsteps : steps = done ++ step :: rest) (asked : List Request) (e : NodeError) :
    ¬Refuses (s.after (vars.asked done results).length) node (vars.afterSteps done results) step
      asked e := by
  induction h generalizing done with
  | nil => simp at hsteps
  | cons h _ ih =>
    cases done with
    | nil =>
      obtain ⟨rfl, rfl⟩ := List.cons.inj hsteps
      exact h.not_refuses
    | cons first done =>
      obtain ⟨rfl, rfl⟩ := List.cons.inj hsteps
      rw [after_asked_cons]
      exact ih rfl

/-! ### All steps of a node -/

/-- With one more step in front that is carried out. -/
theorem StepsGo.cons {x : List Request × StepsEnd} (h : Records s node vars step r)
    (hrest : StepsGo (s.after (step.asked vars r.command r.output).length) node
      (step.bindOutput vars r.output) steps x) :
    StepsGo s node vars (step :: steps)
      (step.asked vars r.command r.output ++ x.1, x.2.after r) := by
  cases hrest with
  | completed hmore => exact .completed (.cons h hmore)
  | aborted hsteps hdone hlast =>
    -- the requests of the step in front come before all that the session has seen
    rw [← after_asked_cons] at hlast
    rw [← List.append_assoc]
    exact .aborted (congrArg (step :: ·) hsteps) (hdone.cons h) hlast
  | panicked hsteps hdone hlast =>
    rw [← after_asked_cons] at hlast
    rw [← List.append_assoc]
    exact .panicked (congrArg (step :: ·) hsteps) (hdone.cons h) hlast

theorem runSteps_goes (s : Session) (node : Node) (vars : Bindings) (steps : List Step) :
    StepsGo s node vars steps (runSteps s node vars steps) := by
  induction steps generalizing s vars with
  | nil => exact .completed (.nil s node vars)
  | cons step rest ih =>
    obtain ⟨x, hx⟩ : ∃ x, runStep s node vars step = x := ⟨_, rfl⟩
    cases stepGoes_iff.2 hx with
    | recorded h =>
      simp only [runSteps, hx]
      exact .cons h (ih _ _)
    | refused h =>
      simp only [runSteps, hx]
      exact .aborted (List.nil_append _).symm (.nil s node vars) h
    | panicked h =>
      simp only [runSteps, hx]
      exact .panicked (List.nil_append _).symm (.nil s node vars) h

theorem runNode_goes (s : Session) (node : Node) (steps : List Step) (v : Version) :
    StepsGo s node (Bindings.ofNode node v) steps
      ((s.runNode node steps v).requests, (s.runNode node steps v).ending) :=
  runSteps_goes s node _ steps

/-- What a node reports has been recorded by the first of its steps. -/
theorem exists_carried (s : Session) (node : Node) (steps : List Step) (v : Version) :
    ∃ done rest, steps = done ++ rest ∧
      Carried s node (Bindings.ofNode node v) done
        ((s.runNode node steps v).ending.report node.id).steps := by
  have hgo := runNode_goes s node steps v
  generalize s.runNode node steps v = run at hgo ⊢
  obtain ⟨requests, ending⟩ := run
  cases hgo with
  | completed h => exact ⟨steps, [], (List.append_nil _).symm, h⟩
  | aborted hsteps h _ => exact ⟨_, _, hsteps, h⟩
  | panicked _ _ _ => exact ⟨[], steps, rfl, .nil _ _ _⟩

/-- A run that completes has carried out all steps. -/
theorem carried_of_completed {v : Version}
    (h : (s.runNode node steps v).ending = .reported results .completed) :
    Carried s node (Bindings.ofNode node v) steps results := by
  have hgo := runNode_goes s node steps v
  rw [h] at hgo
  generalize (s.runNode node steps v).requests = requests at hgo
  cases hgo with
  | completed h => exact h

/-- **A node's run ends with its last step or with the first that fails.**  It completes with one
record for each step, in order, or is aborted at a step that fails, where no step before that does,
with the records of those before.  A failed check is a record like any other.  Each step that is
recorded has asked for the output of its command and then, exactly if its rule is an expression,
whether that holds; the step that fails has asked as much of this as it got to, and no later one has
asked for anything.  Only where a backend panics there is no answer, and nothing after it. -/
theorem runNode_ends (s : Session) (node : Node) (steps : List Step) (v : Version) :
    let run := s.runNode node steps v
    let vars := Bindings.ofNode node v
    (∀ s' vars' step r, Records s' node vars' step r → ∀ template,
      step.rule = some ⟨.expression, .scalar template⟩ →
        ∃ text, (step.bindOutput vars' r.output).substitute template = .ok text ∧
          step.tests (step.bindOutput vars' r.output) = [.test step.kind text]) ∧
    ((∃ results, run.ending = .reported results .completed ∧
      Carried s node vars steps results ∧
      results.map (·.index) = steps.map (·.index) ∧
      run.requests = vars.asked steps results) ∨
    (∃ done step rest results last e, steps = done ++ step :: rest ∧
      run.ending = .reported results (.aborted step.index e.message) ∧
      Carried s node vars done results ∧
      results.map (·.index) = done.map (·.index) ∧
      Refuses (s.after (vars.asked done results).length) node (vars.afterSteps done results) step
        last e ∧
      (∀ before step' after asked e', done = before ++ step' :: after →
        ¬Refuses (s.after (vars.asked before results).length) node
          (vars.afterSteps before results) step' asked e') ∧
      run.requests = vars.asked done results ++ last) ∨
    ∃ done step rest results last text, steps = done ++ step :: rest ∧
      run.ending = .panicked text ∧ Carried s node vars done results ∧
      Panics (s.after (vars.asked done results).length) node (vars.afterSteps done results) step
        last text ∧
      run.requests = vars.asked done results ++ last) := by
  intro run vars
  refine ⟨fun _ _ _ _ h _ hrule => h.tests_eq hrule, ?_⟩
  have hgo : StepsGo s node vars steps (run.requests, run.ending) := runNode_goes s node steps v
  obtain ⟨requests, ending⟩ := run
  cases hgo with
  | completed h => exact .inl ⟨_, rfl, h, h.map_index, rfl⟩
  | aborted hsteps h hlast =>
    exact .inr (.inl ⟨_, _, _, _, _, _, hsteps, rfl, h, h.map_index, hlast,
      fun _ _ _ asked e' hdone => h.not_refuses hdone asked e', rfl⟩)
  | panicked hsteps h hlast => exact .inr (.inr ⟨_, _, _, _, _, _, hsteps, rfl, h, hlast, rfl⟩)

end Inspection
