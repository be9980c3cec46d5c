import Inspection.Proofs.Run.Outcome

/-!
# Run — What reporting has no say in

The report type of a step is looked at when its check has been decided, and its message when the
check has failed.  So neither changes what is carried out: with other report types a node's run asks
the same and records the same, but for how the records count; and the message of a check that passes
may be any.

* `SameButType`, `SameButMessage`: steps that differ in nothing else.
* `PassesAt`: the steps get to the one in a place, and its check passes.
* `runSteps_of_sameButType`, `runSteps_of_sameButMessage`: a run from the other.
* `runNode_reporting`: both for a node's run.
-/

namespace Inspection

/-- The report types from the least serious on. -/
def ReportType.rank : ReportType → Nat
  | .execution => 0
  | .warning => 1
  | .critical => 2

/-- The steps are the same, the report types apart. -/
def SameButType (a a' : Step) : Prop := { a with reportType := a'.reportType } = a'

/-- The steps are the same, the messages for a failed check apart. -/
def SameButMessage (a a' : Step) : Prop := { a with failureMessage := a'.failureMessage } = a'

/-- The steps get to the one in a place, and its check passes. -/
inductive PassesAt : Session → Node → Bindings → List Step → Nat → Prop where
  | here {s : Session} {node : Node} {vars : Bindings} {step : Step} {rest : List Step}
      {r : StepResult} (h : Records s node vars step r) (hpassed : r.verdict = .passed) :
      PassesAt s node vars (step :: rest) 0
  | later {s : Session} {node : Node} {vars : Bindings} {step : Step} {rest : List Step}
      {r : StepResult} {k : Nat} (h : Records s node vars step r)
      (more : PassesAt (s.after (step.asked vars r.command r.output).length) node
        (step.bindOutput vars r.output) rest k) : PassesAt s node vars (step :: rest) (k + 1)

/-- The record of a step that had another report type. -/
def StepResult.rated (t : ReportType) (r : StepResult) : StepResult :=
  { r with severity := r.verdict.severity t }

/-- The end of steps that had other report types. -/
def StepsEnd.rated (steps : List Step) : StepsEnd → StepsEnd
  | .reported results outcome =>
    .reported (List.zipWith (fun step r => r.rated step.reportType) steps results) outcome
  | .panicked text => .panicked text

variable {s : Session} {node : Node} {vars : Bindings} {step : Step} {steps steps' : List Step}
  {r r' : StepResult} {results : List StepResult} {asked : List Request}

/-! ### The report type of a step -/

section ReportType

variable (t : ReportType)

theorem Records.rated (h : Records s node vars step r) :
    Records s node vars { step with reportType := t } (r.rated t) := by
  cases h with
  | passed hprobe hrule hcheck => exact .passed ⟨hprobe.hcommand, hprobe.houtput⟩ hrule hcheck
  | failed hprobe hrule hcheck hmessage =>
    exact .failed ⟨hprobe.hcommand, hprobe.houtput⟩ hrule hcheck hmessage

theorem Refuses.rated {e : NodeError} (h : Refuses s node vars step asked e) :
    Refuses s node vars { step with reportType := t } asked e := by
  cases h with
  | command h => exact .command h
  | probe hcommand h => exact .probe hcommand h
  | rule hprobe h => exact .rule ⟨hprobe.hcommand, hprobe.houtput⟩ h
  | test hprobe hrule h => exact .test ⟨hprobe.hcommand, hprobe.houtput⟩ hrule h
  | message hprobe hrule hcheck htemplate h =>
    exact .message ⟨hprobe.hcommand, hprobe.houtput⟩ hrule hcheck htemplate h

theorem Panics.rated {text : String} (h : Panics s node vars step asked text) :
    Panics s node vars { step with reportType := t } asked text := by
  cases h with
  | probe hcommand h => exact .probe hcommand h
  | test hprobe hrule h => exact .test ⟨hprobe.hcommand, hprobe.houtput⟩ hrule h

end ReportType

theorem rated_after (x : StepsEnd) (step : Step) (steps : List Step) (r : StepResult) :
    (x.rated steps).after (r.rated step.reportType) = (x.after r).rated (step :: steps) := by
  cases x <;> rfl

/-- Other report types change how records count, and nothing else. -/
theorem runSteps_of_sameButType (h : List.Forall₂ SameButType steps steps') (s : Session)
    (node : Node) (vars : Bindings) :
    runSteps s node vars steps' =
      ((runSteps s node vars steps).1, (runSteps s node vars steps).2.rated steps') := by
  induction h generalizing s vars with
  | nil => rfl
  | @cons a a' rest rest' ha _ ih =>
    obtain ⟨x, hx⟩ : ∃ x, runStep s node vars a = x := ⟨_, rfl⟩
    cases stepGoes_iff.2 hx with
    | @recorded r hr =>
      have hr' : runStep s node vars a' = (a.asked vars r.command r.output,
          .recorded (r.rated a'.reportType) (a.bindOutput vars r.output)) := by
        rw [← ha]
        exact (hr.rated a'.reportType).runStep_eq
      simp only [runSteps, hx, hr', ih, rated_after]
    | @refused asked e hr =>
      have hr' : runStep s node vars a' = (asked, .refused e) :=
        ha ▸ (hr.rated a'.reportType).runStep_eq
      have hindex : a'.index = a.index := ha ▸ rfl
      simp only [runSteps, hx, hr', hindex]
      rfl
    | @panicked asked text hr =>
      have hr' : runStep s node vars a' = (asked, .panicked text) :=
        ha ▸ (hr.rated a'.reportType).runStep_eq
      simp only [runSteps, hx, hr']
      rfl

/-- The report of steps that had other report types. -/
theorem report_rated (x : StepsEnd) (steps : List Step) (id : String) :
    (x.rated steps).report id =
      { x.report id with
        steps := List.zipWith (fun a r => r.rated a.reportType) steps (x.report id).steps } := by
  cases x with
  | reported results outcome => rfl
  | panicked text => simp only [StepsEnd.rated, StepsEnd.report, List.zipWith_nil_right]

/-! ### Severities and the status -/

theorem rank_severity_le {t t' : ReportType} (h : t.rank ≤ t'.rank) (v : Verdict) :
    (v.severity t).rank ≤ (v.severity t').rank := by
  revert h
  cases v <;> cases t <;> cases t' <;> decide

theorem rank_worst_le {l l' : List Severity}
    (h : List.Forall₂ (fun a a' => a.rank ≤ a'.rank) l l') :
    (Severity.worst l).rank ≤ (Severity.worst l').rank := by
  induction h with
  | nil => exact Nat.le_refl _
  | cons h _ ih =>
    rw [Severity.worst, Severity.worst, Severity.rank_worse, Severity.rank_worse]
    omega

/-- More serious records make a more serious node. -/
theorem rank_status_le {x x' : NodeReport} (houtcome : x'.outcome = x.outcome)
    (h : List.Forall₂ (fun r r' => r.severity.rank ≤ r'.severity.rank) x.steps x'.steps) :
    x.status.rank ≤ x'.status.rank := by
  rw [NodeReport.status, NodeReport.status, houtcome]
  cases x.outcome with
  | aborted index reason => exact Nat.le_refl _
  | completed =>
    exact rank_worst_le (List.forall₂_map_left_iff.2 (List.forall₂_map_right_iff.2 h))

/-- What holds of each record and the one it is with the other report type, holds of all; the steps
after those that are recorded make no difference. -/
theorem forall₂_rated {R : Step → Step → Prop} {Q : StepResult → StepResult → Prop}
    (hQ : ∀ a a' r, r.severity = r.verdict.severity a.reportType → R a a' →
      Q r (r.rated a'.reportType)) {done rest : List Step}
    (hdone : List.Forall₂ (fun a r => r.severity = r.verdict.severity a.reportType) done results)
    (h : List.Forall₂ R (done ++ rest) steps') :
    List.Forall₂ Q results (List.zipWith (fun a r => r.rated a.reportType) steps' results) := by
  induction hdone generalizing steps' with
  | nil => rw [List.zipWith_nil_right]; exact .nil
  | cons hr _ ih =>
    cases h with
    | cons ha h => exact .cons (hQ _ _ _ hr ha) (ih h)

/-! ### The message of a check that passes -/

/-- What passes after the first step passes in what that step leaves. -/
theorem PassesAt.tail {rest : List Step} {k : Nat} {vars' : Bindings}
    (h : PassesAt s node vars (step :: rest) (k + 1))
    (hstep : runStep s node vars step = (asked, .recorded r vars')) :
    PassesAt (s.after asked.length) node vars' rest k := by
  cases h with
  | later hr more =>
    have heq := hr.runStep_eq.symm.trans hstep
    simp only [Prod.mk.injEq, StepEnd.recorded.injEq] at heq
    obtain ⟨rfl, -, rfl⟩ := heq
    exact more

theorem Records.of_passed (h : Records s node vars step r) (hpassed : r.verdict = .passed)
    (message : Option String) : Records s node vars { step with failureMessage := message } r := by
  cases h with
  | passed hprobe hrule hcheck => exact .passed ⟨hprobe.hcommand, hprobe.houtput⟩ hrule hcheck
  | failed _ _ _ _ => cases hpassed

theorem runStep_of_sameButMessage {a a' : Step} (ha : SameButMessage a a')
    (h : Records s node vars a r) (hpassed : r.verdict = .passed) :
    runStep s node vars a' = runStep s node vars a := by
  have h' := (h.of_passed hpassed a'.failureMessage).runStep_eq
  rw [ha] at h'
  rw [h', h.runStep_eq, ← ha]
  rfl

theorem SameButMessage.symm {a a' : Step} (h : SameButMessage a a') : SameButMessage a' a := by
  rw [SameButMessage, ← h]

/-- The messages of checks that pass in one of two runs make no difference to either. -/
theorem runSteps_of_sameButMessage (h : List.Forall₂ SameButMessage steps steps') (s : Session)
    (node : Node) (vars : Bindings)
    (hpasses : ∀ k : Nat, steps[k]? ≠ steps'[k]? →
      PassesAt s node vars steps k ∨ PassesAt s node vars steps' k) :
    runSteps s node vars steps' = runSteps s node vars steps := by
  induction h generalizing s vars with
  | nil => rfl
  | @cons a a' rest rest' ha _ ih =>
    have hfirst : runStep s node vars a' = runStep s node vars a := by
      by_cases heq : a = a'
      · rw [heq]
      · obtain h | h := hpasses 0 (by simpa using heq)
        · cases h with
          | here hr hpassed => exact runStep_of_sameButMessage ha hr hpassed
        · cases h with
          | here hr hpassed => exact (runStep_of_sameButMessage ha.symm hr hpassed).symm
    obtain ⟨x, hx⟩ : ∃ x, runStep s node vars a = x := ⟨_, rfl⟩
    cases stepGoes_iff.2 hx with
    | @recorded r hr =>
      have hrest := ih (s.after (a.asked vars r.command r.output).length)
        (a.bindOutput vars r.output) fun k hk =>
          (hpasses (k + 1) (by simpa using hk)).imp (·.tail hx) (·.tail (hfirst.trans hx))
      simp only [runSteps, hfirst, hx, hrest]
    | refused hr =>
      have hindex : a'.index = a.index := ha ▸ rfl
      simp only [runSteps, hfirst, hx, hindex]
    | panicked hr => simp only [runSteps, hfirst, hx]

/-! ### A node's run -/

/-- A record that has passed is that of a check that the steps get to. -/
theorem passesAt_of_report {v : Version} {k : Nat}
    (hr : ((s.runNode node steps v).ending.report node.id).steps[k]? = some r)
    (hpassed : r.verdict = .passed) : PassesAt s node (Bindings.ofNode node v) steps k := by
  obtain ⟨done, rest, rfl, h⟩ := exists_carried s node steps v
  generalize ((s.runNode node (done ++ rest) v).ending.report node.id).steps = results at h hr
  generalize Bindings.ofNode node v = vars at h
  induction h generalizing k with
  | nil => cases hr
  | cons hfirst _ ih =>
    cases k with
    | zero =>
      obtain rfl := Option.some.inj hr
      exact .here hfirst hpassed
    | succ k => exact .later hfirst (ih hr)

/-- **Reporting has no say in what is carried out.**  Steps that differ from others in their report
types only ask the same and give the same report, but for the severities of the records and the
status; and those that raise report types never lower a severity or the status.  Steps that differ
in the messages only of checks that pass in one of the two runs ask the same and give the very same
report. -/
theorem runNode_reporting (s : Session) (node : Node) (v : Version) (steps steps' : List Step) :
    let run := s.runNode node steps v
    let run' := s.runNode node steps' v
    let report := run.ending.report node.id
    let report' := run'.ending.report node.id
    (List.Forall₂ SameButType steps steps' →
      run'.requests = run.requests ∧ (∀ b, run'.calls b node = run.calls b node) ∧
      report'.node = report.node ∧ report'.outcome = report.outcome ∧
      List.Forall₂ (fun r r' => { r' with severity := r.severity } = r) report.steps report'.steps ∧
      (List.Forall₂ (fun a a' => a.reportType.rank ≤ a'.reportType.rank) steps steps' →
        List.Forall₂ (fun r r' => r.severity.rank ≤ r'.severity.rank) report.steps report'.steps ∧
        report.status.rank ≤ report'.status.rank)) ∧
    (List.Forall₂ SameButMessage steps steps' →
      (∀ k : Nat, steps[k]? ≠ steps'[k]? → PassesAt s node (Bindings.ofNode node v) steps k ∨
        PassesAt s node (Bindings.ofNode node v) steps' k) →
      run' = run ∧ (∀ b, run'.calls b node = run.calls b node) ∧ report' = report) := by
  intro run run' report report'
  constructor
  · intro h
    have hruns := runSteps_of_sameButType h s node (Bindings.ofNode node v)
    have hrequests : run'.requests = run.requests := by
      simp only [run, run', Session.runNode, hruns]
    have hreport : report' = { report with
        steps := List.zipWith (fun a r => r.rated a.reportType) steps' report.steps } := by
      simp only [report, report', run, run', Session.runNode, hruns, report_rated]
    obtain ⟨done, rest, hsteps, hdone⟩ := exists_carried s node steps v
    rw [hreport]
    refine ⟨hrequests, fun b => ?_, rfl, rfl, ?_, fun hrank => ?_⟩
    · rw [NodeRun.calls, hrequests, NodeRun.calls]
    · exact forall₂_rated (R := SameButType) (fun _ _ _ _ _ => rfl) hdone.severity_eq (hsteps ▸ h)
    · have hraised : List.Forall₂ (fun r r' => r.severity.rank ≤ r'.severity.rank) report.steps
          (List.zipWith (fun a r => r.rated a.reportType) steps' report.steps) :=
        forall₂_rated (fun _ _ r hr hle => hr ▸ rank_severity_le hle r.verdict) hdone.severity_eq
          (hsteps ▸ hrank)
      exact ⟨hraised, rank_status_le rfl hraised⟩
  · intro h hpasses
    have hruns := runSteps_of_sameButMessage h s node (Bindings.ofNode node v) hpasses
    have hrun : run' = run := by
      simp only [run, run', Session.runNode, hruns]
    exact ⟨hrun, fun b => hrun ▸ rfl, by simp only [report, report', hrun]⟩

/-- A check that fails, with a report type that counts; and a check that passes, with a message that
has a variable without a value. -/
theorem runNode_reporting_sample :
    let node : Node := { id := "c", host := "c" }
    let run := fun steps => (Session.steady Sample.backends).runNode node steps .latest
    let passing : Step := { index := 1, kind := .ssh, command := "uptime" }
    let named : Step := { passing with failureMessage := some "#\x7bx\x7d" }
    List.Forall₂ SameButType [Sample.check 1 .execution] [Sample.check 1 .critical] ∧
    (run [Sample.check 1 .critical]).requests = (run [Sample.check 1 .execution]).requests ∧
    ((run [Sample.check 1 .execution]).ending.report "c").status = .pass ∧
    ((run [Sample.check 1 .critical]).ending.report "c").status = .critical ∧
    List.Forall₂ SameButMessage [passing] [named] ∧
    PassesAt (.steady Sample.backends) node (Bindings.ofNode node .latest) [passing] 0 ∧
    run [named] = run [passing] := by
  intro node run passing named
  have htype : List.Forall₂ SameButType [Sample.check 1 .execution] [Sample.check 1 .critical] :=
    .cons rfl .nil
  have hmessage : List.Forall₂ SameButMessage [passing] [named] := .cons rfl .nil
  have hpasses : PassesAt (.steady Sample.backends) node (Bindings.ofNode node .latest)
      [passing] 0 :=
    passesAt_of_report
      (r := { index := 1, kind := .ssh, command := "uptime", output := "uptime"
              verdict := .passed, severity := .pass }) (by decide_cbv) rfl
  have hreporting := runNode_reporting (.steady Sample.backends) node .latest
  refine ⟨htype, ((hreporting _ _).1 htype).1, by decide_cbv, by decide_cbv, hmessage, hpasses, ?_⟩
  refine ((hreporting _ _).2 hmessage fun k hk => ?_).1
  cases k with
  | zero => exact .inl hpasses
  | succ k => exact absurd rfl hk

end Inspection
