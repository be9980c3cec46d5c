import Inspection.Proofs.Keyed
import Inspection.Proofs.Run.Variables
import Inspection.Proofs.Task.Defined
import Inspection.Proofs.Template.Reference

/-!
# Run — References to the outputs of steps

A step can give its output a name.  Where that name can stand in a placeholder, every reference to
it in the templates that are looked at from then on gives way to the output that was bound to it
last, and so no command that is sent has it.  But a text that defines a task may give an output any
name.  One that no placeholder can have is bound in vain: a reference to it is sent as it stands.

* `Reaches`: a run that has come to a step.
* `Asks`: what a step asks for, with its variables replaced.
* `SeesOutputs`, `BoundInVain`: what a step sees of names for outputs, and which nothing sees.
* `Task.ofText_references`: what the references in the steps of a task give way to.
-/

namespace Inspection

open Template (isName reference)

/-- What a step binds to its output. -/
def Step.outputs (step : Step) (output : String) : List (String × String) :=
  (step.setValue.map (·, output)).toList

/-- What steps bind to their outputs, in order. -/
def outputsOf : List Step → List StepResult → List (String × String)
  | step :: steps, r :: results => step.outputs r.output ++ outputsOf steps results
  | _, _ => []

/-- The run has come to a step: all before it are carried out. -/
structure Reaches (s : Session) (node : Node) (v : Version) (steps done : List Step) (step : Step)
    (results : List StepResult) : Prop where
  exists_rest : ∃ rest, steps = done ++ step :: rest
  carried : Carried s node (Bindings.ofNode node v) done results

/-- What a step asks for: its command, and its expression once it has its output. -/
inductive Asks (s : Session) (node : Node) (vars : Bindings) (step : Step) : Request → Prop where
  | command {command : String} (h : vars.substitute step.command = .ok command) :
      Asks s node vars step (.probe step.kind command)
  | expression {command output template text : String}
      (hprobe : Probed (s.backends 0) node vars step command output)
      (hrule : step.rule = some ⟨.expression, .scalar template⟩)
      (h : (step.bindOutput vars output).substitute template = .ok text) :
      Asks s node vars step (.test step.kind text)

/-- A run asks for it at a step that it has come to. -/
def AskedByStep (s : Session) (node : Node) (v : Version) (steps : List Step) (request : Request) :
    Prop :=
  ∃ done step results, Reaches s node v steps done step results ∧
    Asks (s.afterSteps node v done results) node (node.varsAfter v done results) step request

/-- Where the steps have bound a name that can stand in a placeholder, a reference to it in the
templates gives way to the output that was bound to it last. -/
def Bindings.ReplacesOutputs (vars : Bindings) (steps : List Step)
    (outputs : List (String × String)) (templates : List String) : Prop :=
  ∀ d ∈ steps, ∀ bound, d.setValue = some bound → isName bound.toList = true →
    ∃ value, IsLastOf outputs bound value ∧
      ∀ template ∈ templates, vars.Replaces template bound value

/-- What a step sees of the outputs that the steps before it have bound, and of its own. -/
structure SeesOutputs (s : Session) (node : Node) (vars : Bindings) (done : List Step)
    (outputs : List (String × String)) (step : Step) : Prop where
  command : vars.ReplacesOutputs done outputs [step.command]
  templates : ∀ command output, Probed (s.backends 0) node vars step command output →
    (step.bindOutput vars output).ReplacesOutputs done (outputs ++ step.outputs output)
      step.checkTemplates
  own : ∀ command output, Probed (s.backends 0) node vars step command output →
    ∀ bound, step.setValue = some bound → isName bound.toList = true →
      ∀ template ∈ step.checkTemplates,
        (step.bindOutput vars output).Replaces template bound output

/-- A name is bound in vain: no template is any different for it, and a reference to it, where it is
not part of another, stays as it is. -/
structure BoundInVain (bound : String) : Prop where
  unseen : ∀ (vars : Bindings) value template,
    (vars.bind bound value).substitute template = vars.substitute template
  stays : '#' ∉ bound.toList → '\x7d' ∉ bound.toList →
    ∀ (vars : Bindings) template, vars.Replaces template bound (reference bound)

variable {s : Session} {node : Node} {vars : Bindings} {step d : Step} {steps : List Step}
  {results : List StepResult} {bound value template : String} {v : Version} {request : Request}

/-! ### What is asked for -/

theorem Probed.asks {command output : String}
    (h : Probed (s.backends 0) node vars step command output)
    (hmem : request ∈ step.asked vars command output) : Asks s node vars step request := by
  obtain rfl | hmem := List.mem_cons.1 hmem
  · exact .command h.hcommand
  · rw [Step.tests] at hmem
    split at hmem
    · rename_i template hrule
      rw [Option.mem_toList, Option.map_eq_some_iff] at hmem
      obtain ⟨text, htext, rfl⟩ := hmem
      refine .expression h hrule ?_
      cases hsub : (step.bindOutput vars output).substitute template with
      | error e => rw [hsub] at htext; cases htext
      | ok text' =>
        rw [hsub] at htext
        rw [Option.some.inj htext]
    · cases hmem

theorem Probed.asks_expression {command output text : String}
    (h : Probed (s.backends 0) node vars step command output)
    (hrule : (step.bindOutput vars output).substituteRule step.rule =
      .ok (some ⟨.expression, .scalar text⟩)) : Asks s node vars step (.test step.kind text) := by
  obtain ⟨template, hrule, htext⟩ := substituteRule_eq_expression_iff.1 hrule
  exact .expression h hrule htext

theorem Records.asks {r : StepResult} (h : Records s node vars step r)
    (hmem : request ∈ step.asked vars r.command r.output) : Asks s node vars step request := by
  cases h with
  | passed hprobe _ _ => exact hprobe.asks hmem
  | failed hprobe _ _ _ => exact hprobe.asks hmem

theorem Refuses.asks {asked : List Request} {e : NodeError} (h : Refuses s node vars step asked e)
    (hmem : request ∈ asked) : Asks s node vars step request := by
  cases h with
  | command h => cases hmem
  | probe hcommand h =>
    obtain rfl := List.mem_singleton.1 hmem
    exact .command hcommand
  | rule hprobe h =>
    obtain rfl := List.mem_singleton.1 hmem
    exact .command hprobe.hcommand
  | test hprobe hrule h =>
    obtain rfl | rfl := by simpa using hmem
    · exact .command hprobe.hcommand
    · exact hprobe.asks_expression hrule
  | message hprobe hrule hcheck htemplate h => exact hprobe.asks hmem

theorem Panics.asks {asked : List Request} {text : String} (h : Panics s node vars step asked text)
    (hmem : request ∈ asked) : Asks s node vars step request := by
  cases h with
  | probe hcommand h =>
    obtain rfl := List.mem_singleton.1 hmem
    exact .command hcommand
  | test hprobe hrule h =>
    obtain rfl | rfl := by simpa using hmem
    · exact .command hprobe.hcommand
    · exact hprobe.asks_expression hrule

theorem Carried.exists_asks (h : Carried s node vars steps results)
    (hmem : request ∈ vars.asked steps results) :
    ∃ done step rest recorded, steps = done ++ step :: rest ∧ Carried s node vars done recorded ∧
      Asks (s.after (vars.asked done recorded).length) node (vars.afterSteps done recorded) step
        request := by
  induction h with
  | nil => cases hmem
  | @cons s node vars step steps r results h more ih =>
    obtain hmem | hmem := List.mem_append.1 hmem
    · exact ⟨[], step, steps, [], rfl, .nil .., h.asks hmem⟩
    · obtain ⟨done, later, rest, recorded, rfl, hdone, hasks⟩ := ih hmem
      refine ⟨step :: done, later, rest, r :: recorded, rfl, .cons h hdone, ?_⟩
      rw [after_asked_cons]
      exact hasks

/-- **Every request of a run is one of a step that the run has come to.** -/
theorem exists_reaches_asks (s : Session) (node : Node) (steps : List Step) (v : Version)
    (hmem : request ∈ (s.runNode node steps v).requests) : AskedByStep s node v steps request := by
  -- what the steps carried out so far asked for, whether or not another one ended the run
  have hcarried {done : List Step} {results : List StepResult} (rest : List Step)
      (hsteps : steps = done ++ rest) (h : Carried s node (.ofNode node v) done results)
      (hmem : request ∈ (Bindings.ofNode node v).asked done results) :
      AskedByStep s node v steps request := by
    obtain ⟨done', step, rest', results', rfl, hdone, hasks⟩ := h.exists_asks hmem
    exact ⟨done', step, results', ⟨⟨rest' ++ rest, by simp [hsteps]⟩, hdone⟩, hasks⟩
  have hgo := runNode_goes s node steps v
  generalize s.runNode node steps v = run at hgo hmem
  obtain ⟨requests, ending⟩ := run
  cases hgo with
  | completed h => exact hcarried [] (List.append_nil _).symm h hmem
  | aborted hsteps h hlast =>
    obtain hmem | hmem := List.mem_append.1 hmem
    · exact hcarried _ hsteps h hmem
    · exact ⟨_, _, _, ⟨⟨_, hsteps⟩, h⟩, hlast.asks hmem⟩
  | panicked hsteps h hlast =>
    obtain hmem | hmem := List.mem_append.1 hmem
    · exact hcarried _ hsteps h hmem
    · exact ⟨_, _, _, ⟨⟨_, hsteps⟩, h⟩, hlast.asks hmem⟩

/-! ### What is bound -/

theorem bindAll_append (vars : Bindings) (l m : List (String × String)) :
    vars.bindAll (l ++ m) = (vars.bindAll l).bindAll m := List.foldl_append

theorem bindOutput_eq_bindAll (step : Step) (vars : Bindings) (output : String) :
    step.bindOutput vars output = vars.bindAll (step.outputs output) := by
  rw [Step.bindOutput, Step.outputs]
  cases step.setValue <;> rfl

theorem afterSteps_eq_bindAll (vars : Bindings) (steps : List Step) (results : List StepResult) :
    vars.afterSteps steps results = vars.bindAll (outputsOf steps results) := by
  induction steps generalizing vars results with
  | nil => rfl
  | cons step steps ih =>
    cases results with
    | nil => rfl
    | cons r results =>
      rw [Bindings.afterSteps, ih, bindOutput_eq_bindAll, outputsOf, bindAll_append]

theorem get?_bindAll_of_isLastOf {more : List (String × String)} (h : IsLastOf more bound value)
    (vars : Bindings) : (vars.bindAll more).get? bound = some value := by
  rw [get?_bindAll, lastValue, isLastOf_iff_lookup_reverse.1 h, Option.some_or]

theorem mem_outputs (h : step.setValue = some bound) (output : String) :
    (bound, output) ∈ step.outputs output := by
  simp [Step.outputs, h]

theorem exists_mem_outputsOf (hlength : results.length = steps.length) (hd : d ∈ steps)
    (h : d.setValue = some bound) : ∃ output, (bound, output) ∈ outputsOf steps results := by
  induction steps generalizing results with
  | nil => cases hd
  | cons step steps ih =>
    obtain ⟨r, results, rfl⟩ := List.exists_cons_of_length_eq_add_one hlength
    obtain rfl | hd := List.mem_cons.1 hd
    · exact ⟨r.output, List.mem_append_left _ (mem_outputs h r.output)⟩
    · obtain ⟨output, hmem⟩ := ih (Nat.succ.inj hlength) hd
      exact ⟨output, List.mem_append_right _ hmem⟩

/-- A name that a text gives an output is trimmed. -/
theorem Task.ofText_setValue {name text : String} {t : Task} (h : Task.ofText name text = .ok t)
    {variant : Variant} (hvariant : variant ∈ t.variants) (hstep : step ∈ variant.steps)
    (hbound : step.setValue = some bound) : Text.trimmed bound = bound := by
  obtain ⟨form, -, hresolve⟩ := bind_eq_ok h
  obtain ⟨f, -, hf⟩ := exists_of_forall₂_right (TaskForm.resolve_gives hresolve).2 hvariant
  obtain ⟨g, k, -, hg⟩ := hf.steps.exists_form hstep
  exact (hg.setValue bound hbound).2

/-! ### What references give way to -/

theorem replacesOutputs_bindAll {outputs : List (String × String)}
    (h : ∀ d ∈ steps, ∀ bound, d.setValue = some bound → ∃ output, (bound, output) ∈ outputs)
    (vars : Bindings) (templates : List String) :
    (vars.bindAll outputs).ReplacesOutputs steps outputs templates := by
  intro d hd bound hbound hname
  obtain ⟨output, hmem⟩ := h d hd bound hbound
  obtain ⟨value, hlast⟩ := exists_isLastOf hmem
  exact ⟨value, hlast, fun template _ =>
    Bindings.replaces_of_isName hname (get?_bindAll_of_isLastOf hlast vars) template⟩

theorem Reaches.seesOutputs {done : List Step}
    (h : Reaches s node v steps done step results) :
    SeesOutputs (s.afterSteps node v done results) node (node.varsAfter v done results) done
      (outputsOf done results) step := by
  have hvars : node.varsAfter v done results =
      (Bindings.ofNode node v).bindAll (outputsOf done results) :=
    afterSteps_eq_bindAll _ done results
  have hbound (d : Step) (hd : d ∈ done) (bound : String) (hname : d.setValue = some bound) :
      ∃ output, (bound, output) ∈ outputsOf done results :=
    exists_mem_outputsOf h.carried.length_eq hd hname
  rw [hvars]
  refine ⟨replacesOutputs_bindAll hbound _ _, fun command output _ => ?_, ?_⟩
  · rw [bindOutput_eq_bindAll, ← bindAll_append]
    exact replacesOutputs_bindAll (fun d hd bound hname =>
      (hbound d hd bound hname).imp fun _ => List.mem_append_left _) _ _
  · intro command output _ bound hbound hname template _
    refine Bindings.replaces_of_isName hname ?_ template
    rw [get?_bindOutput, if_pos hbound, Option.some_or]

theorem boundInVain (htrim : Text.trimmed bound = bound) (hname : isName bound.toList = false) :
    BoundInVain bound where
  unseen vars value template := Bindings.substitute_bind hname vars value template
  stays hopening hclosing vars template :=
    Bindings.replaces_itself hname htrim hopening hclosing vars template

/-- **References to the outputs of a task's steps.**  All that a run asks for is a template of a
step that it has come to, with the variables replaced.  If a name can stand in a placeholder and a
step has bound it, every reference to it in a later command gives way to what was bound last, and so
does every reference in the operands and the message of a later step and of that step itself.  A
name that can stand in no placeholder is bound in vain, and a reference to it, where it is not part
of another, stays as it is. -/
theorem Task.ofText_references {name text : String} {t : Task} (h : Task.ofText name text = .ok t)
    {variant : Variant} (hvariant : variant ∈ t.variants) (s : Session) (node : Node)
    (v : Version) :
    (∀ request ∈ (s.runNode node variant.steps v).requests,
      AskedByStep s node v variant.steps request) ∧
    (∀ done step results, Reaches s node v variant.steps done step results →
      SeesOutputs (s.afterSteps node v done results) node (node.varsAfter v done results) done
        (outputsOf done results) step) ∧
    ∀ step ∈ variant.steps, ∀ bound, step.setValue = some bound → isName bound.toList = false →
      BoundInVain bound := by
  refine ⟨fun request => exists_reaches_asks s node variant.steps v,
    fun done step results => Reaches.seesOutputs, fun step hstep bound hbound => ?_⟩
  exact boundInVain (Task.ofText_setValue h hvariant hstep hbound)

namespace Sample

/-- A step that gives its output a name. -/
def naming (name : String) : Step :=
  { index := 1, kind := .ssh, command := "m", setValue := some name }

/-- A step that refers to a name. -/
def referring (name : String) : Step :=
  { index := 2, kind := .ssh, command := "r " ++ reference name }

/-- A task of these steps. -/
def namingTask (name : String) : Task where
  name := "t"
  info := ""
  variants := [{ range := .any, steps := [naming name, referring name] }]

/-- What defines it for a name that placeholders can have. -/
def plainText : String :=
  "task:\n- steps:\n  - type: ssh\n    ssh: m\n    result:\n      set_value: a\n" ++
  "  - type: ssh\n    ssh: 'r #\x7ba\x7d'\n"

/-- What defines it for a name that they cannot have. -/
def umlautText : String :=
  "task:\n- steps:\n  - type: ssh\n    ssh: m\n    result:\n      set_value: größe\n" ++
  "  - type: ssh\n    ssh: 'r #\x7bgröße\x7d'\n"

/-- Backends whose shell always answers the same. -/
def echoing (output : String) : Backends where
  shell _ _ := .ok { stdout := output }
  query _ _ := .ok []
  parameter _ _ := .silent (.ok "")

def machine : Node := { id := "n", host := "h" }

end Sample

/-- A reference to an output gives way to it. -/
theorem Task.ofText_references_output :
    Task.ofText "t" Sample.plainText = .ok (Sample.namingTask "a") ∧
      let node := Sample.machine
      let start := Bindings.ofNode node .latest
      ∃ results, Reaches (.steady (Sample.echoing "42")) node .latest
          [Sample.naming "a", Sample.referring "a"] [Sample.naming "a"] (Sample.referring "a")
          results ∧
        (start.afterSteps [Sample.naming "a"] results).substitute (Sample.referring "a").command =
          .ok "r 42" := by
  have h : Task.ofText "t" Sample.plainText = .ok (Sample.namingTask "a") := by decide_cbv
  have hprobe : Probed (Sample.echoing "42") Sample.machine (.ofNode Sample.machine .latest)
      (Sample.naming "a") "m" "42" := ⟨by decide_cbv, by decide_cbv⟩
  have hreaches : Reaches (.steady (Sample.echoing "42")) Sample.machine .latest
      [Sample.naming "a", Sample.referring "a"] [Sample.naming "a"] (Sample.referring "a")
      [{ index := 1, kind := .ssh, command := "m", output := "42", verdict := .passed,
         severity := .pass }] := ⟨⟨[], rfl⟩, .cons (.passed hprobe rfl (.passed rfl)) (.nil ..)⟩
  refine ⟨h, _, hreaches, ?_⟩
  obtain ⟨-, hplaces, -⟩ := Task.ofText_references h (List.mem_singleton_self _)
    (.steady (Sample.echoing "42")) Sample.machine .latest
  obtain ⟨value, hlast, hreplaces⟩ :=
    (hplaces _ _ _ hreaches).command _ (List.mem_singleton_self _) "a" rfl (by decide)
  obtain rfl : "42" = value := Option.some.inj (isLastOf_iff_lookup_reverse.1 hlast)
  have hcommand := hreplaces _ (List.mem_singleton_self _) "r " "" (by rfl)
  rw [Node.varsAfter] at hcommand
  rw [hcommand]
  decide_cbv

/-- A reference to an output of which no placeholder can have the name is sent as it stands. -/
theorem Task.ofText_references_unseen :
    Task.ofText "t" Sample.umlautText = .ok (Sample.namingTask "größe") ∧
      (Sample.naming "größe").setValue = some "größe" ∧
      (runNode (Sample.echoing "42") Sample.machine
          [Sample.naming "größe", Sample.referring "größe"] .latest).requests =
        [.probe .ssh "m", .probe .ssh ("r " ++ reference "größe")] := by
  refine ⟨by decide_cbv, rfl, by decide_cbv⟩

end Inspection
