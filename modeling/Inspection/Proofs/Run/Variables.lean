import Inspection.Proofs.Run.Assigned
import Inspection.Proofs.Template.Substitution

/-!
# Run — What a variable stands for

A node starts each task with the built-in variables, those of the run and its own, in this order of
precedence.  A step that has a name for its output gives that name a new value, for the steps after
it in the same task and on the same node, and for its own check.  Nothing else is ever bound.

* `startValue`: what a name stands for at the start.
* `get?_ofNode`, `get?_afterSteps`: what it stands for then, and after steps.
* `Carried.runSteps_append`: a run goes on from the steps that are carried out with the variables
  that they leave.
* `SeesStart`, `GoesOn`: how a node goes on after steps that are carried out.
* `runCatalog_variables`: what the placeholders in the templates of a run give way to.
-/

namespace Inspection

open Bindings (gives_get?)

namespace Sample

/-- The run and the node have values of their own for `port`, and the run one for a built-in
variable. -/
def portRequest : RunRequest :=
  { version := .latest, vars := [("port", "2"), ("node.id", "u")] }

def portNode : Node := { id := "c", host := "h", vars := [("port", "1"), ("disk", "d")] }

def portStep : Step :=
  { index := 1, kind := .ssh
    command := "#\x7bport\x7d #\x7bdisk\x7d #\x7bnode.id\x7d #\x7bup\x7d" }

def portCatalog : Catalog :=
  { tasks := [{ task with variants := [{ range := .any, steps := [portStep] }] }] }

end Sample

/-- The value of a name in a list of them, the last one if there are several. -/
def lastValue (vars : List (String × String)) (name : String) : Option String :=
  vars.reverse.lookup name

/-- What a name stands for before a step has bound it: a built-in variable comes before one of the
run, and that before one of the node. -/
def startValue (request : RunRequest) (n : Node) (name : String) : Option String :=
  if name = "node.id" then some n.id
  else if name = "node.host" then some n.host
  else if name = "version" then some request.version.text
  else (lastValue request.vars name).or (lastValue n.vars name)

/-- The output of the last step that has bound it to the name. -/
def lastOutput (name : String) : List Step → List StepResult → Option String
  | step :: steps, r :: results =>
    (lastOutput name steps results).or
      (if step.setValue = some name then some r.output else none)
  | _, _ => none

/-- The templates of a step that are looked at once it has its output. -/
def Step.checkTemplates (step : Step) : List String :=
  (match step.rule with
    | some ⟨_, .scalar text⟩ => [text]
    | some ⟨_, .range low high⟩ => [low, high]
    | none => []) ++ step.failureMessage.toList

variable {b : Backends} {s : Session} {node n : Node} {vars : Bindings} {step : Step}
  {steps rest : List Step} {results : List StepResult} {name value : String}
  {request : RunRequest}

/-! ### At the start -/

theorem get?_bind (vars : Bindings) (bound value name : String) :
    (vars.bind bound value).get? name = if name = bound then some value else vars.get? name := by
  split
  · rename_i h
    rw [h, Bindings.get?_bind_self]
  · rename_i h
    exact Bindings.get?_bind_of_ne vars value h

theorem latestFirst_bindAll (vars : Bindings) (more : List (String × String)) :
    (vars.bindAll more).latestFirst = more.reverse ++ vars.latestFirst := by
  induction more generalizing vars with
  | nil => rfl
  | cons x more ih =>
    rw [List.reverse_cons, List.append_assoc]
    exact ih (vars.bind x.1 x.2)

theorem get?_bindAll (vars : Bindings) (more : List (String × String)) (name : String) :
    (vars.bindAll more).get? name = (lastValue more name).or (vars.get? name) := by
  rw [Bindings.get?, latestFirst_bindAll, List.lookup_append]
  rfl

theorem lastValue_append (vars more : List (String × String)) (name : String) :
    lastValue (vars ++ more) name = (lastValue more name).or (lastValue vars name) := by
  rw [lastValue, List.reverse_append, List.lookup_append]
  rfl

/-- The built-in variables are bound last, and those of the run after the node's own. -/
theorem get?_ofNode (request : RunRequest) (n : Node) (name : String) :
    (Bindings.ofNode (n.withVars request.vars) request.version).get? name =
      startValue request n name := by
  have hempty : Bindings.empty.get? name = none := rfl
  rw [startValue, Bindings.ofNode, get?_bind, get?_bind, get?_bind, get?_bindAll, hempty,
    Option.or_none, Node.withVars, lastValue_append]
  -- the three names differ, so it makes no difference which is bound last
  by_cases hid : name = "node.id"
  · subst hid
    rfl
  · by_cases hhost : name = "node.host"
    · subst hhost
      rfl
    · simp only [hid, hhost, if_false]

/-! ### After steps -/

theorem get?_bindOutput (step : Step) (vars : Bindings) (output name : String) :
    (step.bindOutput vars output).get? name =
      (if step.setValue = some name then some output else none).or (vars.get? name) := by
  rw [Step.bindOutput]
  split
  · rename_i bound hbound
    rw [get?_bind, hbound]
    by_cases h : name = bound
    · simp [h]
    · simp [h, Ne.symm h]
  · rename_i hnone
    simp [hnone]

theorem get?_afterSteps (vars : Bindings) (steps : List Step) (results : List StepResult)
    (name : String) :
    (vars.afterSteps steps results).get? name =
      (lastOutput name steps results).or (vars.get? name) := by
  induction steps generalizing vars results with
  | nil => rfl
  | cons step steps ih =>
    cases results with
    | nil => rfl
    | cons r results => rw [Bindings.afterSteps, ih, get?_bindOutput, lastOutput, Option.or_assoc]

theorem lastOutput_eq_none (h : ∀ step ∈ steps, step.setValue ≠ some name)
    (results : List StepResult) : lastOutput name steps results = none := by
  induction steps generalizing results with
  | nil => rfl
  | cons step steps ih =>
    obtain ⟨hstep, hsteps⟩ := List.forall_mem_cons.1 h
    cases results with
    | nil => rfl
    | cons r results => rw [lastOutput, ih hsteps, if_neg hstep, Option.or_none]

/-- A name that no step binds keeps what it stands for. -/
theorem get?_afterSteps_of_unbound (h : ∀ step ∈ steps, step.setValue ≠ some name) :
    (vars.afterSteps steps results).get? name = vars.get? name := by
  rw [get?_afterSteps, lastOutput_eq_none h, Option.none_or]

theorem exists_of_lastOutput (h : lastOutput name steps results = some value) :
    ∃ step r, (step, r) ∈ steps.zip results ∧ step.setValue = some name ∧ r.output = value := by
  induction steps generalizing results with
  | nil => cases h
  | cons step steps ih =>
    cases results with
    | nil => cases h
    | cons r results =>
      rw [lastOutput, Option.or_eq_some_iff] at h
      obtain h | ⟨-, h⟩ := h
      · obtain ⟨later, r', hmem, hname, hvalue⟩ := ih h
        exact ⟨later, r', List.mem_cons_of_mem _ hmem, hname, hvalue⟩
      · split at h
        · rename_i hname
          exact ⟨step, r, List.mem_cons_self, hname, Option.some.inj h⟩
        · cases h

/-- A run goes on with the variables that are left by the steps that are carried out. -/
theorem Carried.runSteps_append (h : Carried s node vars steps results) (rest : List Step) :
    runSteps s node vars (steps ++ rest) =
      let more := runSteps (s.after (vars.asked steps results).length) node
        (vars.afterSteps steps results) rest
      (vars.asked steps results ++ more.1, results.foldr StepsEnd.after more.2) := by
  induction h with
  | nil => rfl
  | cons h _ ih =>
    rw [after_asked_cons]
    simp only [List.cons_append, runSteps, h.runStep_eq, ih, Bindings.asked, Bindings.afterSteps,
      List.append_assoc, List.foldr_cons]

/-! ### A whole run -/

/-- A name that none of the steps has bound gives way, in the template, to what it stands for at the
start. -/
def Bindings.GivesStart (vars : Bindings) (start : String → Option String) (bound : List Step)
    (template : String) : Prop :=
  ∀ name, (∀ d ∈ bound, d.setValue ≠ some name) → vars.Gives template name (start name)

/-- What a step of a node sees of the names after the steps `done`: in its command those that they
have left, in its check these and its own output. -/
structure SeesStart (s : Session) (node : Node) (vars : Bindings) (start : String → Option String)
    (done : List Step) (step : Step) : Prop where
  command : vars.GivesStart start done step.command
  check : ∀ command output, Probed (s.backends 0) node vars step command output →
    runStep s node vars step =
      let check := checkOutput (s.backends 1) node (step.bindOutput vars output) step command output
      (.probe step.kind command :: check.1, check.2)
  templates : ∀ command output, Probed (s.backends 0) node vars step command output →
    ∀ template ∈ step.checkTemplates,
      (step.bindOutput vars output).GivesStart start (done ++ [step]) template

/-- A node goes on with a step and the rest after the steps `done`, where names stand for `start`
before all of them. -/
structure GoesOn (s : Session) (node : Node) (v : Version) (start : String → Option String)
    (done : List Step) (results : List StepResult) (step : Step) (rest : List Step) : Prop where
  run : s.runNode node (done ++ step :: rest) v =
    let onward := runSteps (s.afterSteps node v done results) node (node.varsAfter v done results)
      (step :: rest)
    ⟨(Bindings.ofNode node v).asked done results ++ onward.1,
      results.foldr StepsEnd.after onward.2⟩
  sees : SeesStart (s.afterSteps node v done results) node (node.varsAfter v done results) start
    done step
  /-- No name stands for anything of another node or task. -/
  own : ∀ name value, (node.varsAfter v done results).get? name = some value →
    start name = some value ∨
      ∃ d r, (d, r) ∈ done.zip results ∧ d.setValue = some name ∧ r.output = value

theorem seesStart {start : String → Option String} {done : List Step}
    (hstart : ∀ name, (∀ d ∈ done, d.setValue ≠ some name) → vars.get? name = start name)
    (s : Session) (node : Node) (step : Step) : SeesStart s node vars start done step where
  command name hname := hstart name hname ▸ gives_get? vars step.command name
  check _ _ hprobe := hprobe.runStep_eq
  templates := by
    intro _ output _ template _ name hname
    obtain ⟨hdone, hstep⟩ := List.forall_mem_append.1 hname
    have hget : (step.bindOutput vars output).get? name = start name := by
      rw [get?_bindOutput, if_neg (hstep step (List.mem_singleton_self step)), Option.none_or,
        hstart name hdone]
    exact hget ▸ gives_get? (step.bindOutput vars output) template name

theorem Carried.goesOn {done : List Step}
    (h : Carried s (n.withVars request.vars)
      (.ofNode (n.withVars request.vars) request.version) done results)
    (step : Step) (rest : List Step) :
    GoesOn s (n.withVars request.vars) request.version (startValue request n) done results step
      rest where
  run := by
    rw [Session.runNode, h.runSteps_append]
    rfl
  sees := by
    refine seesStart (fun name hname => ?_) _ _ step
    rw [Node.varsAfter, get?_afterSteps_of_unbound hname, get?_ofNode]
  own := by
    intro name value hvalue
    rw [Node.varsAfter, get?_afterSteps, get?_ofNode, Option.or_eq_some_iff] at hvalue
    obtain hvalue | ⟨-, hvalue⟩ := hvalue
    · exact .inr (exists_of_lastOutput hvalue)
    · exact .inl hvalue

/-- **What the placeholders of a run give way to.**  All that a run reports and calls is what the
steps of its tasks report and call on their nodes, each on its own.  Where such steps have been
carried out, the next one goes on with the variables that they leave, and is checked with these and
its own output.  In its command, and then in its operands and its message, a name that no step has
bound so far stands for the built-in variable, else for the run's, else for the node's own, and else
for nothing, which is an error.  A name that a step has bound stands for an output of these steps:
nothing of other nodes or other tasks is ever seen. -/
theorem runCatalog_variables {engine : Engine} {stop : Option Nat} {catalog : Catalog}
    {nodes : List Node} {run : CatalogRun}
    (h : runCatalog b engine stop catalog nodes request = .ok run) :
    ∃ chosen, catalog.select request.selection = .ok chosen ∧
      MadeOfAssigned b chosen nodes request run ∧
      ∀ (s : Session) (n : Node) (done rest : List Step) (step : Step) (results : List StepResult),
        let node := n.withVars request.vars
        Carried s node (.ofNode node request.version) done results →
          GoesOn s node request.version (startValue request n) done results step rest := by
  rcases runCatalog_error_or_ok b catalog nodes request with ⟨e, hrun, -⟩ | ⟨chosen, hchosen, -, -⟩
  · rw [hrun] at h
    cases h
  · exact ⟨chosen, hchosen, runChosen_assigned (eq_runChosen h hchosen).symm,
      fun s n done rest step results hdone => hdone.goesOn step rest⟩

theorem runCatalog_variables_sample :
    ∃ run, runCatalog Sample.backends Sample.engine none Sample.portCatalog [Sample.portNode]
        Sample.portRequest = .ok run ∧
      let vars := Bindings.ofNode (Sample.portNode.withVars Sample.portRequest.vars) .latest
      vars.Gives Sample.portStep.command "port" (some "2") ∧
      vars.Gives Sample.portStep.command "disk" (some "d") ∧
      vars.Gives Sample.portStep.command "node.id" (some "c") ∧
      vars.Gives Sample.portStep.command "up" none := by
  obtain ⟨run, hrun⟩ : ∃ run, runCatalog Sample.backends Sample.engine none Sample.portCatalog
      [Sample.portNode] Sample.portRequest = .ok run := ⟨_, rfl⟩
  obtain ⟨-, -, -, honward⟩ := runCatalog_variables hrun
  have hsees := (honward (.steady Sample.backends) Sample.portNode [] [] Sample.portStep []
    (.nil ..)).sees
  have hgives {name : String} {value : Option String}
      (h : startValue Sample.portRequest Sample.portNode name = value) :=
    h ▸ hsees.command name (List.forall_mem_nil _)
  exact ⟨run, hrun, hgives rfl, hgives rfl, hgives rfl, hgives rfl⟩

end Inspection
