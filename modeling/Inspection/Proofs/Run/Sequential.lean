import Inspection.Proofs.Run.Tasks

/-!
# Run — As if in turn

A run that is over before the interrupt has the report, and makes the calls for each node, that it
would if one task were carried out after another and each on one node after another.  So these
depend neither on the number of workers nor on the time that calls take, nor on the order of the
nodes.

* `runChosen_report`, `runChosen_calls`: the report and the calls of such a run.
* `reportsOn_chosenInTurn`: what is reported of a node under the name of a task.
* `AsInTurn`: what it is for a run to be as if in turn; `SameOutcome` and `SameWork` are what two
  runs have in common.
* `runCatalog_in_turn`: the whole of it, for the tasks that a request chooses.
-/

namespace Inspection

open Schedule (isBefore)

namespace Sample

/-- A task that runs, and one without a variant. -/
def catalog : Catalog := { tasks := [task, { task with name := "none", variants := [] }] }

def request : RunRequest := { version := .latest }

end Sample

variable {b b' : Backends} {engine : Engine} {stop : Option Nat} {catalog chosen : Catalog}
  {nodes nodes' : List Node} {request : RunRequest} {run : CatalogRun}

theorem ids_withVars (nodes : List Node) (vars : List (String × String)) :
    (nodes.map (·.withVars vars)).map (·.id) = nodes.map (·.id) := by
  rw [List.map_map]
  rfl

/-- What is wrong with a request shows before anything is carried out. -/
theorem runCatalog_error_or_ok (b : Backends) (catalog : Catalog) (nodes : List Node)
    (request : RunRequest) :
    (∃ e, (∀ engine stop, runCatalog b engine stop catalog nodes request = .error e) ∧
      catalogInTurn b catalog nodes request = .error e) ∨
    ∃ chosen, catalog.select request.selection = .ok chosen ∧
      (∀ engine stop, runCatalog b engine stop catalog nodes request =
        .ok (runChosen b engine stop chosen (nodes.map (·.withVars request.vars)) request)) ∧
      catalogInTurn b catalog nodes request =
        .ok (chosenInTurn b chosen (nodes.map (·.withVars request.vars)) request) := by
  simp only [runCatalog, catalogInTurn]
  split
  · exact .inl ⟨_, fun _ _ => rfl, rfl⟩
  · cases catalog.select request.selection with
    | error e => exact .inl ⟨e, fun _ _ => rfl, rfl⟩
    | ok chosen => exact .inr ⟨chosen, rfl, fun _ _ => rfl, rfl⟩

/-- A run carries out the tasks that its request chooses. -/
theorem eq_runChosen (h : runCatalog b engine stop catalog nodes request = .ok run)
    (hchosen : catalog.select request.selection = .ok chosen) :
    run = runChosen b engine stop chosen (nodes.map (·.withVars request.vars)) request := by
  rcases runCatalog_error_or_ok b catalog nodes request with ⟨e, hrun, -⟩ | ⟨chosen', h', hrun, -⟩
  · rw [hrun] at h
    cases h
  · obtain rfl := Except.ok.inj (hchosen.symm.trans h')
    exact (Except.ok.inj (h.symm.trans (hrun engine stop)))

/-! ### The tasks of a catalog -/

theorem runChosen_report (hids : (nodes.map (·.id)).Nodup)
    (h : isBefore (runChosen b engine stop chosen nodes request).finish stop = true) :
    (runChosen b engine stop chosen nodes request).report =
      chosenInTurn b chosen nodes request := by
  have hwhole := runTasks_whole hids h
  rw [runChosen, chosenInTurn, ← reports_of_whole hwhole, ← skipped_of_whole hwhole]

theorem runChosen_calls (hids : (nodes.map (·.id)).Nodup)
    (h : isBefore (runChosen b engine stop chosen nodes request).finish stop = true) {n : Node}
    (hn : n ∈ nodes) :
    callsFor n.id (runChosen b engine stop chosen nodes request).calls =
      callsInTurn b request.version chosen.tasks n :=
  calls_of_whole (runTasks_whole hids h) hn

theorem taskInTurn_perm (hids : (nodes.map (·.id)).Nodup) (h : nodes.Perm nodes') (b : Backends)
    (v : Version) (task : Task) (variant : Variant) :
    taskInTurn b nodes v task variant = taskInTurn b nodes' v task variant := by
  refine TaskReport.ofNodes_perm _ _ _ _ (h.map _) ?_
  rw [map_node_reportInTurn]
  exact hids

/-- The order of the nodes makes no difference. -/
theorem chosenInTurn_perm (hids : (nodes.map (·.id)).Nodup) (h : nodes.Perm nodes') (b : Backends)
    (chosen : Catalog) (request : RunRequest) :
    chosenInTurn b chosen nodes request = chosenInTurn b chosen nodes' request := by
  simp only [chosenInTurn, reportsInTurn, funext₂ (taskInTurn_perm hids h b request.version)]

/-! ### A task on a node -/

theorem filter_taskInTurn (hids : (nodes.map (·.id)).Nodup) {n : Node} (hn : n ∈ nodes)
    (b : Backends) (v : Version) (task : Task) (variant : Variant) :
    (taskInTurn b nodes v task variant).nodes.filter (·.node == n.id) =
      [reportInTurn b variant.steps v n] := by
  have hreports : ((nodes.map (reportInTurn b variant.steps v)).map (·.node)).Nodup := by
    rw [map_node_reportInTurn]
    exact hids
  rw [← reportInTurn_node b variant.steps v n, taskInTurn, TaskReport.ofNodes, filter_sortBy]
  exact filter_eq_singleton hreports (List.mem_map_of_mem hn)

/-- What is reported of a node under the name of a task is what each task of that name reports of
the node on its own. -/
theorem reportsOn_reportsInTurn (hids : (nodes.map (·.id)).Nodup) {n : Node} (hn : n ∈ nodes)
    (b : Backends) (v : Version) (name : String) (tasks : List Task) :
    reportsOn name n.id (reportsInTurn b nodes v tasks) =
      (tasks.filter (·.name == name)).filterMap fun task =>
        (task.select? v).map fun variant => reportInTurn b variant.steps v n := by
  induction tasks with
  | nil => rfl
  | cons task rest ih =>
    rw [reportsInTurn] at ih ⊢
    cases hvariant : task.select? v with
    | none =>
      rw [List.filterMap_cons_none (by rw [hvariant, Option.map_none]), ih]
      by_cases hname : task.name = name <;> simp [hname, hvariant]
    | some variant =>
      have htask : (taskInTurn b nodes v task variant).task = task.name := rfl
      rw [List.filterMap_cons_some (by rw [hvariant, Option.map_some]), reportsOn_cons, ih, htask]
      by_cases hname : task.name = name
      · rw [if_pos hname, filter_taskInTurn hids hn, List.filter_cons_of_pos (by simpa using hname),
          List.filterMap_cons_some (by rw [hvariant, Option.map_some]), List.singleton_append]
      · rw [if_neg hname, List.filter_cons_of_neg (by simpa using hname), List.nil_append]

/-- What is reported of a node under the name of a task depends on the tasks of that name and on the
replies for the node, and on no other task or node. -/
theorem reportsOn_congr {v : Version} {tasks tasks' : List Task}
    (hids : (nodes.map (·.id)).Nodup) (hids' : (nodes'.map (·.id)).Nodup) {n : Node}
    (hn : n ∈ nodes) (hn' : n ∈ nodes') (hagree : b.AgreeAt b' n) {name : String}
    (htasks : tasks.filter (·.name == name) = tasks'.filter (·.name == name)) :
    reportsOn name n.id (reportsInTurn b nodes v tasks) =
      reportsOn name n.id (reportsInTurn b' nodes' v tasks') := by
  rw [reportsOn_reportsInTurn hids hn, reportsOn_reportsInTurn hids' hn', htasks]
  simp only [reportInTurn_congr hagree]

theorem reportsOn_chosenInTurn (name id : String) (b : Backends) (chosen : Catalog)
    (nodes : List Node) (request : RunRequest) :
    reportsOn name id (chosenInTurn b chosen nodes request).tasks =
      reportsOn name id (reportsInTurn b nodes request.version chosen.tasks) :=
  reportsOn_sortBy name id _

/-! ### The tasks that a request chooses -/

/-- A run that is over before the interrupt. -/
structure Undisturbed (b : Backends) (engine : Engine) (stop : Option Nat) (catalog : Catalog)
    (nodes : List Node) (request : RunRequest) (run : CatalogRun) : Prop where
  ok : runCatalog b engine stop catalog nodes request = .ok run
  before : isBefore run.finish stop = true

theorem Undisturbed.report_eq (h : Undisturbed b engine stop catalog nodes request run)
    (hids : (nodes.map (·.id)).Nodup) (hchosen : catalog.select request.selection = .ok chosen) :
    run.report = chosenInTurn b chosen (nodes.map (·.withVars request.vars)) request := by
  have hrun := eq_runChosen h.ok hchosen
  have hbefore := h.before
  subst hrun
  exact runChosen_report (by rwa [ids_withVars]) hbefore

theorem Undisturbed.calls_eq (h : Undisturbed b engine stop catalog nodes request run)
    (hids : (nodes.map (·.id)).Nodup) (hchosen : catalog.select request.selection = .ok chosen)
    {n : Node} (hn : n ∈ nodes) :
    callsFor n.id run.calls =
      callsInTurn b request.version chosen.tasks (n.withVars request.vars) := by
  have hrun := eq_runChosen h.ok hchosen
  have hbefore := h.before
  subst hrun
  exact runChosen_calls (n := n.withVars request.vars) (by rwa [ids_withVars]) hbefore
    (List.mem_map_of_mem hn)

/-- Two runs give the same report and make the same calls for each node. -/
structure SameOutcome (nodes : List Node) (run run' : CatalogRun) : Prop where
  report : run'.report = run.report
  calls : ∀ n ∈ nodes, callsFor n.id run'.calls = callsFor n.id run.calls

/-- Two runs have the same to do for a node under the name of a task: the tasks of that name are the
same, and so are the version, the node's variables and the replies for the node. -/
structure SameWork (name : String) (b b' : Backends) (chosen chosen' : Catalog)
    (request request' : RunRequest) (n n' : Node) : Prop where
  tasks : chosen'.tasks.filter (·.name == name) = chosen.tasks.filter (·.name == name)
  version : request'.version = request.version
  node : n'.withVars request'.vars = n.withVars request.vars
  replies : b'.AgreeAt b (n.withVars request.vars)

/-- A run of the tasks `chosen` is as if one thing went on after another. -/
structure AsInTurn (b : Backends) (catalog chosen : Catalog) (nodes : List Node)
    (request : RunRequest) (run : CatalogRun) : Prop where
  calls : ∀ n ∈ nodes, callsFor n.id run.calls =
    callsInTurn b request.version chosen.tasks (n.withVars request.vars)
  /-- Any number of workers, any time that calls take and any order of the nodes give the same. -/
  again : ∀ engine' stop' nodes' run', nodes'.Perm nodes →
    Undisturbed b engine' stop' catalog nodes' request run' → SameOutcome nodes run run'
  /-- Other tasks, other nodes and the replies for these make no difference to what is reported of a
  node under the name of a task. -/
  apart : ∀ b' engine' stop' catalog' chosen' nodes' request' run' n n' name,
    Undisturbed b' engine' stop' catalog' nodes' request' run' → (nodes'.map (·.id)).Nodup →
    catalog'.select request'.selection = .ok chosen' → n ∈ nodes → n' ∈ nodes' →
    SameWork name b b' chosen chosen' request request' n n' →
      reportsOn name n.id run'.report.tasks = reportsOn name n.id run.report.tasks

theorem Undisturbed.sameOutcome {engine' : Engine} {stop' : Option Nat} {run' : CatalogRun}
    (h : Undisturbed b engine stop catalog nodes request run)
    (h' : Undisturbed b engine' stop' catalog nodes' request run')
    (hids : (nodes.map (·.id)).Nodup) (hchosen : catalog.select request.selection = .ok chosen)
    (hperm : nodes'.Perm nodes) : SameOutcome nodes run run' := by
  have hids' : (nodes'.map (·.id)).Nodup := (hperm.map _).nodup_iff.2 hids
  refine ⟨?_, fun n hn => ?_⟩
  · rw [h'.report_eq hids' hchosen, h.report_eq hids hchosen]
    exact chosenInTurn_perm (by rwa [ids_withVars]) (hperm.map _) b chosen request
  · rw [h'.calls_eq hids' hchosen (hperm.mem_iff.2 hn), h.calls_eq hids hchosen hn]

theorem Undisturbed.reportsOn_eq {engine' : Engine} {stop' : Option Nat}
    {catalog' chosen' : Catalog} {request' : RunRequest} {run' : CatalogRun} {n n' : Node}
    {name : String} (h : Undisturbed b engine stop catalog nodes request run)
    (h' : Undisturbed b' engine' stop' catalog' nodes' request' run')
    (hids : (nodes.map (·.id)).Nodup) (hids' : (nodes'.map (·.id)).Nodup)
    (hchosen : catalog.select request.selection = .ok chosen)
    (hchosen' : catalog'.select request'.selection = .ok chosen')
    (hn : n ∈ nodes) (hn' : n' ∈ nodes')
    (hwork : SameWork name b b' chosen chosen' request request' n n') :
    reportsOn name n.id run'.report.tasks = reportsOn name n.id run.report.tasks := by
  have hmem : n.withVars request.vars ∈ nodes.map (·.withVars request.vars) :=
    List.mem_map_of_mem hn
  have hmem' : n.withVars request.vars ∈ nodes'.map (·.withVars request'.vars) :=
    hwork.node ▸ List.mem_map_of_mem hn'
  rw [h'.report_eq hids' hchosen', h.report_eq hids hchosen, reportsOn_chosenInTurn,
    reportsOn_chosenInTurn, hwork.version]
  exact reportsOn_congr (n := n.withVars request.vars) (by rwa [ids_withVars])
    (by rwa [ids_withVars]) hmem' hmem hwork.replies hwork.tasks

theorem Undisturbed.asInTurn (h : Undisturbed b engine stop catalog nodes request run)
    (hids : (nodes.map (·.id)).Nodup) (hchosen : catalog.select request.selection = .ok chosen) :
    AsInTurn b catalog chosen nodes request run where
  calls _ hn := h.calls_eq hids hchosen hn
  again := by
    intro engine' stop' nodes' run' hperm h'
    exact h.sameOutcome h' hids hchosen hperm
  apart := by
    intro b' engine' stop' catalog' chosen' nodes' request' run' n n' name h' hids' hchosen'
      hn hn' hwork
    exact h.reportsOn_eq h' hids hids' hchosen hchosen' hn hn' hwork

/-- **A run is as if one thing went on after another.**  Without an interrupt before its end, a run
gives the report that its tasks give when they are carried out in turn, each on one node after
another, and so it makes the calls for each node.  Any number of workers, any time that calls take
and any order of the nodes give the same report and the same calls for each node.  What is reported
of a node under the name of a task is the same in every run that has the same to do for the node
under that name: whatever other tasks, other nodes and the replies for these are. -/
theorem runCatalog_in_turn (b : Backends) (engine : Engine) (stop : Option Nat) (catalog : Catalog)
    (nodes : List Node) (request : RunRequest) (hids : (nodes.map (·.id)).Nodup)
    (hend : ∀ run, runCatalog b engine stop catalog nodes request = .ok run →
      isBefore run.finish stop = true) :
    (runCatalog b engine stop catalog nodes request).map (·.report) =
      catalogInTurn b catalog nodes request ∧
    ∀ run chosen, runCatalog b engine stop catalog nodes request = .ok run →
      catalog.select request.selection = .ok chosen →
        AsInTurn b catalog chosen nodes request run := by
  have hundisturbed {run : CatalogRun}
      (hrun : runCatalog b engine stop catalog nodes request = .ok run) :
      Undisturbed b engine stop catalog nodes request run := ⟨hrun, hend run hrun⟩
  refine ⟨?_, fun run chosen hrun hchosen => (hundisturbed hrun).asInTurn hids hchosen⟩
  rcases runCatalog_error_or_ok b catalog nodes request with
    ⟨e, hrun, hturn⟩ | ⟨chosen, hchosen, hrun, hturn⟩
  · rw [hrun, hturn]
    rfl
  · rw [hrun, hturn]
    exact congrArg Except.ok ((hundisturbed (hrun engine stop)).report_eq hids hchosen)

/-- The three nodes take as long as two workers need for them, which is less than it takes until the
interrupt. -/
theorem runCatalog_in_turn_sample :
    (Sample.nodes.map (·.id)).Nodup ∧
    (∀ run, runCatalog Sample.backends Sample.engine (some 50) Sample.catalog Sample.nodes
      Sample.request = .ok run → isBefore run.finish (some 50) = true) ∧
    (runCatalog Sample.backends Sample.engine (some 50) Sample.catalog Sample.nodes
      Sample.request).map (·.report) =
        catalogInTurn Sample.backends Sample.catalog Sample.nodes Sample.request := by
  have hids : (Sample.nodes.map (·.id)).Nodup := by decide
  have hend : ∀ run, runCatalog Sample.backends Sample.engine (some 50) Sample.catalog Sample.nodes
      Sample.request = .ok run → isBefore run.finish (some 50) = true := by
    intro run h
    have hfinish : (runCatalog Sample.backends Sample.engine (some 50) Sample.catalog Sample.nodes
        Sample.request).toOption.map (·.finish) = some 30 := by decide_cbv
    rw [h] at hfinish
    have hfinish : run.finish = 30 := Option.some.inj hfinish
    rw [hfinish]
    rfl
  exact ⟨hids, hend, (runCatalog_in_turn Sample.backends Sample.engine (some 50) Sample.catalog
    Sample.nodes Sample.request hids hend).1⟩

end Inspection
