import Inspection.Proofs.Version.Written
import Inspection.Proofs.View.Unambiguous
import Inspection.View.Format

/-!
# View — Nothing is lost in XML

The tree of a report has all of it: a step without a message has no element for one, a step with an
empty message has an empty one, and the three lists under a report come one after another under
names of their own.

* `ofReport_inj`: reports with the same tree are the same.
* `xml_render_inj`: reports with the same document are the same.
-/

namespace Inspection

/-! ### Names of kinds -/

theorem StepKind.text_inj {a b : StepKind} : a.text = b.text ↔ a = b := by
  cases a <;> cases b <;> decide

theorem Verdict.text_inj {a b : Verdict} : a.text = b.text ↔ a = b := by
  cases a <;> cases b <;> decide

theorem Severity.text_inj {a b : Severity} : a.text = b.text ↔ a = b := by
  cases a <;> cases b <;> decide

theorem RunMode.text_inj {a b : RunMode} : a.text = b.text ↔ a = b := by
  cases a <;> cases b <;> decide

namespace Xml

/-! ### Trees of the parts -/

@[simp]
theorem name_ofStep (s : StepResult) : (ofStep s).name = "step" := rfl

@[simp]
theorem name_ofNode (r : NodeReport) : (ofNode r).name = "node" := rfl

@[simp]
theorem name_ofTask (r : TaskReport) : (ofTask r).name = "task" := rfl

@[simp]
theorem name_ofSkipped (s : SkippedTask) : (ofSkipped s).name = "skipped" := rfl

@[simp]
theorem name_ofBroken (b : BrokenTask) : (ofBroken b).name = "config_error" := rfl

theorem name_of_mem_ofOutcome {o : NodeOutcome} {x : Xml} (hx : x ∈ ofOutcome o) :
    x.name = "aborted" := by
  cases o with
  | completed => cases hx
  | aborted step reason =>
    obtain rfl := List.mem_singleton.1 hx
    rfl

/-- Trees of one name, before trees of other names. -/
theorem map_append_inj {α : Type} {f : α → Xml} {n : String} (hname : ∀ a, (f a).name = n)
    (hinj : ∀ a b, f a = f b → a = b) {as bs : List α} {r s : List Xml}
    (hr : ∀ x ∈ r, x.name ≠ n) (hs : ∀ x ∈ s, x.name ≠ n) (h : as.map f ++ r = bs.map f ++ s) :
    as = bs ∧ r = s := by
  have hmap : ∀ l : List α, ∀ x ∈ l.map f, (x.name == n) = true := fun l x hx => by
    obtain ⟨a, -, rfl⟩ := List.mem_map.1 hx
    exact beq_iff_eq.2 (hname a)
  have hstops : ∀ l : List Xml, (∀ x ∈ l, x.name ≠ n) → Text.Stops (fun x => x.name == n) l :=
    fun l hl => Text.stops_of_forall fun x hx => beq_eq_false_iff_ne.2 (hl x hx)
  obtain ⟨hfs, hrs⟩ := Text.append_inj_of_stops (p := fun x => x.name == n) (hmap as) (hmap bs)
    (hstops r hr) (hstops s hs) h
  exact ⟨(List.map_inj_right hinj).1 hfs, hrs⟩

theorem ofStep_inj (s t : StepResult) (h : ofStep s = ofStep t) : s = t := by
  simp only [ofStep, element.injEq, List.cons_append, List.nil_append, List.cons.injEq,
    Prod.mk.injEq, content.injEq, true_and, and_true] at h
  obtain ⟨⟨hindex, hkind, hverdict, hseverity⟩, hcommand, houtput, hmessage⟩ := h
  -- an element for each message that there is, an empty one among them
  have hm : s.message = t.message := by
    cases hs : s.message <;> cases ht : t.message <;> simp_all
  cases s
  cases t
  exact StepResult.mk.injEq .. ▸
    ⟨Text.natText_inj.1 hindex, StepKind.text_inj.1 hkind, hcommand, houtput,
      Verdict.text_inj.1 hverdict, Severity.text_inj.1 hseverity, hm⟩

theorem ofOutcome_inj (o p : NodeOutcome) (h : ofOutcome o = ofOutcome p) : o = p := by
  cases o <;> cases p <;> simp_all [ofOutcome]

theorem ofNode_inj (r s : NodeReport) (h : ofNode r = ofNode s) : r = s := by
  have houtcome : ∀ o : NodeOutcome, ∀ x ∈ ofOutcome o, x.name ≠ "step" := fun o x hx => by
    rw [name_of_mem_ofOutcome hx]
    decide
  simp only [ofNode, element.injEq, List.cons.injEq, Prod.mk.injEq, true_and, and_true] at h
  obtain ⟨hsteps, hend⟩ :=
    map_append_inj name_ofStep ofStep_inj (houtcome _) (houtcome _) h.2
  cases r
  cases s
  exact NodeReport.mk.injEq .. ▸ ⟨h.1.1, hsteps, ofOutcome_inj _ _ hend⟩

theorem ofTask_inj (r s : TaskReport) (h : ofTask r = ofTask s) : r = s := by
  have hclosed : ∀ l : List String,
      ∀ x ∈ l.map fun node => closed "unfinished" [("node", node)], x.name ≠ "node" := by
    simp [name]
  simp only [ofTask, element.injEq, List.cons.injEq, Prod.mk.injEq, true_and, and_true,
    List.cons_append, List.nil_append, content.injEq] at h
  obtain ⟨⟨htask, hrange, -⟩, hinfo, hrest⟩ := h
  obtain ⟨hnodes, hunfinished⟩ :=
    map_append_inj name_ofNode ofNode_inj (hclosed _) (hclosed _) hrest
  have hnames := (List.map_inj_right fun a b hab => by simpa using hab).1 hunfinished
  cases r
  cases s
  exact TaskReport.mk.injEq .. ▸ ⟨htask, hinfo, VersionRange.text_inj.1 hrange, hnodes, hnames⟩

theorem ofSkipped_inj (s t : SkippedTask) (h : ofSkipped s = ofSkipped t) : s = t := by
  simp only [ofSkipped, content.injEq, List.cons.injEq, Prod.mk.injEq, true_and, and_true] at h
  obtain ⟨⟨htask, hinterrupted⟩, hreason⟩ := h
  have hi : s.interrupted = t.interrupted := by
    cases hs : s.interrupted <;> cases ht : t.interrupted <;> simp_all
  cases s
  cases t
  exact SkippedTask.mk.injEq .. ▸ ⟨htask, hreason, hi⟩

theorem ofBroken_inj (a b : BrokenTask) (h : ofBroken a = ofBroken b) : a = b := by
  cases a
  cases b
  simp_all [ofBroken]

/-! ### Reports -/

/-- **Reports with the same tree are the same.** -/
theorem ofReport_inj (r s : RunReport) (h : ofReport r = ofReport s) : r = s := by
  have hothers : ∀ q : RunReport, ∀ x ∈ q.skipped.map ofSkipped ++ q.broken.map ofBroken,
      x.name ≠ "task" := by
    intro q x hx
    simp only [List.mem_append, List.mem_map] at hx
    obtain ⟨skipped, -, rfl⟩ | ⟨broken, -, rfl⟩ := hx
    · rw [name_ofSkipped]
      decide
    · rw [name_ofBroken]
      decide
  have hbroken : ∀ q : RunReport, ∀ x ∈ q.broken.map ofBroken, x.name ≠ "skipped" := by
    intro q x hx
    obtain ⟨broken, -, rfl⟩ := List.mem_map.1 hx
    rw [name_ofBroken]
    decide
  simp only [ofReport, element.injEq, List.cons.injEq, Prod.mk.injEq, true_and, and_true,
    List.append_assoc] at h
  obtain ⟨⟨hversion, hmode, -⟩, hchildren⟩ := h
  -- tasks come first, then what was skipped, then what is broken
  obtain ⟨htasks, hrest⟩ :=
    map_append_inj name_ofTask ofTask_inj (hothers r) (hothers s) hchildren
  obtain ⟨hskipped, hrest⟩ :=
    map_append_inj name_ofSkipped ofSkipped_inj (hbroken r) (hbroken s) hrest
  have herrors := (List.map_inj_right ofBroken_inj).1 hrest
  cases r
  cases s
  exact RunReport.mk.injEq .. ▸
    ⟨Version.text_inj.1 hversion, RunMode.text_inj.1 hmode, htasks, hskipped, herrors⟩

end Xml

/-- **Nothing is lost in XML**: reports are the same when their documents are, whatever texts they
hold and whether colours are on or off. -/
theorem xml_render_inj (color color' : Bool) (r s : RunReport) :
    ReportFormat.xml.render color r = ReportFormat.xml.render color' s ↔ r = s := by
  constructor
  · intro h
    exact Xml.ofReport_inj r s (Xml.write_inj (Xml.ofReport_fits r) (Xml.ofReport_fits s) h)
  · rintro rfl
    rfl

end Inspection
