import Inspection.Proofs.View.XmlDocument
import Inspection.View.Xml

/-!
# View — The shape of a tree

Elements that hold elements are written on lines of their own, and an element that holds a text is
written around it.  Which of the two a name has is fixed, so an element without elements is not
taken for one with a text of white space.

* `Fits`: names are names, and an element holds what its name says.
* `ofReport_fits`: the tree of a report has that shape.
-/

namespace Inspection

namespace Xml

/-- What an element holds. -/
inductive Holding where
  | elements
  | text
  | nothing
deriving DecidableEq, Repr

/-- The name of a tree. -/
def name : Xml → String
  | .element name _ _ => name
  | .content name _ _ => name
  | .closed name _ => name

/-- An element and its attributes have names, each attribute its own. -/
structure Named (name : String) (attributes : List String) : Prop where
  isName_name : isName name.toList = true
  isName_attribute : ∀ a ∈ attributes, isName a.toList = true
  nodup : attributes.Nodup

instance (name : String) (attributes : List String) : Decidable (Named name attributes) :=
  decidable_of_iff (isName name.toList = true ∧ (∀ a ∈ attributes, isName a.toList = true)
    ∧ attributes.Nodup)
      ⟨fun h => ⟨h.1, h.2.1, h.2.2⟩, fun h => ⟨h.isName_name, h.isName_attribute, h.nodup⟩⟩

/-- A tree whose elements hold what their names say. -/
inductive Fits (holds : String → Holding) : Xml → Prop where
  | element {name : String} {attributes : List (String × String)} {children : List Xml}
      (hname : Named name (attributes.map Prod.fst)) (hholds : holds name = .elements)
      (hchildren : ∀ x ∈ children, Fits holds x) : Fits holds (.element name attributes children)
  | content {name : String} {attributes : List (String × String)} (text : String)
      (hname : Named name (attributes.map Prod.fst)) (hholds : holds name = .text) :
      Fits holds (.content name attributes text)
  | closed {name : String} {attributes : List (String × String)}
      (hname : Named name (attributes.map Prod.fst)) (hholds : holds name = .nothing) :
      Fits holds (.closed name attributes)

/-! ### The shape of a report -/

/-- What the elements of a report hold. -/
def reportHolding (name : String) : Holding :=
  if name ∈ ["report", "task", "node", "step"] then .elements
  else if name = "unfinished" then .nothing
  else .text

theorem ofStep_fits (s : StepResult) : Fits reportHolding (ofStep s) := by
  have htext : ∀ name ∈ ["command", "output", "message"],
      Named name [] ∧ reportHolding name = .text := by decide
  refine .element (show Named "step" ["index", "kind", "verdict", "severity"] by decide)
    (by decide) fun x hx => ?_
  obtain ⟨name, hname, text, rfl⟩ : ∃ name ∈ ["command", "output", "message"],
      ∃ text, x = .content name [] text := by
    simp only [List.mem_append, List.mem_cons, List.not_mem_nil, or_false, Option.mem_toList,
      Option.map_eq_some_iff] at hx
    obtain (rfl | rfl) | ⟨m, -, rfl⟩ := hx
    · exact ⟨"command", by decide, _, rfl⟩
    · exact ⟨"output", by decide, _, rfl⟩
    · exact ⟨"message", by decide, _, rfl⟩
  exact .content text (htext name hname).1 (htext name hname).2

theorem ofOutcome_fits (o : NodeOutcome) : ∀ x ∈ ofOutcome o, Fits reportHolding x := by
  cases o with
  | completed => exact fun x hx => nomatch hx
  | aborted step reason =>
    intro x hx
    obtain rfl := List.mem_singleton.1 hx
    exact .content reason (show Named "aborted" ["step"] by decide) (by decide)

theorem ofNode_fits (r : NodeReport) : Fits reportHolding (ofNode r) := by
  refine .element (show Named "node" ["id", "status"] by decide) (by decide) fun x hx => ?_
  obtain hx | hx := List.mem_append.1 hx
  · obtain ⟨s, -, rfl⟩ := List.mem_map.1 hx
    exact ofStep_fits s
  · exact ofOutcome_fits r.outcome x hx

theorem ofTask_fits (r : TaskReport) : Fits reportHolding (ofTask r) := by
  refine .element (show Named "task" ["name", "range", "status"] by decide) (by decide)
    fun x hx => ?_
  simp only [List.mem_append, List.mem_singleton, List.mem_map] at hx
  obtain (rfl | ⟨node, -, rfl⟩) | ⟨node, -, rfl⟩ := hx
  · exact .content r.info (show Named "info" [] by decide) (by decide)
  · exact ofNode_fits node
  · exact .closed (show Named "unfinished" ["node"] by decide) (by decide)

/-- **The tree of a report has the shape of reports.** -/
theorem ofReport_fits (r : RunReport) : Fits reportHolding (ofReport r) := by
  refine .element (show Named "report" ["version", "mode", "status"] by decide) (by decide)
    fun x hx => ?_
  simp only [List.mem_append, List.mem_map] at hx
  obtain (⟨task, -, rfl⟩ | ⟨skipped, -, rfl⟩) | ⟨broken, -, rfl⟩ := hx
  · exact ofTask_fits task
  · exact .content skipped.reason (show Named "skipped" ["task", "interrupted"] by decide)
      (by decide)
  · exact .content broken.message (show Named "config_error" ["task"] by decide) (by decide)

end Xml

end Inspection
