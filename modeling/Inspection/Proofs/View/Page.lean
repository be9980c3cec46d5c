import Inspection.Proofs.View.Outline
import Inspection.View.Format

/-!
# View — Pages and free texts

The tags of a page depend on how many rows and notes a report has and on how serious they are, and
on none of its free texts.  These stand behind tags of their own, written by name, and are read
there as they were.

* `RunReport.withoutTexts`: what is left of a report without its free texts.
* `Html.tags_outline`: the tags of a page are those of a page without texts.
* `html_render_markup`: the tags of a page, and the free texts in it.
-/

namespace Inspection

open Markup (Part Item)

/-! ### What is left without the free texts -/

/-- The step without its texts. -/
def StepResult.withoutTexts (s : StepResult) : StepResult :=
  { s with command := "", output := "", message := none }

/-- The outcome without its reason. -/
def NodeOutcome.withoutTexts : NodeOutcome → NodeOutcome
  | .completed => .completed
  | .aborted step _ => .aborted step ""

/-- The report of a node without its texts. -/
def NodeReport.withoutTexts (r : NodeReport) : NodeReport where
  node := ""
  steps := r.steps.map StepResult.withoutTexts
  outcome := r.outcome.withoutTexts

/-- The report of a task without its texts. -/
def TaskReport.withoutTexts (r : TaskReport) : TaskReport :=
  { r with
    task := ""
    info := ""
    nodes := r.nodes.map NodeReport.withoutTexts
    unfinished := r.unfinished.map fun _ => "" }

/-- The report of a run without its texts: how many of everything there are, and every number,
version, kind, verdict and severity. -/
def RunReport.withoutTexts (r : RunReport) : RunReport :=
  { r with
    tasks := r.tasks.map TaskReport.withoutTexts
    skipped := r.skipped.map fun s => { s with task := "", reason := "" }
    broken := r.broken.map fun _ => { task := "", message := "" } }

@[simp]
theorem NodeReport.status_withoutTexts (r : NodeReport) : r.withoutTexts.status = r.status := by
  cases houtcome : r.outcome <;>
    simp [withoutTexts, status, houtcome, NodeOutcome.withoutTexts, StepResult.withoutTexts,
      Function.comp_def]

@[simp]
theorem TaskReport.status_withoutTexts (r : TaskReport) : r.withoutTexts.status = r.status := by
  simp [withoutTexts, status, Function.comp_def]

@[simp]
theorem RunReport.status_withoutTexts (r : RunReport) : r.withoutTexts.status = r.status := by
  simp [withoutTexts, status, isIncomplete, Function.comp_def]

/-! ### The tags of a page -/

theorem NodeReport.severities_withoutTexts (task task' : String) (r : NodeReport) :
    (r.withoutTexts.checkRows task').map (·.severity) = (r.checkRows task).map (·.severity) := by
  cases houtcome : r.outcome <;>
    simp [withoutTexts, checkRows, problem?, houtcome, NodeOutcome.withoutTexts,
      StepResult.withoutTexts, Function.comp_def]

theorem TaskReport.severities_withoutTexts (r : TaskReport) :
    r.withoutTexts.checkRows.map (·.severity) = r.checkRows.map (·.severity) := by
  simp [withoutTexts, checkRows, List.map_flatMap, List.flatMap_map, Function.comp_def,
    NodeReport.severities_withoutTexts r.task]

theorem NodeReport.length_displayRows_withoutTexts (task task' : String) (r : NodeReport) :
    (r.withoutTexts.displayRows task').length = (r.displayRows task).length := by
  cases houtcome : r.outcome <;>
    simp [withoutTexts, displayRows, problem?, houtcome, NodeOutcome.withoutTexts]

theorem TaskReport.length_displayRows_withoutTexts (r : TaskReport) :
    r.withoutTexts.displayRows.length = r.displayRows.length := by
  simp [withoutTexts, displayRows, List.flatMap_map, List.length_flatMap,
    NodeReport.length_displayRows_withoutTexts r.task]

namespace Html

/-- The tags of the rows of a check depend on the severities. -/
theorem tags_checkRows {xs xs' : List CheckRow} (h : xs.map (·.severity) = xs'.map (·.severity)) :
    (xs.flatMap checkItems).map (·.tag) = (xs'.flatMap checkItems).map (·.tag) := by
  have hrows (xs : List CheckRow) : (xs.flatMap checkItems).map (·.tag) =
      (xs.map (·.severity)).flatMap fun s => (checkItems ⟨"", "", "", s, ""⟩).map (·.tag) := by
    rw [List.map_flatMap, List.flatMap_map]
    rfl
  rw [hrows, hrows, h]

/-- Those of the rows of a display depend on how many there are. -/
theorem tags_displayRows {ys ys' : List DisplayRow} (h : ys.length = ys'.length) :
    (ys.flatMap displayItems).map (·.tag) = (ys'.flatMap displayItems).map (·.tag) := by
  have hrows (ys : List DisplayRow) : (ys.flatMap displayItems).map (·.tag) =
      (List.replicate ys.length ((displayItems ⟨"", "", "", "", ""⟩).map (·.tag))).flatten := by
    rw [List.map_flatMap, ← List.map_const', ← List.flatMap_def]
    rfl
  rw [hrows, hrows, h]

theorem tags_taskParts (mode : RunMode) (t : TaskReport) :
    (taskItems mode t.withoutTexts).map (·.tag) = (taskItems mode t).map (·.tag) := by
  cases mode with
  | check =>
    have hrows := tags_checkRows t.severities_withoutTexts
    simp [taskItems, taskHeadItems, rowItems, hrows]
  | display =>
    have hrows := tags_displayRows t.length_displayRows_withoutTexts
    simp [taskItems, taskHeadItems, rowItems, hrows]

theorem tags_notesParts (r : RunReport) :
    (notesItems r.withoutTexts).map (·.tag) = (notesItems r).map (·.tag) := by
  have hskipped : r.withoutTexts.skipped.isEmpty = r.skipped.isEmpty := List.isEmpty_map
  have hbroken : r.withoutTexts.broken.isEmpty = r.broken.isEmpty := List.isEmpty_map
  rw [notesItems, notesItems, hskipped, hbroken]
  split
  · rfl
  · simp only [RunReport.withoutTexts, List.map_append, List.map_flatMap, List.flatMap_map,
      noteItems, List.map_cons, Markup.tag_item]

/-- The tags of an outline do not depend on the free texts. -/
theorem tags_outline (r : RunReport) :
    (outline r.withoutTexts).map (·.tag) = (outline r).map (·.tag) := by
  have htasks : (r.withoutTexts.tasks.flatMap (taskItems r.mode)).map (·.tag) =
      (r.tasks.flatMap (taskItems r.mode)).map (·.tag) := by
    simp [RunReport.withoutTexts, List.map_flatMap, List.flatMap_map, tags_taskParts]
  have hhead : (headItems r.withoutTexts).map (·.tag) = (headItems r).map (·.tag) := by
    simp [headItems]
  have hmode : r.withoutTexts.mode = r.mode := rfl
  simp only [outline, List.map_append, hhead, htasks, hmode, tags_notesParts]

end Html

/-- **The markup of a page does not depend on the free texts.**  Two reports that are the same but
for their free texts are written with the same tags in the same order.  What is read of a page is
its outline, in which each free text that is shown has its place behind a tag: in the page it has no
character that ends a text or begins a tag, and it stands for what it was. -/
theorem html_render_markup (color : Bool) {r r' : RunReport}
    (h : r.withoutTexts = r'.withoutTexts) :
    Markup.tags (ReportFormat.html.render color r).toList
        = Markup.tags (ReportFormat.html.render color r').toList
      ∧ Markup.readText (ReportFormat.html.render color r).toList
        = ([], (Html.outline r).map Item.escaped)
      ∧ (∀ p ∈ (Markup.readText (ReportFormat.html.render color r).toList).2,
        ∀ c ∈ Markup.barred, c ∉ p.text.toList)
      ∧ (Markup.readText (ReportFormat.html.render color r).toList).2.map Part.decoded
        = (Html.outline r).map Item.toPart := by
  have htags : Markup.tags (Html.render r).toList = Markup.tags (Html.render r').toList := by
    rw [Html.tags_render, Html.tags_render, ← Html.tags_outline, h, Html.tags_outline]
  have hread : Markup.readText (ReportFormat.html.render color r).toList =
      ([], (Html.outline r).map Item.escaped) := Html.readText_render r
  rw [hread]
  refine ⟨htags, rfl, fun p hp c hc => ?_, ?_⟩
  · obtain ⟨x, -, rfl⟩ := List.mem_map.1 hp
    exact Markup.not_mem_escape hc x.text
  · rw [List.map_map]
    exact List.map_congr_left fun x _ => Markup.decoded_escaped x

/-- A node that sends tags gets them shown as text, where another has sent a word. -/
theorem html_render_markup_sent :
    let tagged := Sample.report .display "</pre><b>"
    let plain := Sample.report .display "ok"
    tagged.withoutTexts = plain.withoutTexts
      ∧ Markup.tags (ReportFormat.html.render false tagged).toList
        = Markup.tags (ReportFormat.html.render false plain).toList
      ∧ ⟨"<pre>", "&lt;/pre&gt;&lt;b&gt;"⟩
        ∈ (Markup.readText (ReportFormat.html.render false tagged).toList).2 := by
  intro tagged plain
  have hsame : tagged.withoutTexts = plain.withoutTexts := rfl
  obtain ⟨htags, hread, -, -⟩ := html_render_markup false hsame
  refine ⟨hsame, htags, ?_⟩
  rw [hread]
  decide +kernel

end Inspection
