import Inspection.Proofs.Version.Written
import Inspection.Proofs.View.Rows
import Inspection.Proofs.View.Tags

/-!
# View — The outline of a page

The outline of a page is the list of its tags, each with the text that stands behind it.  A page is
written along its outline: where it escapes a text, and where it writes a number or a label as it
is, what comes out is the text of the outline, written by name.  So its outline is what is read of
it.

* `Html.outline`: the tags of a page and the texts behind them.
* `Html.readText_render`: a page is read as its outline.
-/

namespace Inspection.Html

open Markup (Item item)

/-! ### The outline of a page -/

/-- A cell of a table with a text. -/
def cellItems (text : String) : List Item := [item "<td>" text, item "</td>" ""]

/-- The heads of the columns. -/
def headingItems (names : List String) : List Item :=
  [item "<tr>" ""] ++ names.flatMap (fun n => [item "<th>" n, item "</th>" ""])
    ++ [item "</tr>" "\n"]

theorem isTag_row (s : Severity) : Markup.IsTag ("<tr class=\"" ++ s.text ++ "\">") := by
  cases s <;> decide

/-- A row of a check: the class of its tag is the severity. -/
def checkItems (x : CheckRow) : List Item :=
  [item ("<tr class=\"" ++ x.severity.text ++ "\">") "" (isTag_row _)]
    ++ cellItems x.node ++ cellItems x.step
    ++ cellItems x.severity.label ++ cellItems x.message ++ [item "</tr>" "\n"]

/-- A row of a display. -/
def displayItems (x : DisplayRow) : List Item :=
  [item "<tr>" ""] ++ cellItems x.node ++ cellItems x.step
    ++ [item "<td>" "", item "<code>" x.command, item "</code>" "", item "</td>" ""]
    ++ [item "<td>" "", item "<pre>" x.output, item "</pre>" "", item "</td>" ""]
    ++ [item "</tr>" "\n"]

/-- The rows of a task under their heads. -/
def rowItems (mode : RunMode) (t : TaskReport) : List Item :=
  match mode with
  | .check =>
    headingItems ["Node", "Step", "Status", "Message"] ++ t.checkRows.flatMap checkItems
  | .display =>
    headingItems ["Node", "Step", "Command", "Output"] ++ t.displayRows.flatMap displayItems

/-- The head of a task: its name, its status and its description. -/
def taskHeadItems (t : TaskReport) : List Item :=
  [item "<h2>" (t.task ++ " "), item "<small>" t.status.label, item "</small>" "",
    item "</h2>" "\n", item "<p>" t.info, item "</p>" "\n", item "<table>" "\n"]

/-- A task with its rows. -/
def taskItems (mode : RunMode) (t : TaskReport) : List Item :=
  taskHeadItems t ++ rowItems mode t ++ [item "</table>" "\n"]

/-- A task that did not run, and why. -/
def noteItems (task what reason : String) : List Item :=
  [item "<li>" (task ++ " " ++ what ++ ": " ++ reason), item "</li>" "\n"]

/-- The tasks that did not run. -/
def notesItems (r : RunReport) : List Item :=
  if r.skipped.isEmpty && r.broken.isEmpty then []
  else
    [item "<ul>" "\n"] ++ r.skipped.flatMap (fun s => noteItems s.task "skipped" s.reason)
      ++ r.broken.flatMap (fun b => noteItems b.task "not loaded" b.message) ++ [item "</ul>" "\n"]

/-- The start of a page. -/
def openingItems : List Item :=
  [item "<!DOCTYPE html>" "\n", item "<html>" "", item "<head>" "",
    item "<meta charset=\"utf-8\">" "", item "<title>" "clusterdiag report", item "</title>" "",
    item "</head>" "", item "<body>" "\n"]

theorem isTag_status (s : Severity) : Markup.IsTag ("<p class=\"status " ++ s.text ++ "\">") := by
  cases s <;> decide

/-- The head of a page: the version and the status. -/
def headItems (r : RunReport) : List Item :=
  openingItems ++ [item "<h1>" ("Cluster version " ++ r.version.text), item "</h1>" "\n",
    item ("<p class=\"status " ++ r.status.text ++ "\">") ("Overall: " ++ r.status.label)
      (isTag_status _),
    item "</p>" "\n"]

/-- The tags of a page, each with the text behind it. -/
def outline (r : RunReport) : List Item :=
  headItems r ++ r.tasks.flatMap (taskItems r.mode) ++ notesItems r
    ++ [item "</body>" "", item "</html>" "\n"]

/-! ### The page is written along its outline -/

/-- A piece as it is written. -/
def Piece.chars (p : Piece) : List Char := p.written.toList

/-- The pieces are written as the items are. -/
def Writes (pieces : List Piece) (items : List Item) : Prop :=
  pieces.flatMap Piece.chars = items.flatMap Item.chars

instance (pieces : List Piece) (items : List Item) : Decidable (Writes pieces items) :=
  inferInstanceAs (Decidable (_ = _))

variable {pieces pieces' : List Piece} {items items' : List Item}

theorem Writes.append (h : Writes pieces items) (h' : Writes pieces' items') :
    Writes (pieces ++ pieces') (items ++ items') := by
  rw [Writes, List.flatMap_append, List.flatMap_append, h, h']

theorem Writes.flatMap {α : Type} {f : α → List Piece} {g : α → List Item} {l : List α}
    (h : ∀ a ∈ l, Writes (f a) (g a)) : Writes (l.flatMap f) (l.flatMap g) := by
  induction l with
  | nil => rfl
  | cons a l ih =>
    obtain ⟨ha, hl⟩ := List.forall_mem_cons.1 h
    exact ha.append (ih hl)

@[simp]
theorem chars_markup (s : String) : (Piece.markup s).chars = s.toList := rfl

@[simp]
theorem chars_item (tag text : String) (h : Markup.IsTag tag) :
    (item tag text h).chars = tag.toList ++ Markup.escapeChars text.toList := rfl

@[simp]
theorem chars_text (s : String) : (Piece.text s).chars = Markup.escapeChars s.toList :=
  String.toList_ofList

/-! What the program writes of its own has no character with a name. -/

@[simp]
theorem escapeChars_label (s : Severity) :
    Markup.escapeChars s.label.toList = s.label.toList := by
  cases s <;> decide

theorem notMem_named_of_isDigit {c : Char} (hc : c.isDigit = true) : c ∉ Markup.named := by
  have hnamed : Markup.named.all (fun d => !d.isDigit) = true := by decide
  intro h
  simpa [hc] using List.all_eq_true.1 hnamed c h

@[simp]
theorem escapeChars_version (v : Version) :
    Markup.escapeChars v.text.toList = v.text.toList := by
  have hmarks : ('.' :: Version.latestWord).all (fun c => !Markup.named.contains c) = true := by
    decide
  refine Markup.escapeChars_of_plain fun c hc => ?_
  rw [Version.text, String.toList_ofList] at hc
  rcases Version.mem_toChars hc with hd | rfl | hl
  · exact notMem_named_of_isDigit hd
  · simpa using List.all_eq_true.1 hmarks _ (List.mem_cons_self ..)
  · simpa using List.all_eq_true.1 hmarks c (List.mem_cons_of_mem _ hl)

theorem escapeChars_empty : Markup.escapeChars "".toList = [] := rfl

theorem escapeChars_blank : Markup.escapeChars " ".toList = " ".toList := rfl

theorem escapeChars_break : Markup.escapeChars "\n".toList = "\n".toList := rfl

theorem escapeChars_step {t : TaskReport} {task node step : String}
    (h : (task, node, step) ∈ t.keys) : Markup.escapeChars step.toList = step.toList := by
  obtain ⟨-, ⟨_, -, -, i, rfl⟩ | ⟨-, rfl⟩⟩ := TaskReport.mem_keys h
  · refine Markup.escapeChars_of_plain fun c hc => ?_
    rw [Text.natText, String.toList_ofList] at hc
    exact notMem_named_of_isDigit (Text.isDigit_of_mem_digits hc)
  · decide

theorem writes_cell (text : String) : Writes (cell [.text text]) (cellItems text) := by
  simp [Writes, cell, cellItems]

theorem writes_cell_markup {text : String}
    (h : Markup.escapeChars text.toList = text.toList) :
    Writes (cell [.markup text]) (cellItems text) := by
  simp [Writes, cell, cellItems, h]

theorem writes_checkRow {t : TaskReport} {x : CheckRow} (hx : x ∈ t.checkRows) :
    Writes (checkRow x) (checkItems x) := by
  have hstep := writes_cell_markup (escapeChars_step (t.key_mem_keys_of_checkRows hx))
  have hlabel := writes_cell_markup (escapeChars_label x.severity)
  have hbegin : Writes [.markup ("<tr class=\"" ++ x.severity.text ++ "\">")]
      [item ("<tr class=\"" ++ x.severity.text ++ "\">") "" (isTag_row _)] := by
    simp [Writes]
  have hend : Writes [.markup "</tr>\n"] [item "</tr>" "\n"] := rfl
  exact ((((hbegin.append (writes_cell x.node)).append hstep).append hlabel).append
    (writes_cell x.message)).append hend

theorem writes_displayRow {t : TaskReport} {y : DisplayRow} (hy : y ∈ t.displayRows) :
    Writes (displayRow y) (displayItems y) := by
  have hstep := writes_cell_markup (escapeChars_step (t.key_mem_keys_of_displayRows hy))
  have hbegin : Writes [.markup "<tr>"] [item "<tr>" ""] := rfl
  have hcommand : Writes (cell [.markup "<code>", .text y.command, .markup "</code>"])
      [item "<td>" "", item "<code>" y.command, item "</code>" "", item "</td>" ""] := by
    simp [Writes, cell]
  have houtput : Writes (cell [.markup "<pre>", .text y.output, .markup "</pre>"])
      [item "<td>" "", item "<pre>" y.output, item "</pre>" "", item "</td>" ""] := by
    simp [Writes, cell]
  have hend : Writes [.markup "</tr>\n"] [item "</tr>" "\n"] := rfl
  exact ((((hbegin.append (writes_cell y.node)).append hstep).append hcommand).append
    houtput).append hend

theorem writes_rows (mode : RunMode) (t : TaskReport) : Writes (rows mode t) (rowItems mode t) := by
  cases mode with
  | check =>
    have hheads : Writes [headings ["Node", "Step", "Status", "Message"]]
        (headingItems ["Node", "Step", "Status", "Message"]) := by decide +kernel
    exact hheads.append (.flatMap fun x => writes_checkRow)
  | display =>
    have hheads : Writes [headings ["Node", "Step", "Command", "Output"]]
        (headingItems ["Node", "Step", "Command", "Output"]) := by decide +kernel
    exact hheads.append (.flatMap fun y => writes_displayRow)

theorem writes_taskHead (t : TaskReport) :
    Writes
      [.markup "<h2>", .text t.task, .markup (" <small>" ++ t.status.label ++ "</small></h2>\n<p>"),
        .text t.info, .markup "</p>\n<table>\n"]
      (taskHeadItems t) := by
  have hsmall : " <small>".toList = " ".toList ++ "<small>".toList := by decide +kernel
  have hbetween : "</small></h2>\n<p>".toList =
      "</small>".toList ++ ("</h2>".toList ++ ("\n".toList ++ "<p>".toList)) := by decide +kernel
  have hend : "</p>\n<table>\n".toList =
      "</p>".toList ++ ("\n".toList ++ ("<table>".toList ++ "\n".toList)) := by decide +kernel
  simp only [Writes, taskHeadItems, List.flatMap_cons, List.flatMap_nil, chars_markup, chars_text,
    chars_item, String.toList_append, Markup.escapeChars_append, escapeChars_label,
    escapeChars_blank, escapeChars_break, escapeChars_empty, hsmall, hbetween, hend,
    List.append_assoc, List.append_nil]

theorem writes_taskSection (mode : RunMode) (t : TaskReport) :
    Writes (taskSection mode t) (taskItems mode t) := by
  have hend : Writes [.markup "</table>\n"] [item "</table>" "\n"] := rfl
  exact ((writes_taskHead t).append (writes_rows mode t)).append hend

theorem writes_note (task reason : String) {what : String}
    (hwhat : Markup.escapeChars what.toList = what.toList) :
    Writes (note task what reason) (noteItems task what reason) := by
  have hend : "</li>\n".toList = "</li>".toList ++ "\n".toList := by decide +kernel
  have hcolon : Markup.escapeChars ": ".toList = ": ".toList := by decide +kernel
  simp only [Writes, note, noteItems, List.flatMap_cons, List.flatMap_nil, chars_markup, chars_text,
    chars_item, String.toList_append, Markup.escapeChars_append, escapeChars_blank,
    escapeChars_break, hwhat, hcolon, hend, List.append_assoc, List.append_nil]

theorem writes_notes (r : RunReport) : Writes (notes r) (notesItems r) := by
  rw [notes, notesItems]
  split
  · rfl
  · have hskipped : Writes (r.skipped.flatMap fun s => note s.task "skipped" s.reason)
        (r.skipped.flatMap fun s => noteItems s.task "skipped" s.reason) :=
      .flatMap fun s _ => writes_note s.task s.reason (by decide)
    have hbroken : Writes (r.broken.flatMap fun b => note b.task "not loaded" b.message)
        (r.broken.flatMap fun b => noteItems b.task "not loaded" b.message) :=
      .flatMap fun b _ => writes_note b.task b.message (by decide)
    exact .append (.append (.append rfl hskipped) hbroken) rfl

theorem writes_head (r : RunReport) :
    Writes [.markup opening, .text r.version.text,
      .markup ("</h1>\n<p class=\"status " ++ r.status.text ++ "\">Overall: " ++ r.status.label
        ++ "</p>\n")] (headItems r) := by
  have hopening : opening.toList =
      openingItems.flatMap Item.chars ++ ("<h1>".toList ++ "Cluster version ".toList) := by
    decide +kernel
  have hbetween : "</h1>\n<p class=\"status ".toList =
      "</h1>".toList ++ ("\n".toList ++ "<p class=\"status ".toList) := by decide +kernel
  have hoverall : "\">Overall: ".toList = "\">".toList ++ "Overall: ".toList := by decide +kernel
  have hend : "</p>\n".toList = "</p>".toList ++ "\n".toList := by decide +kernel
  have hversion : Markup.escapeChars "Cluster version ".toList = "Cluster version ".toList := by
    decide +kernel
  have hstatus : Markup.escapeChars "Overall: ".toList = "Overall: ".toList := by decide +kernel
  simp only [Writes, headItems, List.flatMap_append, List.flatMap_cons, List.flatMap_nil,
    chars_markup, chars_text, chars_item, String.toList_append, Markup.escapeChars_append,
    escapeChars_label, escapeChars_version, escapeChars_break, hopening, hbetween, hoverall, hend,
    hversion, hstatus, List.append_assoc, List.append_nil]

/-- A page is written along its outline. -/
theorem writes_page (r : RunReport) : Writes (page r) (outline r) := by
  have htasks :
      Writes (r.tasks.flatMap (taskSection r.mode)) (r.tasks.flatMap (taskItems r.mode)) :=
    .flatMap fun t _ => writes_taskSection r.mode t
  have hend : Writes [.markup "</body></html>\n"] [item "</body>" "", item "</html>" "\n"] := rfl
  exact (((writes_head r).append htasks).append (writes_notes r)).append hend

/-! ### The page is read as its outline -/

/-- **A page is read as its outline.** -/
theorem readText_render (r : RunReport) :
    Markup.readText (render r).toList = ([], (outline r).map Item.escaped) := by
  have hchars : (render r).toList = (page r).flatMap Piece.chars := by
    rw [render, String.toList_join, List.flatMap_map]
    rfl
  rw [hchars, writes_page r, Markup.readText_written]

/-- Its tags are the tags of its outline. -/
theorem tags_render (r : RunReport) :
    Markup.tags (render r).toList = (outline r).map (·.tag) := by
  rw [Markup.tags, readText_render, List.map_map]
  rfl

end Inspection.Html
