import Inspection.Proofs.Files.Tree
import Inspection.Proofs.View.Rows
import Inspection.Proofs.View.Table
import Inspection.Proofs.View.WellFormed
import Inspection.View.Export

/-!
# View — Colour codes in files

A file is written without colours: no label of a report is set off in it.  But the free texts of a
report are written as they are, and what a node has sent may hold the codes of a terminal.  So a
file has an escape character exactly when a free text that it shows has one.

* `HasEscape`, `AnyEscape`: a text, or one of several, has an escape character.
* `Terminal.rowTexts`, `Terminal.noteTexts`: the free texts in a table and in the lines below it.
* `Terminal.hasEscape_render`: when a report without colours has an escape character.
* `export_table_escape`: when the file of a table has one.
* `export_table_colored`: a file that has one.
-/

namespace Inspection

/-- The character that a colour code begins with. -/
def escapeCharacter : Char := '\x1b'

/-- A text has an escape character. -/
def HasEscape (s : String) : Prop := escapeCharacter ∈ s.toList

instance : DecidablePred HasEscape := fun s =>
  inferInstanceAs (Decidable (escapeCharacter ∈ s.toList))

/-- One of several texts has an escape character. -/
def AnyEscape (l : List String) : Prop := ∃ s ∈ l, HasEscape s

instance : DecidablePred AnyEscape := fun l => inferInstanceAs (Decidable (∃ s ∈ l, HasEscape s))

variable {s t : String} {l m : List String}

@[simp]
theorem hasEscape_append : HasEscape (s ++ t) ↔ HasEscape s ∨ HasEscape t := by
  simp [HasEscape]

@[simp]
theorem anyEscape_nil : ¬AnyEscape [] := by simp [AnyEscape]

@[simp]
theorem anyEscape_cons : AnyEscape (s :: l) ↔ HasEscape s ∨ AnyEscape l := by simp [AnyEscape]

@[simp]
theorem anyEscape_append : AnyEscape (l ++ m) ↔ AnyEscape l ∨ AnyEscape m := by
  simp [AnyEscape, or_and_right, exists_or]

@[simp]
theorem anyEscape_map {α : Type} {f : α → String} {l : List α} :
    AnyEscape (l.map f) ↔ ∃ a ∈ l, HasEscape (f a) := by simp [AnyEscape]

@[simp]
theorem anyEscape_flatMap {α : Type} {f : α → List String} {l : List α} :
    AnyEscape (l.flatMap f) ↔ ∃ a ∈ l, AnyEscape (f a) := by
  simp only [AnyEscape, List.mem_flatMap]
  constructor
  · rintro ⟨s, ⟨a, ha, hs⟩, h⟩
    exact ⟨a, ha, s, hs, h⟩
  · rintro ⟨a, ha, s, hs, h⟩
    exact ⟨s, ⟨a, ha, hs⟩, h⟩

/-! ### Labels and numbers -/

@[simp]
theorem Emphasis.apply_false (e : Emphasis) (s : String) : e.apply false s = s := rfl

@[simp]
theorem Severity.styled_false (s : Severity) : s.styled false = s.label := rfl

@[simp]
theorem not_hasEscape_label (s : Severity) : ¬HasEscape s.label := by
  cases s <;> decide

@[simp]
theorem not_hasEscape_natText (n : Nat) : ¬HasEscape (Text.natText n) := by
  intro h
  rw [HasEscape, Text.natText, String.toList_ofList] at h
  exact absurd (Text.isDigit_of_mem_digits h) (by decide)

@[simp]
theorem not_hasEscape_version (v : Version) : ¬HasEscape v.text := by
  intro h
  rw [HasEscape, Version.text, String.toList_ofList] at h
  rcases Version.mem_toChars h with h | h | h
  · exact absurd h (by decide)
  · exact absurd h (by decide)
  · exact absurd h (by decide)

theorem anyEscape_of_mem (hs : s ∈ l) (h : HasEscape s) : AnyEscape l := ⟨s, hs, h⟩

/-! ### The texts of rows -/

/-- The free texts of a row of a check. -/
def CheckRow.texts (x : CheckRow) : List String := [x.task, x.node, x.message]

/-- The free texts of a row of a display. -/
def DisplayRow.texts (x : DisplayRow) : List String := [x.task, x.node, x.command, x.output]

variable {t : TaskReport} {x : CheckRow} {y : DisplayRow} {task node step : String}

theorem NodeReport.mem_texts {r : NodeReport} (hr : r ∈ t.nodes) (hs : s ∈ r.texts) :
    s ∈ t.texts :=
  List.mem_append_left _ (List.mem_append_right _ (List.mem_flatMap_of_mem hr hs))

theorem StepResult.mem_texts {r : NodeReport} {s' : StepResult} (hr : r ∈ t.nodes)
    (hs' : s' ∈ r.steps) (hs : s ∈ s'.texts) : s ∈ t.texts :=
  NodeReport.mem_texts hr
    (List.mem_append_left _ (List.mem_append_right _ (List.mem_flatMap_of_mem hs' hs)))

/-- The reason that a row gives for an abort is the one of the report. -/
theorem NodeReport.reason_mem_texts {r : NodeReport} {reason : String}
    (hr : r ∈ t.nodes) (h : r.problem? = some (step, reason)) : reason ∈ t.texts := by
  refine NodeReport.mem_texts hr (List.mem_append_right _ ?_)
  cases houtcome : r.outcome with
  | completed => simp [problem?, houtcome] at h
  | aborted i reason' =>
    simp only [problem?, houtcome, Option.some.injEq, Prod.mk.injEq] at h
    exact List.mem_singleton.2 h.2.symm

/-- What a row is about: two free texts of the report, and a step, which is none. -/
theorem TaskReport.texts_of_mem_keys (h : (task, node, step) ∈ t.keys) :
    task ∈ t.texts ∧ node ∈ t.texts ∧ ¬HasEscape step := by
  have htask : t.task ∈ t.texts := by simp [texts]
  obtain ⟨rfl, ⟨r, hr, rfl, i, rfl⟩ | ⟨hnode, rfl⟩⟩ := mem_keys h
  · exact ⟨htask, r.mem_texts hr (by simp [NodeReport.texts]), not_hasEscape_natText i⟩
  · exact ⟨htask, List.mem_append_right _ hnode, by decide⟩

theorem CheckRow.texts_of_key (hx : x ∈ t.checkRows) :
    x.task ∈ t.texts ∧ x.node ∈ t.texts ∧ ¬HasEscape x.step :=
  TaskReport.texts_of_mem_keys (TaskReport.key_mem_keys_of_checkRows hx)

theorem DisplayRow.texts_of_key (hy : y ∈ t.displayRows) :
    y.task ∈ t.texts ∧ y.node ∈ t.texts ∧ ¬HasEscape y.step :=
  TaskReport.texts_of_mem_keys (TaskReport.key_mem_keys_of_displayRows hy)

/-- A message is a text of the report, or a wording of the program's own. -/
theorem CheckRow.anyEscape_of_message (hx : x ∈ t.checkRows) (h : HasEscape x.message) :
    AnyEscape t.texts := by
  simp only [TaskReport.checkRows, NodeReport.checkRows, List.mem_append, List.mem_flatMap,
    List.mem_map, Option.mem_toList, Option.map_eq_some_iff] at hx
  rcases hx with ⟨r, hr, ⟨s, hs, rfl⟩ | ⟨⟨_, reason⟩, hproblem, rfl⟩⟩ | ⟨node, -, rfl⟩
  · cases hm : s.message with
    | none =>
      rw [hm] at h
      exact absurd h (by decide : ¬HasEscape "")
    | some m =>
      rw [hm] at h
      exact anyEscape_of_mem (StepResult.mem_texts hr hs (by simp [StepResult.texts, hm])) h
  · exact anyEscape_of_mem (NodeReport.reason_mem_texts hr hproblem) h
  · exact absurd h (by decide : ¬HasEscape unfinishedText)

/-- So are a command and an output. -/
theorem DisplayRow.anyEscape_of_output (hy : y ∈ t.displayRows)
    (h : HasEscape y.command ∨ HasEscape y.output) : AnyEscape t.texts := by
  have hnone : ¬HasEscape "" := by decide
  have herror : ¬HasEscape "error: " := by decide
  simp only [TaskReport.displayRows, NodeReport.displayRows, List.mem_append, List.mem_flatMap,
    List.mem_map, Option.mem_toList, Option.map_eq_some_iff] at hy
  rcases hy with ⟨r, hr, ⟨s, hs, rfl⟩ | ⟨⟨_, reason⟩, hproblem, rfl⟩⟩ | ⟨node, -, rfl⟩
  · rcases h with h | h
    · exact anyEscape_of_mem (StepResult.mem_texts hr hs (by simp [StepResult.texts])) h
    · exact anyEscape_of_mem (StepResult.mem_texts hr hs (by simp [StepResult.texts])) h
  · have hreason := (hasEscape_append.1 (h.resolve_left hnone)).resolve_left herror
    exact anyEscape_of_mem (NodeReport.reason_mem_texts hr hproblem) hreason
  · exact absurd (h.resolve_left hnone) (by decide : ¬HasEscape ("error: " ++ unfinishedText))

/-- The texts of a row are free texts of the report, or wordings of the program's own. -/
theorem CheckRow.anyEscape_of_texts (hx : x ∈ t.checkRows) (h : AnyEscape x.texts) :
    AnyEscape t.texts := by
  obtain ⟨htask, hnode, -⟩ := texts_of_key hx
  simp only [texts, anyEscape_cons, anyEscape_nil, or_false] at h
  rcases h with h | h | h
  · exact anyEscape_of_mem htask h
  · exact anyEscape_of_mem hnode h
  · exact anyEscape_of_message hx h

theorem DisplayRow.anyEscape_of_texts (hy : y ∈ t.displayRows) (h : AnyEscape y.texts) :
    AnyEscape t.texts := by
  obtain ⟨htask, hnode, -⟩ := texts_of_key hy
  simp only [texts, anyEscape_cons, anyEscape_nil, or_false] at h
  rcases h with h | h | h
  · exact anyEscape_of_mem htask h
  · exact anyEscape_of_mem hnode h
  · exact anyEscape_of_output hy h

/-! ### A table and the lines around it -/

namespace Terminal

/-- The free texts in the rows of a report's table. -/
def rowTexts (r : RunReport) : List String :=
  match r.mode with
  | .check => (r.tasks.flatMap TaskReport.checkRows).flatMap CheckRow.texts
  | .display => (r.tasks.flatMap TaskReport.displayRows).flatMap DisplayRow.texts

/-- The free texts in the lines below the table: what did not run, and in a check every task. -/
def noteTexts (r : RunReport) : List String :=
  r.skipped.flatMap SkippedTask.texts ++ r.broken.flatMap BrokenTask.texts
    ++ match r.mode with
      | .check => r.tasks.map (·.task)
      | .display => []

variable {r : RunReport}

theorem table_isFull (r : RunReport) : (table r).IsFull := by
  intro row hrow
  cases hmode : r.mode with
  | check =>
    simp only [table, hmode] at hrow ⊢
    obtain ⟨x, -, rfl⟩ := List.mem_map.1 hrow
    rfl
  | display =>
    simp only [table, hmode] at hrow ⊢
    obtain ⟨y, -, rfl⟩ := List.mem_map.1 hrow
    rfl

theorem not_anyEscape_header (r : RunReport) : ¬AnyEscape (table r).header := by
  cases hmode : r.mode <;> simp only [table, hmode] <;> decide

theorem anyEscape_checkCells (hx : x ∈ t.checkRows) :
    AnyEscape (checkCells x) ↔ AnyEscape x.texts := by
  obtain ⟨-, -, hstep⟩ := x.texts_of_key hx
  simp [checkCells, CheckRow.texts, hstep]

theorem anyEscape_displayCells (hy : y ∈ t.displayRows) :
    AnyEscape (displayCells y) ↔ AnyEscape y.texts := by
  obtain ⟨-, -, hstep⟩ := y.texts_of_key hy
  simp [displayCells, DisplayRow.texts, hstep]

/-- A table has an escape character exactly if a free text in one of its rows has one. -/
theorem hasEscape_table (r : RunReport) :
    HasEscape (table r).render ↔ AnyEscape (rowTexts r) := by
  have hcells : HasEscape (table r).render ↔
      AnyEscape (table r).header ∨ ∃ row ∈ (table r).rows, AnyEscape row := by
    rw [HasEscape, Table.mem_render_iff (by decide) (table_isFull r), List.exists_mem_cons_iff]
    exact Iff.rfl
  rw [hcells, or_iff_right (not_anyEscape_header r)]
  cases hmode : r.mode with
  | check =>
    simp only [table, rowTexts, hmode, List.mem_map, exists_exists_and_eq_and, anyEscape_flatMap]
    refine exists_congr fun x => and_congr_right fun hx => ?_
    obtain ⟨t, -, hx⟩ := List.mem_flatMap.1 hx
    exact anyEscape_checkCells hx
  | display =>
    simp only [table, rowTexts, hmode, List.mem_map, exists_exists_and_eq_and, anyEscape_flatMap]
    refine exists_congr fun y => and_congr_right fun hy => ?_
    obtain ⟨t, -, hy⟩ := List.mem_flatMap.1 hy
    exact anyEscape_displayCells hy

theorem hasEscape_unlines (ls : List String) : HasEscape (unlines ls) ↔ AnyEscape ls := by
  have hbreak : escapeCharacter ≠ '\n' := by decide
  simp [HasEscape, AnyEscape, unlines, String.toList_join, hbreak]

theorem hasEscape_note {mark task what reason : String} (hmark : ¬HasEscape mark)
    (hwhat : ¬HasEscape what) :
    HasEscape (note mark task what reason) ↔ HasEscape task ∨ HasEscape reason := by
  have hmarks : ∀ s ∈ ["  ", " ", ": "], ¬HasEscape s := by decide
  simp only [List.forall_mem_cons] at hmarks
  simp [note, hmark, hwhat, hmarks]

/-- **A report without colours has an escape character exactly if a free text that it shows has
one.** -/
theorem hasEscape_render (r : RunReport) :
    HasEscape (render false r) ↔ AnyEscape (rowTexts r ++ noteTexts r) := by
  have hskipped (s : SkippedTask) :
      HasEscape (note "○" s.task "skipped" s.reason) ↔ AnyEscape s.texts := by
    rw [hasEscape_note (by decide) (by decide)]
    simp [SkippedTask.texts]
  have hbroken (b : BrokenTask) : HasEscape (brokenNote false b) ↔ AnyEscape b.texts := by
    rw [brokenNote, Emphasis.apply_false, hasEscape_note (by decide) (by decide)]
    simp [BrokenTask.texts]
  have htable : AnyEscape (if r.tasks.isEmpty then [] else [(table r).render, ""]) ↔
      AnyEscape (rowTexts r) := by
    cases htasks : r.tasks with
    | nil => cases hmode : r.mode <;> simp [rowTexts, htasks, hmode]
    | cons t ts =>
      have hnone : ¬HasEscape "" := by decide
      simp [hasEscape_table, hnone]
  have hmarks : ∀ s ∈ ["Cluster version: ", " ", "", "  ", "Overall: "], ¬HasEscape s := by decide
  simp only [List.forall_mem_cons] at hmarks
  rw [render, hasEscape_unlines]
  simp only [lines, noteTexts, anyEscape_append, htable]
  cases hmode : r.mode <;> simp [hskipped, hbroken, hmarks, or_assoc]

/-- What a table shows of a report are free texts of it. -/
theorem anyEscape_texts (h : AnyEscape (rowTexts r ++ noteTexts r)) : AnyEscape r.texts := by
  simp only [RunReport.texts, anyEscape_append, anyEscape_flatMap]
  rcases anyEscape_append.1 h with hrow | hnote
  · refine .inl (.inl ?_)
    cases hmode : r.mode with
    | check =>
      simp only [rowTexts, hmode, anyEscape_flatMap, List.mem_flatMap] at hrow
      obtain ⟨x, ⟨t, ht, hx⟩, hrow⟩ := hrow
      exact ⟨t, ht, x.anyEscape_of_texts hx hrow⟩
    | display =>
      simp only [rowTexts, hmode, anyEscape_flatMap, List.mem_flatMap] at hrow
      obtain ⟨y, ⟨t, ht, hy⟩, hrow⟩ := hrow
      exact ⟨t, ht, y.anyEscape_of_texts hy hrow⟩
  · simp only [noteTexts, anyEscape_append, anyEscape_flatMap] at hnote
    rcases hnote with (hskipped | hbroken) | hname
    · exact .inl (.inr hskipped)
    · exact .inr hbroken
    · cases hmode : r.mode with
      | check =>
        simp only [hmode, anyEscape_map] at hname
        obtain ⟨t, ht, hname⟩ := hname
        exact .inl (.inl ⟨t, ht, anyEscape_of_mem (List.mem_append_left _ (by simp)) hname⟩)
      | display => simp [hmode] at hname

end Terminal

/-! ### A file -/

variable {r : RunReport} {f : ReportFormat} {store path time : String} {parts : List String}
  {tree written : Files.Entry}

/-- A report that was exported stands at its path, as it is written without colours. -/
theorem hasFile_exportReport
    (h : exportReport r f store parts time tree = .ok (written, path)) :
    written.HasFile (parts ++ [reportFileName r.mode f time]) (Text.encode (f.render false r)) := by
  simp only [exportReport] at h
  split at h
  · cases h
  · split at h
    · cases h
    · split at h
      · obtain ⟨rfl, -⟩ := Prod.mk.inj (Except.ok.inj h)
        exact Files.Entry.find?_put? ‹_›
      · cases h

/-- **When the file of a table has a colour code.**  The file that an export writes for the format
`table` has an escape character exactly if a free text in one of its rows or in one of the lines
below them has one; nothing that the program writes of its own has any.  So a report whose free
texts have none is exported without. -/
theorem export_table_escape
    (h : exportReport r .table store parts time tree = .ok (written, path)) :
    ∃ text, written.HasFile (parts ++ [reportFileName r.mode .table time]) (Text.encode text)
      ∧ text = ReportFormat.table.render false r
      ∧ (HasEscape text ↔ AnyEscape (Terminal.rowTexts r ++ Terminal.noteTexts r))
      ∧ (¬AnyEscape r.texts → ¬HasEscape text) := by
  have hshown := Terminal.hasEscape_render r
  refine ⟨_, hasFile_exportReport h, rfl, hshown, fun hnone hescape => ?_⟩
  exact hnone (Terminal.anyEscape_texts (hshown.1 hescape))

/-- A display of a plain word is exported without colours. -/
theorem export_table_escape_plain :
    let plain := Sample.report .display "red"
    ∃ written path text,
      exportReport plain .table "out" ["out"] "2024-03-09-14-05-07" .empty = .ok (written, path)
        ∧ written.HasFile
          ["out", "clusterdiag_display_report_2024-03-09-14-05-07.table"] (Text.encode text)
        ∧ text = ReportFormat.table.render false plain
        ∧ ¬AnyEscape plain.texts ∧ ¬HasEscape text := by
  intro plain
  have hexport : exportReport plain .table "out" ["out"] "2024-03-09-14-05-07" .empty
      = .ok (_, _) := rfl
  have hnone : ¬AnyEscape plain.texts := by decide
  obtain ⟨text, hfile, htext, -, hplain⟩ := export_table_escape hexport
  exact ⟨_, _, text, hexport, hfile, htext, hnone, hplain hnone⟩

/-- The colours of a word that a node has sent stand in the file. -/
theorem export_table_colored :
    ∃ written path,
      exportReport (Sample.report .display "\x1b[31mred") .table "out" ["out"]
          "2024-03-09-14-05-07" .empty = .ok (written, path)
        ∧ ∃ text, written.HasFile
            ["out", "clusterdiag_display_report_2024-03-09-14-05-07.table"] (Text.encode text)
          ∧ HasEscape text := by
  have hexport : exportReport (Sample.report .display "\x1b[31mred") .table "out" ["out"]
      "2024-03-09-14-05-07" .empty = .ok (_, _) := rfl
  have hshown : AnyEscape (Terminal.rowTexts (Sample.report .display "\x1b[31mred")
      ++ Terminal.noteTexts (Sample.report .display "\x1b[31mred")) := by decide
  exact ⟨_, _, hexport, _, hasFile_exportReport hexport, (Terminal.hasEscape_render _).2 hshown⟩

end Inspection
