import Inspection.Proofs.Text.Pieces
import Inspection.View.Table
import Mathlib.Data.List.GetD

/-!
# View — The characters of a table

A table is drawn with lines, blanks and line ends.  Every other character that it has is a character
of a cell, and no character of a cell gets lost on the way.

* `Table.IsFull`: every row has a cell for each column.
* `Table.mem_render_iff`: the characters of a table are those of its cells.
-/

namespace Inspection.Table

/-- The characters that a table is drawn with. -/
def drawn : List Char := "─│╭┬╮├┼┤╰┴╯ \n".toList

/-- Every row has a cell for each column. -/
def IsFull (t : Table) : Prop := ∀ row ∈ t.rows, row.length = t.header.length

variable {t : Table} {ws : List Nat} {row : List String} {c : Char}

/-! ### Columns and lines -/

theorem length_foldl_zip {f : Nat × String → Nat} {rows : List (List String)} {ws : List Nat}
    (h : ∀ row ∈ rows, row.length = ws.length) :
    (rows.foldl (fun ws row => (ws.zip row).map f) ws).length = ws.length := by
  induction rows generalizing ws with
  | nil => rfl
  | cons row rows ih =>
    obtain ⟨hrow, hrows⟩ := List.forall_mem_cons.1 h
    have hstep : ((ws.zip row).map f).length = ws.length := by simp [hrow]
    rw [List.foldl_cons, ih fun r hr => by rw [hstep, hrows r hr], hstep]

/-- Where every row has a cell for each column, no column gets lost when the widths are taken. -/
theorem length_widths (h : t.IsFull) : t.widths.length = t.header.length := by
  rw [widths, length_foldl_zip (by simpa [IsFull] using h), List.length_map]

theorem mem_lines_iff (hc : c ∉ drawn) (cell : String) :
    (∃ line ∈ lines cell, c ∈ line) ↔ c ∈ cell.toList := by
  have hbreak : c ∉ ['\n'] := fun h => hc ((by decide : ['\n'] ⊆ drawn) h)
  rw [← Text.mem_joinWith_iff hbreak, lines, Text.joinWith_splitAll]

theorem mem_padded_iff (hc : c ∉ drawn) (w : Nat) (line : List Char) :
    c ∈ padded w line ↔ c ∈ line := by
  have hblank : c ≠ ' ' := fun h => hc (h ▸ by decide)
  simp [padded, hblank]

theorem notMem_border (hc : c ∉ drawn) {left between right : Char}
    (hdrawn : [left, between, right] ⊆ drawn) : c ∉ border left between right ws := by
  have hline : c ≠ '─' := fun h => hc (h ▸ by decide)
  have hends : c ≠ left ∧ c ≠ between ∧ c ≠ right := by
    refine ⟨?_, ?_, ?_⟩ <;> rintro rfl <;> exact hc (hdrawn (by simp))
  intro h
  simp only [border, List.mem_append, List.mem_singleton, hends, false_or, or_false] at h
  obtain ⟨_, hpiece, h⟩ := (Text.mem_joinWith_iff (by simp [hends])).1 h
  obtain ⟨w, -, rfl⟩ := List.mem_map.1 hpiece
  exact hline (List.eq_of_mem_replicate h)

/-- A row shows the characters of its cells: it is as high as the highest of them, and has a column
for each. -/
theorem mem_rowLines_iff (hc : c ∉ drawn) (hrow : row.length ≤ ws.length) :
    (∃ line ∈ rowLines ws row, c ∈ line) ↔ ∃ cell ∈ row, c ∈ cell.toList := by
  have hbar : c ∉ ['│'] := fun h => hc ((by decide : ['│'] ⊆ drawn) h)
  have hbetween (pieces : List (List Char)) :
      c ∈ ['│'] ++ Text.joinWith ['│'] pieces ++ ['│'] ↔ ∃ piece ∈ pieces, c ∈ piece := by
    rw [List.mem_append, List.mem_append, Text.mem_joinWith_iff hbar]
    simp only [hbar, false_or, or_false]
  simp only [← mem_lines_iff hc]
  constructor
  · rintro ⟨line, hline, h⟩
    obtain ⟨i, -, rfl⟩ := List.mem_map.1 hline
    obtain ⟨piece, hpiece, h⟩ := (hbetween _).1 h
    obtain ⟨⟨w, ls⟩, hx, rfl⟩ := List.mem_map.1 hpiece
    obtain ⟨cell, hcell, rfl⟩ := List.mem_map.1 (List.of_mem_zip hx).2
    rw [mem_padded_iff hc] at h
    -- a cell that is not as high as the row has nothing to show on this line
    rcases Nat.lt_or_ge i (lines cell).length with hi | hi
    · rw [List.getD_eq_getElem _ _ hi] at h
      exact ⟨cell, hcell, _, List.getElem_mem hi, h⟩
    · rw [List.getD_eq_default _ _ hi] at h
      cases h
  · rintro ⟨cell, hcell, line, hline, h⟩
    obtain ⟨k, hk, rfl⟩ := List.mem_iff_getElem.1 hcell
    obtain ⟨i, hi, rfl⟩ := List.mem_iff_getElem.1 hline
    have hheight : i < ((row.map lines).map List.length).foldl max 0 := by
      have hmem : (lines row[k]).length ∈ (row.map lines).map List.length :=
        List.mem_map_of_mem (List.mem_map_of_mem hcell)
      rw [List.foldl_max_eq_max (List.ne_nil_of_mem hmem)]
      exact Nat.lt_of_lt_of_le hi
        (Nat.le_trans (List.le_max_of_mem hmem) (Nat.le_max_right ..))
    have hzip : (ws[k], lines row[k]) ∈ ws.zip (row.map lines) := by
      refine List.mem_iff_getElem.2 ⟨k, by simp; omega, by simp⟩
    refine ⟨_, List.mem_map_of_mem (List.mem_range.2 hheight), (hbetween _).2 ?_⟩
    refine ⟨_, List.mem_map_of_mem hzip, (mem_padded_iff hc _ _).2 ?_⟩
    rw [List.getD_eq_getElem _ _ hi]
    exact h

/-! ### The whole -/

/-- **The characters of a table are those of its cells**, next to the ones it is drawn with. -/
theorem mem_render_iff (hc : c ∉ drawn) (h : t.IsFull) :
    c ∈ t.render.toList ↔ ∃ row ∈ t.header :: t.rows, ∃ cell ∈ row, c ∈ cell.toList := by
  have hbreak : c ∉ ['\n'] := fun h => hc ((by decide : ['\n'] ⊆ drawn) h)
  have hrow : ∀ row ∈ t.header :: t.rows, row.length ≤ t.widths.length := by
    rw [length_widths h]
    exact List.forall_mem_cons.2 ⟨Nat.le_refl _, fun row hr => Nat.le_of_eq (h row hr)⟩
  have htop : c ∉ border '╭' '┬' '╮' t.widths := notMem_border hc (by decide)
  have hmiddle : c ∉ border '├' '┼' '┤' t.widths := notMem_border hc (by decide)
  have hbottom : ∀ line ∈ if t.rows.isEmpty then [] else [border '╰' '┴' '╯' t.widths],
      c ∉ line := by
    intro line hline
    split at hline
    · cases hline
    · obtain rfl := List.mem_singleton.1 hline
      exact notMem_border hc (by decide)
  have hlines : (∃ line ∈ t.allLines, c ∈ line) ↔
      ∃ row ∈ t.header :: t.rows, ∃ line ∈ rowLines t.widths row, c ∈ line := by
    constructor
    · rintro ⟨line, hline, h⟩
      simp only [allLines, List.mem_append, List.mem_singleton, List.mem_flatMap] at hline
      rcases hline with (((rfl | hline) | rfl) | ⟨row, hmem, hline⟩) | hline
      · exact absurd h htop
      · exact ⟨_, List.mem_cons_self, line, hline, h⟩
      · exact absurd h hmiddle
      · exact ⟨row, List.mem_cons_of_mem _ hmem, line, hline, h⟩
      · exact absurd h (hbottom line hline)
    · rintro ⟨row, hmem, line, hline, h⟩
      refine ⟨line, ?_, h⟩
      simp only [allLines, List.mem_append, List.mem_flatMap]
      rcases List.mem_cons.1 hmem with rfl | hmem
      · exact .inl (.inl (.inl (.inr hline)))
      · exact .inl (.inr ⟨row, hmem, hline⟩)
  rw [render, String.toList_ofList, Text.mem_joinWith_iff hbreak, hlines]
  refine exists_congr fun row => and_congr_right fun hmem => ?_
  exact mem_rowLines_iff hc (hrow row hmem)

end Inspection.Table
