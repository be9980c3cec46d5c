import Inspection.Text.CodeRange

/-!
# Text — Blank characters and trimming

A character is blank when it has the Unicode property White_Space.  Texts that a person writes
(versions, ranges, operands, names) are trimmed of blanks at both ends before they are read.

* `trim_trim`: a trimmed text is trimmed.
-/

namespace Inspection.Text

/-- The characters with the property White_Space. -/
def blankRanges : List CodeRange :=
  [⟨0x09, 0x0D⟩, ⟨0x20, 0x20⟩, ⟨0x85, 0x85⟩, ⟨0xA0, 0xA0⟩, ⟨0x1680, 0x1680⟩, ⟨0x2000, 0x200A⟩,
    ⟨0x2028, 0x2029⟩, ⟨0x202F, 0x202F⟩, ⟨0x205F, 0x205F⟩, ⟨0x3000, 0x3000⟩]

/-- The character is blank. -/
def isBlank (c : Char) : Bool := CodeRange.mem blankRanges c

/-- The text without the blanks it starts with. -/
def trimStart (s : List Char) : List Char := s.dropWhile isBlank

/-- The text without the blanks it ends with. -/
def trimEnd (s : List Char) : List Char := (s.reverse.dropWhile isBlank).reverse

/-- The text without the blanks at its two ends. -/
def trim (s : List Char) : List Char := trimEnd (trimStart s)

/-- `trim` on strings. -/
def trimmed (s : String) : String := String.ofList (trim s.toList)

/-- The text holds no character but blanks. -/
def isBlankText (s : String) : Bool := s.toList.all isBlank

/-- Nothing is dropped where the first character stays. -/
theorem dropWhile_isBlank_eq_self {s : List Char} (h : ∀ c ∈ s.head?, isBlank c = false) :
    s.dropWhile isBlank = s := by
  cases s with
  | nil => rfl
  | cons c s => rw [List.dropWhile_cons_of_neg (by simp [h c rfl])]

theorem isBlank_head?_dropWhile {s : List Char} {c : Char}
    (h : c ∈ (s.dropWhile isBlank).head?) : isBlank c = false := by
  have hnot := List.head?_dropWhile_not isBlank s
  rw [Option.mem_def.1 h] at hnot
  exact hnot

theorem prefix_trimEnd (s : List Char) : trimEnd s <+: s := by
  obtain ⟨dropped, hdropped⟩ := List.dropWhile_suffix isBlank (l := s.reverse)
  exact ⟨dropped.reverse, by
    rw [trimEnd, ← List.reverse_append, hdropped, List.reverse_reverse]⟩

/-- **A trimmed text is trimmed.** -/
@[simp]
theorem trim_trim (s : List Char) : trim (trim s) = trim s := by
  have hstart : trimStart (trim s) = trim s := by
    refine dropWhile_isBlank_eq_self fun c (hc : (trimEnd (trimStart s)).head? = some c) => ?_
    obtain ⟨rest, hrest⟩ := prefix_trimEnd (trimStart s)
    have hhead : (trimStart s).head? = some c := by
      rw [← hrest, List.head?_append, hc, Option.some_or]
    exact isBlank_head?_dropWhile hhead
  rw [trim, hstart, trim, trimEnd, trimEnd, List.reverse_reverse,
    dropWhile_isBlank_eq_self fun c => isBlank_head?_dropWhile]

@[simp]
theorem trimmed_trimmed (s : String) : trimmed (trimmed s) = trimmed s := by
  rw [trimmed, trimmed, String.toList_ofList, trim_trim]

end Inspection.Text
