import Inspection.Text.Split

/-!
# Text — Slices

A position in a text counts the octets before it.  A text can be cut between two of its characters
and at its ends, and nowhere else.

* `find?`, `findLast?`: the position of what stands in a text.
* `slice?`: the part of a text from one position to another.
-/

namespace Inspection.Text

/-- How many octets a text takes. -/
def octetCount : List Char → Nat
  | [] => 0
  | c :: s => c.utf8Size + octetCount s

/-- The first position where `part` stands. -/
def find? (part s : List Char) : Option Nat :=
  (splitFirstAt? part s).map fun (before, _) => octetCount before

/-- The position of the last separator. -/
def findLast? (isSep : Char → Bool) (s : List Char) : Option Nat :=
  (splitLast? isSep s).map fun (before, _) => octetCount before

/-- What stands before and behind a position; none if it is within a character or behind the
end. -/
def cutAt? : Nat → List Char → Option (List Char × List Char)
  | 0, s => some ([], s)
  | _ + 1, [] => none
  | n + 1, c :: s =>
    if c.utf8Size ≤ n + 1 then
      (cutAt? (n + 1 - c.utf8Size) s).map fun (before, after) => (c :: before, after)
    else none

/-- The part of a text from one position to another; none if it would end before it starts, and if
the text cannot be cut there. -/
def slice? (start stop : Nat) (s : List Char) : Option (List Char) :=
  if start ≤ stop then do
    let (front, _) ← cutAt? stop s
    let (_, part) ← cutAt? start front
    return part
  else none

theorem octetCount_append (s t : List Char) :
    octetCount (s ++ t) = octetCount s + octetCount t := by
  induction s with
  | nil => simp [octetCount]
  | cons c s ih => rw [List.cons_append, octetCount, octetCount, ih, Nat.add_assoc]

/-- A text can be cut behind any of its beginnings. -/
theorem cutAt?_append (s t : List Char) : cutAt? (octetCount s) (s ++ t) = some (s, t) := by
  induction s with
  | nil => simp [octetCount, cutAt?]
  | cons c s ih =>
    obtain ⟨n, hn⟩ : ∃ n, octetCount (c :: s) = n + 1 := by
      have hpos := c.utf8Size_pos
      exact Nat.exists_eq_succ_of_ne_zero (by rw [octetCount]; omega)
    have hsub : n + 1 - c.utf8Size = octetCount s := by
      rw [← hn, octetCount, Nat.add_sub_cancel_left]
    have hle : c.utf8Size ≤ n + 1 := by
      rw [← hn, octetCount]
      exact Nat.le_add_right ..
    rw [hn, List.cons_append, cutAt?, if_pos hle, hsub, ih, Option.map_some]

/-- **What stands between two parts of a text** is its slice from the end of the one to the start of
the other. -/
theorem slice?_append (front part back : List Char) :
    slice? (octetCount front) (octetCount (front ++ part)) (front ++ part ++ back) = some part := by
  have hle : octetCount front ≤ octetCount (front ++ part) := by
    rw [octetCount_append]
    exact Nat.le_add_right ..
  rw [slice?, if_pos hle, cutAt?_append]
  simp [cutAt?_append]

end Inspection.Text
