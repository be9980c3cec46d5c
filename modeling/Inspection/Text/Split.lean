/-!
# Text — Cutting a text at a character

* `splitAll`: the pieces between the separators; there is always one more piece than separators.
* `splitFirst?`: the two sides of the first separator.
* `splitLast?`: the two sides of the last separator.
* `joinWith`: the pieces with a separator between each two.
-/

namespace Inspection.Text

/-- The pieces of a text between its separators: a text without one is a single piece. -/
def splitAll (isSep : Char → Bool) : List Char → List (List Char)
  | [] => [[]]
  | c :: s =>
    match splitAll isSep s with
    | [] => [[c]]
    | piece :: rest => if isSep c then [] :: piece :: rest else (c :: piece) :: rest

/-- What stands before and after the first separator. -/
def splitFirst? (isSep : Char → Bool) : List Char → Option (List Char × List Char)
  | [] => none
  | c :: s =>
    if isSep c then some ([], s)
    else (splitFirst? isSep s).map fun (before, after) => (c :: before, after)

/-- What stands before and after the last separator. -/
def splitLast? (isSep : Char → Bool) (s : List Char) : Option (List Char × List Char) :=
  (splitFirst? isSep s.reverse).map fun (after, before) => (before.reverse, after.reverse)

/-- The pieces one after another with `sep` between each two. -/
def joinWith (sep : List Char) : List (List Char) → List Char
  | [] => []
  | [piece] => piece
  | piece :: rest => piece ++ sep ++ joinWith sep rest

/-- `start` without `head` at its front, if it is there. -/
def dropHead? (head start : List Char) : Option (List Char) :=
  match head, start with
  | [], s => some s
  | _ :: _, [] => none
  | h :: hs, c :: s => if h = c then dropHead? hs s else none

/-- `start` without `tail` at its end, if it is there. -/
def dropTail? (tail start : List Char) : Option (List Char) :=
  (dropHead? tail.reverse start.reverse).map List.reverse

/-- `part` stands somewhere in the text. -/
def contains (part : List Char) : List Char → Bool
  | [] => part.isEmpty
  | c :: s => (dropHead? part (c :: s)).isSome || contains part s

/-- What stands before and after the first place where `part` stands. -/
def splitFirstAt? (part : List Char) : List Char → Option (List Char × List Char)
  | [] => if part.isEmpty then some ([], []) else none
  | c :: s =>
    match dropHead? part (c :: s) with
    | some after => some ([], after)
    | none => (splitFirstAt? part s).map fun (before, after) => (c :: before, after)

theorem splitAll_ne_nil (isSep : Char → Bool) (s : List Char) : splitAll isSep s ≠ [] := by
  cases s with
  | nil => simp [splitAll]
  | cons c s =>
    unfold splitAll
    split
    · simp
    · split <;> simp

end Inspection.Text
