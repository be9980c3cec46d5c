/-!
# Text — Ranges of code points

A property of characters is kept as a list of closed ranges of code points, ascending and apart.
`CodeRange.mem` looks a character up.
-/

namespace Inspection.Text

/-- A closed range of code points. -/
structure CodeRange where
  first : Nat
  last : Nat
deriving DecidableEq, Repr

namespace CodeRange

/-- The range holds code point `n`. -/
def holds (r : CodeRange) (n : Nat) : Bool := r.first ≤ n && n ≤ r.last

/-- Some range of the list holds the character. -/
def mem (ranges : List CodeRange) (c : Char) : Bool := ranges.any (·.holds c.toNat)

/-- The ranges ascend and keep at least one code point apart. -/
def Ascending : List CodeRange → Bool
  | [] => true
  | [r] => r.first ≤ r.last
  | r :: s :: rest => r.first ≤ r.last && r.last + 1 < s.first && Ascending (s :: rest)

end CodeRange

end Inspection.Text
