/-!
# Data — Trees of named values

What is written as a data file: numbers, truth values and texts in lists and named fields.  The
order of fields is kept.
-/

namespace Inspection

/-- A tree of named values. -/
inductive Data where
  | nat (n : Nat)
  | bool (b : Bool)
  | text (s : String)
  | list (items : List Data)
  | record (fields : List (String × Data))

end Inspection
