import Inspection.Decimal.Layout
import Inspection.Text.Quoted

/-!
# Yaml — Values

A document's data, free of how it is written.  Two values are the same when they have the same
form and content; the order of a mapping's entries does not count.

* `Value.same`: the two values are the same.
* `Value.shown`: a value as messages show it.
-/

namespace Inspection.Yaml

/-- A value. -/
inductive Value where
  | null
  | bool (b : Bool)
  | integer (i : Int)
  | float (r : Decimal.Reading)
  | text (s : String)
  | sequence (items : List Value)
  | mapping (entries : List (Value × Value))
  | tagged (tag : String) (value : Value)

/-- Two floating numbers are the same: zeros of either sign are, and so is what is no number. -/
def sameFloat : Decimal.Reading → Decimal.Reading → Bool
  | .finite na a, .finite nb b => a == b && (na == nb || a == 0)
  | .infinite a, .infinite b => a == b
  | .nan, .nan => true
  | _, _ => false

namespace Value

mutual

/-- The two values are the same. -/
def same : Value → Value → Bool
  | .null, .null => true
  | .bool a, .bool b => a == b
  | .integer a, .integer b => a == b
  | .float a, .float b => sameFloat a b
  | .text a, .text b => a == b
  | .sequence as, .sequence bs => sameItems as bs
  | .mapping as, .mapping bs => as.length == bs.length && includes as bs
  | .tagged s a, .tagged t b => s == t && same a b
  | _, _ => false

/-- Item by item the same. -/
def sameItems : List Value → List Value → Bool
  | [], [] => true
  | a :: as, b :: bs => same a b && sameItems as bs
  | _, _ => false

/-- Every entry is among those of the other mapping. -/
def includes : List (Value × Value) → List (Value × Value) → Bool
  | [], _ => true
  | (k, v) :: as, bs => bs.any (fun (k', v') => same k k' && same v v') && includes as bs

end

/-- A number as it is written. -/
def numberText (r : Decimal.Reading) : String := Decimal.pointed.write Decimal.binary64 r

/-- A truth value as it is written. -/
def boolText (b : Bool) : String := if b then "true" else "false"

mutual

/-- A value as messages show it, with the name of its form. -/
def shown : Value → String
  | .null => "Null"
  | .bool b => "Bool(" ++ boolText b ++ ")"
  | .integer i => "Number(" ++ Text.intText i ++ ")"
  | .float r => "Number(" ++ numberText r ++ ")"
  | .text s => "String(" ++ Text.quoted s ++ ")"
  | .sequence items => "Sequence [" ++ ", ".intercalate (shownItems items) ++ "]"
  | .mapping entries => "Mapping \x7b" ++ ", ".intercalate (shownEntries entries) ++ "\x7d"
  | .tagged tag v => "TaggedValue \x7b tag: !" ++ tag ++ ", value: " ++ shown v ++ " \x7d"

/-- The items one by one. -/
def shownItems : List Value → List String
  | [] => []
  | v :: rest => shown v :: shownItems rest

/-- The entries one by one; a scalar key goes without the name of its form. -/
def shownEntries : List (Value × Value) → List String
  | [] => []
  | (k, v) :: rest =>
    let key := match k with
      | .bool b => boolText b
      | .integer i => Text.intText i
      | .float r => numberText r
      | .text s => Text.quoted s
      | other => shown other
    (key ++ ": " ++ shown v) :: shownEntries rest

end

end Value

end Inspection.Yaml
