import Inspection.Decimal.Reader
import Inspection.Text.Octets
import Inspection.Text.Quoted

/-!
# Cluster — Values of the notation

What is written in the notation stands for values: empty ones, truth values, integers, numbers,
texts, lists and tables, whose keys are values too.

* `Value.ofPlain`, `Value.ofTagged`: what a plain scalar stands for.
-/

namespace Inspection.Cluster.Notation

/-- What a document, or a part of it, stands for. -/
inductive Value where
  /-- Nothing: a scalar that is not what its tag says, or an alias inside the value it names. -/
  | missing
  | empty
  | flag (b : Bool)
  | integer (i : Int)
  | number (written : String)
  | text (s : String)
  | list (items : List Value)
  | table (entries : List (Value × Value))

namespace Value

mutual

/-- The two values are the same, numbers also as they are written. -/
def same : Value → Value → Bool
  | .missing, .missing | .empty, .empty => true
  | .flag a, .flag b => a == b
  | .integer a, .integer b => a == b
  | .number a, .number b | .text a, .text b => a == b
  | .list a, .list b => sameItems a b
  | .table a, .table b => sameEntries a b
  | _, _ => false

/-- The same items in the same order. -/
def sameItems : List Value → List Value → Bool
  | [], [] => true
  | a :: as, b :: bs => same a b && sameItems as bs
  | _, _ => false

/-- The same entries in the same order. -/
def sameEntries : List (Value × Value) → List (Value × Value) → Bool
  | [], [] => true
  | (k, v) :: as, (l, w) :: bs => same k l && same v w && sameEntries as bs
  | _, _ => false

end

mutual

/-- The value as messages show it, with the name of its kind. -/
def shown : Value → String
  | .missing => "BadValue"
  | .empty => "Null"
  | .flag b => "Boolean(" ++ (if b then "true" else "false") ++ ")"
  | .integer i => "Integer(" ++ Text.intText i ++ ")"
  | .number s => "Real(" ++ Text.quoted s ++ ")"
  | .text s => "String(" ++ Text.quoted s ++ ")"
  | .list items => "Array([" ++ ", ".intercalate (shownItems items) ++ "])"
  | .table entries => "Hash(\x7b" ++ ", ".intercalate (shownEntries entries) ++ "\x7d)"

/-- The items of a list as messages show them. -/
def shownItems : List Value → List String
  | [] => []
  | v :: rest => shown v :: shownItems rest

/-- The entries of a table as messages show them. -/
def shownEntries : List (Value × Value) → List String
  | [] => []
  | (k, v) :: rest => (shown k ++ ": " ++ shown v) :: shownEntries rest

end

/-! ### Scalars -/

/-- An integer of 64 bits that a plain scalar spells; one of base eight or sixteen has its mark in
front. -/
def integer? (s : List Char) : Option Int :=
  let based (base : Nat) (ds : List Char) : Option Int :=
    let (negative, ds) := Decimal.splitSign ds
    (Text.ofBaseDigits? base ds).bind fun n =>
      if negative then if n ≤ Text.signedBound then some (-(n : Int)) else none
      else if n < Text.signedBound then some (n : Int) else none
  let marked := match s with
    | '0' :: 'x' :: ds => based 16 ds
    | '0' :: 'o' :: ds => based 8 ds
    | '+' :: ds => Text.int? Text.signedBound ds
    | _ => none
  marked.or (Text.int? Text.signedBound s)

/-- The spellings of infinity and of no number that start with a point. -/
def pointWords : List String :=
  [".inf", ".Inf", ".INF", "+.inf", "+.Inf", "+.INF", "-.inf", "-.Inf", "-.INF", ".nan", ".NAN"]

/-- The text spells a number. -/
def isNumber (s : String) : Bool :=
  pointWords.contains s || (Decimal.Reading.ofChars? Decimal.binary64 s.toList).isSome

/-- What a plain scalar stands for. -/
def ofPlain (s : String) : Value :=
  if ["~", "null"].contains s then .empty
  else if s = "true" then .flag true
  else if s = "false" then .flag false
  else match integer? s.toList with
    | some i => .integer i
    | none => if isNumber s then .number s else .text s

/-- What the handles of the tags stand for that name a kind of value. -/
def kindHandle : List UInt8 := Text.encode "tag:yaml.org,2002:"

/-- What a plain scalar with a tag stands for: a value of the kind that the tag names, else a
text.  A tag is its name behind what its handle stands for. -/
def ofTagged (handle name : List UInt8) (s : String) : Value :=
  let isKind (kind : String) : Bool := name == Text.encode kind
  if handle ≠ kindHandle then .text s
  else if isKind "bool" then
    if s = "true" then .flag true else if s = "false" then .flag false else .missing
  else if isKind "int" then
    ((Text.int? Text.signedBound s.toList).map Value.integer).getD .missing
  else if isKind "float" then if isNumber s then .number s else .missing
  else if isKind "null" then if ["~", "null"].contains s then .empty else .missing
  else .text s

end Value

end Inspection.Cluster.Notation
