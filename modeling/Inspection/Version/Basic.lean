import Inspection.Text.Blank
import Inspection.Text.Split
import Inspection.Text.Numeral

/-!
# Version — Engine versions

A version is a dotted list of natural numbers or `latest`.  The order pads the shorter list with
zeros, so `4.2` and `4.2.0.0` are the same version written twice; `latest` is above every list.

* `Version.parse`: the version that a text denotes, or the trimmed text as the error.
* `Version.extract`: the last dotted number in free text, as in a server's banner.
* `Version.order`: the order.
-/

namespace Inspection

/-- An engine version. -/
inductive Version where
  | finite (parts : List Nat)
  | latest
deriving DecidableEq, Repr, Inhabited

/-- Why the text between the brackets is no range. -/
inductive RangeFault where
  | notEnclosed
  | boundCount
  | invalidBound (bound : String)
  | inverted
deriving DecidableEq, Repr

/-- A text that is no version, or no range of versions. -/
inductive VersionError where
  | invalidVersion (text : String)
  | malformedRange (range : String) (fault : RangeFault)
deriving DecidableEq, Repr

/-- The wording of a fault in a range. -/
def RangeFault.message : RangeFault → String
  | .notEnclosed => "range must be enclosed in '[' and ']'"
  | .boundCount => "expected exactly two comma-separated bounds"
  | .invalidBound bound => "invalid bound '" ++ bound ++ "'"
  | .inverted => "lower bound is greater than upper bound"

/-- The wording of an error about versions. -/
def VersionError.message : VersionError → String
  | .invalidVersion text => "Invalid version: '" ++ text ++ "'"
  | .malformedRange range fault =>
    "Malformed version range '" ++ range ++ "': " ++ fault.message

namespace Version

/-- The least number that is too large for a component. -/
def componentBound : Nat := Text.unsignedBound

/-- The spelling of the newest version, matched in any ASCII case. -/
def latestWord : List Char := ['l', 'a', 't', 'e', 's', 't']

/-- One component: blanks around it do not count. -/
def component? (part : List Char) : Option Nat := Text.nat? componentBound (Text.trim part)

/-- The version that a trimmed text denotes. -/
def ofTrimmed? (s : List Char) : Option Version :=
  if s.map Char.toLower = latestWord then some .latest
  else ((Text.splitAll (· == '.') s).mapM component?).map .finite

/-- The version that a text denotes. -/
def parse (raw : String) : Except VersionError Version :=
  match ofTrimmed? (Text.trim raw.toList) with
  | some v => .ok v
  | none => .error (.invalidVersion (Text.trimmed raw))

/-- A character that can stand in a dotted number. -/
def isDotted (c : Char) : Bool := c.isDigit || c == '.'

/-- A run without the dots at its two ends. -/
def trimDots (s : List Char) : List Char :=
  ((s.dropWhile (· == '.')).reverse.dropWhile (· == '.')).reverse

/-- The runs of digits and dots that keep a dot once their outer dots are gone, in order. -/
def dottedRuns (s : List Char) : List (List Char) :=
  ((Text.splitAll (fun c => !isDotted c) s).map trimDots).filter (·.contains '.')

/-- The version that the last dotted number in free text denotes. -/
def extract (text : String) : Option Version :=
  (dottedRuns text.toList).getLast?.bind ofTrimmed?

/-- Component by component, a missing component counting as zero. -/
def orderParts : List Nat → List Nat → Ordering
  | [], [] => .eq
  | a :: as, [] => (compare a 0).then (orderParts as [])
  | [], b :: bs => (compare 0 b).then (orderParts [] bs)
  | a :: as, b :: bs => (compare a b).then (orderParts as bs)

/-- The order of versions. -/
def order : Version → Version → Ordering
  | .latest, .latest => .eq
  | .latest, .finite _ => .gt
  | .finite _, .latest => .lt
  | .finite as, .finite bs => orderParts as bs

/-- The two versions are the same place in the order. -/
def same (a b : Version) : Bool := a.order b == .eq

/-- `a` is below `b` or the same. -/
def atMost (a b : Version) : Bool := a.order b != .gt

/-- The order for those who expect that two versions may not be comparable; all are. -/
def order? (a b : Version) : Option Ordering := some (a.order b)

/-- `a` is below `b`. -/
def below (a b : Version) : Bool := a.order? b == some .lt

/-- The version as it is written. -/
def toChars : Version → List Char
  | .latest => latestWord
  | .finite parts => Text.joinWith ['.'] (parts.map Text.digits)

/-- The version as it is written. -/
def text (v : Version) : String := String.ofList v.toChars

end Version

end Inspection
