import Inspection.Version.Basic

/-!
# Version — Ranges

A range `[lower, upper]` is closed at both ends; a bound `*` bounds nothing.

* `VersionRange.parse`: reads a range and refuses one whose bounds are the wrong way round.
* `VersionRange.contains`: a version lies in the range.
-/

namespace Inspection

/-- One end of a range. -/
inductive Bound where
  | unbounded
  | at (version : Version)
deriving DecidableEq, Repr, Inhabited

/-- The versions from `lower` to `upper`. -/
structure VersionRange where
  lower : Bound
  upper : Bound
deriving DecidableEq, Repr, Inhabited

namespace Bound

/-- The bound as it is written. -/
def toChars : Bound → List Char
  | .unbounded => ['*']
  | .at v => v.toChars

/-- The bound as it is written. -/
def text (b : Bound) : String := String.ofList b.toChars

/-- The bound that a trimmed text denotes. -/
def ofTrimmed? (s : List Char) : Option Bound :=
  if s = ['*'] then some .unbounded
  else (Version.ofTrimmed? s).map .at

/-- The version is not below this lower bound. -/
def belowOrAt (b : Bound) (v : Version) : Bool :=
  match b with
  | .unbounded => true
  | .at lower => lower.atMost v

/-- The version is not above this upper bound. -/
def aboveOrAt (b : Bound) (v : Version) : Bool :=
  match b with
  | .unbounded => true
  | .at upper => v.atMost upper

end Bound

namespace VersionRange

/-- The range of all versions. -/
def any : VersionRange := ⟨.unbounded, .unbounded⟩

/-- The version lies in the range. -/
def contains (r : VersionRange) (v : Version) : Bool := r.lower.belowOrAt v && r.upper.aboveOrAt v

/-- Both ends are versions and the lower one is above the upper one. -/
def isInverted : VersionRange → Bool
  | ⟨.at lower, .at upper⟩ => !lower.atMost upper
  | _ => false

/-- The text between the brackets of a trimmed text. -/
def inner? (s : List Char) : Option (List Char) :=
  (Text.dropHead? ['['] s).bind (Text.dropTail? [']'])

/-- The range that the text between the brackets denotes. -/
def ofInner (inner : List Char) : Except RangeFault VersionRange :=
  match (Text.splitAll (· == ',') inner).map Text.trim with
  | [lower, upper] =>
    match Bound.ofTrimmed? lower, Bound.ofTrimmed? upper with
    | none, _ => .error (.invalidBound (String.ofList lower))
    | some _, none => .error (.invalidBound (String.ofList upper))
    | some lo, some hi => if (mk lo hi).isInverted then .error .inverted else .ok ⟨lo, hi⟩
  | _ => .error .boundCount

/-- The range that a text denotes. -/
def parse (raw : String) : Except VersionError VersionRange :=
  let range : Except RangeFault VersionRange :=
    match inner? (Text.trim raw.toList) with
    | none => .error .notEnclosed
    | some inner => ofInner inner
  range.mapError (.malformedRange raw)

/-- The range as it is written. -/
def toChars (r : VersionRange) : List Char :=
  ['['] ++ r.lower.toChars ++ [',', ' '] ++ r.upper.toChars ++ [']']

/-- The range as it is written. -/
def text (r : VersionRange) : String := String.ofList r.toChars

end VersionRange

end Inspection
