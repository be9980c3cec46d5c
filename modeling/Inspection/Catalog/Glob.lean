import Inspection.Text.Numeral
import Inspection.Text.Split

/-!
# Catalog — Patterns for names

A pattern is matched against a whole name.  `?` stands for one character, `*` for any characters,
`[…]` for one of a set and `[!…]` for one outside it.  `**` is a whole part between slashes and
stands for any number of whole parts.

* `Glob.parse`: the tokens of a pattern, or where it is at fault.
* `Glob.matchesChars`: a text matches tokens.
* `Glob.fits`: a name fits a pattern, decided without trying the ways to match one by one.
-/

namespace Inspection

/-- A member of a set of characters. -/
inductive CharSet where
  | single (c : Char)
  | range (low high : Char)
deriving DecidableEq, Repr

/-- The member holds the character. -/
def CharSet.has (m : CharSet) (c : Char) : Bool :=
  match m with
  | .single d => c == d
  | .range low high => low ≤ c && c ≤ high

/-- A part of a pattern. -/
inductive GlobToken where
  | char (c : Char)
  | anyChar
  | anyText
  | anyParts
  | oneOf (members : List CharSet)
  | noneOf (members : List CharSet)
deriving DecidableEq, Repr

/-- What is wrong with a pattern. -/
inductive GlobFault where
  | range
  | wildcards
  | recursive
deriving DecidableEq, Repr

/-- The wording of a fault. -/
def GlobFault.message : GlobFault → String
  | .range => "invalid range pattern"
  | .wildcards => "wildcards are either regular `*` or recursive `**`"
  | .recursive => "recursive wildcards must form a single path component"

/-- A fault and the character at which it is seen. -/
structure GlobError where
  position : Nat
  fault : GlobFault
deriving DecidableEq, Repr

/-- The wording of an error. -/
def GlobError.message (e : GlobError) : String :=
  "Pattern syntax error near position " ++ Text.natText e.position ++ ": " ++ e.fault.message

/-- A pattern. -/
abbrev Glob := List GlobToken

namespace Glob

/-- The members of a set. -/
def members : List Char → List CharSet
  | low :: '-' :: high :: s => .range low high :: members s
  | c :: s => .single c :: members s
  | [] => []

/-- A set at the start of a text, behind its bracket, and what follows it.  A closing bracket in
first place is a member. -/
def set? : List Char → Option (GlobToken × List Char)
  | '!' :: c :: s =>
    (Text.splitFirst? (· == ']') s).map fun (more, rest) => (.noneOf (members (c :: more)), rest)
  | '!' :: [] => none
  | c :: s =>
    (Text.splitFirst? (· == ']') s).map fun (more, rest) => (.oneOf (members (c :: more)), rest)
  | [] => none

/-- Adds `**`; a second one in a row says nothing more. -/
def addParts (tokens : List GlobToken) : List GlobToken :=
  match tokens with
  | .anyParts :: _ :: _ => tokens
  | _ => .anyParts :: tokens

/-- Reads the stars that a text starts with; `before` is the character in front of them. -/
def stars (position : Nat) (before : Option Char) (s : List Char) (tokens : List GlobToken) :
    Except GlobError (Nat × List GlobToken) :=
  let count := (s.takeWhile (· == '*')).length
  let after := s.drop count
  if 2 < count then .error ⟨position + 2, .wildcards⟩
  else if count < 2 then .ok (count, .anyText :: tokens)
  else if !before.all (· == '/') then .error ⟨position - 1, .recursive⟩
  else match after with
    | [] => .ok (2, addParts tokens)
    | '/' :: _ => .ok (3, addParts tokens)
    | _ => .error ⟨position + 2, .recursive⟩

/-- Reads a pattern; the tokens so far are given from the last to the first. -/
def parseFrom : Nat → Nat → Option Char → List Char → List GlobToken → Except GlobError Glob
  | 0, _, _, _, tokens => .ok tokens.reverse
  | fuel + 1, position, before, s, tokens =>
    match s with
    | [] => .ok tokens.reverse
    | '?' :: rest => parseFrom fuel (position + 1) (some '?') rest (.anyChar :: tokens)
    | '*' :: _ =>
      match stars position before s tokens with
      | .error e => .error e
      | .ok (read, tokens) =>
        parseFrom fuel (position + read) (s.take read).getLast? (s.drop read) tokens
    | '[' :: rest =>
      match set? rest with
      | none => .error ⟨position, .range⟩
      | some (token, after) =>
        parseFrom fuel (position + (s.length - after.length)) (some ']') after (token :: tokens)
    | c :: rest => parseFrom fuel (position + 1) (some c) rest (.char c :: tokens)

/-- The tokens of a pattern. -/
def parse (pattern : List Char) : Except GlobError Glob :=
  parseFrom (pattern.length + 1) 0 none pattern []

/-- The ends of a text, from the whole to nothing. -/
def ends : List Char → List (List Char)
  | [] => [[]]
  | c :: s => (c :: s) :: ends s

/-- What follows each slash. -/
def afterSlashes : List Char → List (List Char)
  | [] => []
  | c :: s => if c == '/' then s :: afterSlashes s else afterSlashes s

/-- One character fits a token. -/
def accepts (t : GlobToken) (c : Char) : Bool :=
  match t with
  | .char d => c == d
  | .anyChar => true
  | .oneOf members => members.any (·.has c)
  | .noneOf members => !members.any (·.has c)
  | .anyText | .anyParts => false

/-- The whole text fits the tokens. -/
def matchesChars : Glob → List Char → Bool
  | [], s => s.isEmpty
  | .anyText :: rest, s => (ends s).any (matchesChars rest)
  | .anyParts :: rest, s => (s :: afterSlashes s ++ [[]]).any (matchesChars rest)
  | _ :: _, [] => false
  | t :: rest, c :: s => accepts t c && matchesChars rest s

/-! ### All ends at once

What fits is looked up for every end of a text, from the last token to the first, so that a pattern
with many stars takes no longer than one with many characters. -/

/-- Each place says whether it or a later one held. -/
def orLater : List Bool → List Bool
  | [] => []
  | b :: bs =>
    let later := orLater bs
    (b || later.headD false) :: later

/-- Each place of a text says whether a later one that follows a slash held. -/
def afterSlash : List Char → List Bool → List Bool
  | c :: s, _ :: bs =>
    let later := afterSlash s bs
    ((c == '/' && bs.headD false) || later.headD false) :: later
  | _, _ => [false]

/-- For each end of the text, whether it fits the tokens. -/
def fittingEnds : Glob → List Char → List Bool
  | [], s => s.map (fun _ => false) ++ [true]
  | .anyText :: rest, s => orLater (fittingEnds rest s)
  | .anyParts :: rest, s =>
    let bs := fittingEnds rest s
    (bs.zipWith (· || ·) (afterSlash s bs)).map (· || bs.getLastD false)
  | t :: rest, s => s.zipWith (accepts t · && ·) ((fittingEnds rest s).drop 1) ++ [false]

/-- The name fits the pattern. -/
def fits (g : Glob) (name : String) : Bool := (fittingEnds g name.toList).headD false

theorem ends_ne_nil (s : List Char) : ends s ≠ [] := by cases s <;> simp [ends]

theorem headD_map_ends (f : List Char → Bool) (s : List Char) :
    ((ends s).map f).headD false = f s := by cases s <;> simp [ends]

theorem getLastD_map_ends (f : List Char → Bool) (s : List Char) :
    ((ends s).map f).getLastD false = f [] := by
  induction s with
  | nil => rfl
  | cons c s ih =>
    rw [ends, List.map_cons, List.getLastD_cons]
    cases h : (ends s).map f with
    | nil => exact absurd (List.map_eq_nil_iff.1 h) (ends_ne_nil s)
    | cons b bs => rw [← ih, h, List.getLastD_cons, List.getLastD_cons]

theorem orLater_map_ends (f : List Char → Bool) (s : List Char) :
    orLater ((ends s).map f) = (ends s).map fun t => (ends t).any f := by
  induction s with
  | nil => simp [ends, orLater]
  | cons c s ih =>
    rw [ends, List.map_cons, orLater, ih, headD_map_ends]
    simp [ends]

theorem afterSlash_map_ends (f : List Char → Bool) (s : List Char) :
    afterSlash s ((ends s).map f) = (ends s).map fun t => (afterSlashes t).any f := by
  induction s with
  | nil => simp [ends, afterSlash, afterSlashes]
  | cons c s ih =>
    rw [ends, List.map_cons, afterSlash, ih, headD_map_ends, headD_map_ends, List.map_cons]
    by_cases h : c = '/' <;> simp [afterSlashes, h]

theorem zipWith_map_ends (f : List Char → Bool) (t : GlobToken) (s : List Char) :
    s.zipWith (accepts t · && ·) (((ends s).map f).drop 1) ++ [false] =
      (ends s).map fun
        | [] => false
        | c :: u => accepts t c && f u := by
  induction s with
  | nil => simp [ends]
  | cons c s ih =>
    simp only [ends, List.map_cons, List.drop_succ_cons, List.drop_zero]
    cases s with
    | nil => simp [ends]
    | cons d s => simpa [ends] using ih

theorem fittingEnds_eq (g : Glob) (s : List Char) :
    fittingEnds g s = (ends s).map (matchesChars g) := by
  induction g with
  | nil =>
    rw [fittingEnds]
    induction s with
    | nil => simp [ends, matchesChars]
    | cons c s ih =>
      rw [ends, List.map_cons, List.map_cons, List.cons_append, ih]
      simp [matchesChars]
  | cons t rest ih =>
    cases t with
    | anyText => rw [fittingEnds, ih, orLater_map_ends]; simp [matchesChars]
    | anyParts =>
      simp only [fittingEnds, ih, afterSlash_map_ends, getLastD_map_ends]
      rw [List.zipWith_map, List.zipWith_self, List.map_map]
      refine List.map_congr_left fun u _ => ?_
      simp [matchesChars, Bool.or_assoc]
    | char | anyChar | oneOf | noneOf =>
      rw [fittingEnds, ih, zipWith_map_ends]
      · exact List.map_congr_left fun u _ => by cases u <;> simp [matchesChars]
      all_goals simp

/-- A name fits a pattern exactly when its tokens match all of it. -/
theorem fits_eq (g : Glob) (name : String) : fits g name = matchesChars g name.toList := by
  rw [fits, fittingEnds_eq, headD_map_ends]

end Glob

end Inspection
