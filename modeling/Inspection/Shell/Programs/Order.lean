import Inspection.Shell.Programs.Basic
import Inspection.Shell.Real

/-!
# Shell — Orders of texts

Texts are put in order by their octets, by the numbers that they start with, by the months that they
name, or as versions.  Lines have fields, with blanks or a mark between them.

* `dropFields`, `takeFields`: the parts of a line behind and up to a field.
* `textOrder`, `figureOrder`, `unitOrder`, `realOrder`: octets, and three ways to write numbers.
* `versionNameOrder`: names with versions in them.
-/

namespace Inspection.Shell.Program

/-- A blank between fields. -/
def isFieldBlank (c : Char) : Bool := c == ' ' || c == '\t' || c == '\n'

/-- Passes over so many fields. -/
def dropFields (tab : Option Char) : Nat → List Char → List Char
  | 0, s => s
  | n + 1, s =>
    match tab with
    | some t => dropFields tab n ((s.dropWhile (· != t)).drop 1)
    | none => dropFields tab n ((s.dropWhile isFieldBlank).dropWhile (!isFieldBlank ·))

/-- The start of a line up to the end of a field. -/
def takeFields (tab : Option Char) (n : Nat) (s : List Char) : List Char :=
  match n with
  | 0 => []
  | n + 1 =>
    let rest := dropFields tab n s
    let after := match tab with
      | some t => rest.dropWhile (· != t)
      | none => (rest.dropWhile isFieldBlank).dropWhile (!isFieldBlank ·)
    s.take (s.length - after.length)

/-- The order of texts by their octets. -/
def textOrder : List Char → List Char → Ordering
  | [], [] => .eq
  | [], _ :: _ => .lt
  | _ :: _, [] => .gt
  | a :: s, b :: t => (compare a.toNat b.toNat).then (textOrder s t)

/-- A decimal number at the start of a text: an integer, and how many of its digits are behind the
point. -/
structure Figure where
  value : Int
  places : Nat

/-- The decimal number at the start of a text behind blanks; zero if there is none. -/
def figure (s : List Char) : Figure × List Char :=
  let s := s.dropWhile isFieldBlank
  let (isNegative, s) := match s with
    | '-' :: rest => (true, rest)
    | _ => (false, s)
  let (whole, fraction, rest) := pointedDigits Char.isDigit s
  let n : Int := ofDigits 10 (whole ++ fraction)
  ({ value := if isNegative then -n else n, places := fraction.length }, rest)

/-- The order of decimal numbers. -/
def figureOrder (a b : Figure) : Ordering :=
  compare (a.value * (Nat.pow 10 b.places : Nat)) (b.value * (Nat.pow 10 a.places : Nat))

/-- The order of numbers with units: first that of the signs and units. -/
def unitOrder (s t : List Char) : Ordering :=
  let rank (s : List Char) : Int :=
    let (f, rest) := figure s
    let unit := rest.head?.bind fun c => if c == 'm' then none else thousands.lookup c
    if f.value == 0 then 0
    else
      let n : Int := (unit.getD 0 : Nat)
      if f.value < 0 then -n - 1 else n + 1
  (compare (rank s) (rank t)).then (figureOrder (figure s).1 (figure t).1)

/-- The order of reals; a text that is none comes first, then what is no number. -/
def realOrder (s t : List Char) : Ordering :=
  let rank (s : List Char) : Nat × Int :=
    match leadingReal s with
    | none => (0, 0)
    | some (r, _) =>
      match r.size with
      | .nan => (1, 0)
      | .infinite => if r.isNegative then (2, 0) else (4, 0)
      | .finite n => (3, if r.isNegative then -(n : Int) else n)
  let a := rank s
  let b := rank t
  (compare a.1 b.1).then (compare a.2 b.2)

/-- The months by the starts of their names. -/
def months : List String :=
  ["JAN", "FEB", "MAR", "APR", "MAY", "JUN", "JUL", "AUG", "SEP", "OCT", "NOV", "DEC"]

/-- The number of the month that a text starts with; zero if there is none. -/
def monthOf (s : List Char) : Nat :=
  let name := String.ofList (((s.dropWhile isFieldBlank).take 3).map Char.toUpper)
  match months.findIdx? (· == name) with
  | some i => i + 1
  | none => 0

/-- The place of a character among those that are no digits. -/
def versionRank (c : Option Char) : Int :=
  match c with
  | none => -1
  | some c =>
    if c.isDigit then 0
    else if c.isAlpha then c.toNat
    else if c == '~' then -2
    else (c.toNat : Int) + 256

/-- The order of texts in which numbers count as such. -/
def versionOrder : Nat → List Char → List Char → Ordering
  | 0, _, _ => .eq
  | fuel + 1, s, t =>
    if s.isEmpty && t.isEmpty then .eq
    else
      let isText (s : List Char) : Bool := s.head?.any (!·.isDigit)
      if isText s || isText t then
        (compare (versionRank s.head?) (versionRank t.head?)).then
          (versionOrder fuel s.tail t.tail)
      else
        let digits (s : List Char) : List Char := (s.dropWhile (· == '0')).takeWhile Char.isDigit
        let rest (s : List Char) : List Char := s.dropWhile Char.isDigit
        ((compare (digits s).length (digits t).length).then (textOrder (digits s) (digits t))).then
          (versionOrder fuel (rest s) (rest t))

/-- A name without the endings behind its dots. -/
def withoutEndings (s : List Char) : List Char :=
  let isInner (c : Char) : Bool := c.isAlphanum || c == '~'
  let isEnding (piece : List Char) : Bool :=
    piece.head?.any (fun c => c.isAlpha || c == '~') && piece.all isInner
  match Text.splitAll (· == '.') s with
  | first :: rest =>
    let endings := (rest.reverse.takeWhile isEnding).length
    let endings := if first.isEmpty then min endings (rest.length - 1) else endings
    Text.joinWith ['.'] (first :: rest.take (rest.length - endings))
  | [] => []

/-- The order of names of versions: a name with a dot in front comes first. -/
def versionNameOrder (s t : List Char) : Ordering :=
  let rank (s : List Char) : Nat :=
    if s.isEmpty then 0 else if s == ['.'] then 1 else if s == ['.', '.'] then 2
    else if s.head? == some '.' then 3 else 4
  let fuel := s.length + t.length + 1
  (compare (rank s) (rank t)).then
    ((versionOrder fuel (withoutEndings s) (withoutEndings t)).then (versionOrder fuel s t))

end Inspection.Shell.Program
