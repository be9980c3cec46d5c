import Inspection.Shell.Octets
import Inspection.Text.Numeral

/-!
# Shell — Escapes

A backslash gives the character behind it another meaning in what is printed.

* `Escape.one`: what one backslash stands for.
* `Escape.all`: a text with what its backslashes stand for.
-/

namespace Inspection.Shell.Escape

/-- What a letter stands for behind a backslash. -/
def letter? : Char → Option Char
  | 'a' => some '\x07'
  | 'b' => some '\x08'
  | 'e' => some '\x1b'
  | 'f' => some '\x0c'
  | 'n' => some '\n'
  | 'r' => some '\r'
  | 't' => some '\t'
  | 'v' => some '\x0b'
  | '\\' => some '\\'
  | _ => none

/-- A digit of base eight. -/
def isOctal (c : Char) : Bool := '0' ≤ c && c ≤ '7'

/-- The octet that digits of base eight tell. -/
def octet (ds : List Char) : Char :=
  Char.ofNat (ds.foldl (fun n d => n * 8 + (d.toNat - '0'.toNat)) 0 % 256)

/-- What a backslash stands for, read from behind it, and what follows; a letter without a meaning
stays behind its backslash. -/
def one (s : List Char) : Char × List Char :=
  match s with
  | [] => ('\\', [])
  | c :: rest =>
    match letter? c with
    | some d => (d, rest)
    | none =>
      let ds := (s.take 3).takeWhile isOctal
      if ds.isEmpty then ('\\', s) else (octet ds, s.drop ds.length)

/-- A text with what its backslashes stand for, and whether printing goes on behind it: one letter
ends it.  Up to three digits may follow a zero here. -/
def all : Nat → List Char → List Char × Bool
  | 0, _ => ([], true)
  | _ + 1, [] => ([], true)
  | fuel + 1, '\\' :: s =>
    match s with
    | 'c' :: _ => ([], false)
    | '0' :: d :: rest =>
      let (c, rest) := if isOctal d then one (d :: rest) else one s
      let (more, goesOn) := all fuel rest
      (c :: more, goesOn)
    | _ =>
      let (c, rest) := one s
      let (more, goesOn) := all fuel rest
      (c :: more, goesOn)
  | fuel + 1, c :: s =>
    let (more, goesOn) := all fuel s
    (c :: more, goesOn)

/-- A text with what its backslashes stand for, and whether printing goes on behind it. -/
def text (s : String) : List Char × Bool := all (s.length + 1) s.toList

end Inspection.Shell.Escape
