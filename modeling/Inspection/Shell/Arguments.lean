import Inspection.Shell.Number
import Inspection.Shell.State

/-!
# Shell — Arguments of its commands

The commands of the shell read their options alike.  A mistake in them is an error of the command.

* `options`: the options of a command and its operands.
* `number`: the number that an argument is.
* `quotedText`: a text as the shell would read it back.
-/

namespace Inspection.Shell

/-- The number that an argument is. -/
def number (s : String) : Action Nat :=
  match count? s with
  | some n => return n
  | none => fail ("Illegal number: " ++ s)

/-- The options that the letters of an argument are, and the arguments left; the value of the last
one may be the next argument. -/
def lettersOf (flags valued : List Char) :
    List Char → List String → Action (List (Char × String) × List String)
  | [], rest => return ([], rest)
  | c :: s, rest => do
    if valued.contains c then
      match s, rest with
      | [], value :: rest => return ([(c, value)], rest)
      | [], [] => fail ("No arg for -" ++ String.singleton c ++ " option")
      | s, rest => return ([(c, String.ofList s)], rest)
    else if flags.contains c then
      let (os, rest) ← lettersOf flags valued s rest
      return ((c, "") :: os, rest)
    else fail ("Illegal option -" ++ String.singleton c)

/-- The options in front of operands, and the operands. -/
def options (flags valued : List Char) :
    Nat → List String → Action (List (Char × String) × List String)
  | 0, args => return ([], args)
  | _ + 1, [] => return ([], [])
  | fuel + 1, a :: rest =>
    match a.toList with
    | ['-', '-'] => return ([], rest)
    | '-' :: c :: s => do
      let (os, rest) ← lettersOf flags valued (c :: s) rest
      let (more, operands) ← options flags valued fuel rest
      return (os ++ more, operands)
    | _ => return ([], a :: rest)

/-- The operands of a command without options. -/
def operandsOf (args : List String) : Action (List String) := do
  return (← options [] [] (args.length + 1) args).2

/-- A text in quotes, from which a shell reads it. -/
def quoted : Nat → List Char → List Char
  | 0, s => s
  | fuel + 1, s =>
    let plain := s.takeWhile (· != '\'')
    let rest := s.drop plain.length
    let marks := rest.takeWhile (· == '\'')
    let after := rest.drop marks.length
    let first := '\'' :: plain ++ ['\'']
    if marks.isEmpty then first
    else
      let second := '"' :: marks ++ ['"']
      first ++ second ++ if after.isEmpty then [] else quoted fuel after

/-- A text in quotes, from which a shell reads it. -/
def quotedText (s : String) : String := String.ofList (quoted (s.length + 1) s.toList)

/-- The place of a name in a table of so many rows, by its octets; tables are listed by their
rows. -/
def tableRow (rows : Nat) (name : String) : Nat :=
  let signed (c : Char) : Int := if c.toNat < 128 then c.toNat else (c.toNat : Int) - 256
  let first : Int := match name.toList.head? with
    | some c => 16 * c.toNat
    | none => 0
  let sum := name.toList.foldl (fun n c => n + signed c) first
  ((sum % 0x100000000) % rows).toNat

end Inspection.Shell
