import Inspection.Shell.Octets

/-!
# Shell — Commands

A script is a command.  A command is a row of words with redirections, commands in a row or in a
pipe, a choice, a loop or a definition; a word is made of parts that are replaced when it is used.
Commands know the line they stand on, since messages tell it.
-/

namespace Inspection.Shell

/-- How a file is opened. -/
inductive Opening where
  | reading
  | writing
  /-- Written anew even where files are kept from that. -/
  | overwriting
  | appending
deriving DecidableEq, Repr

/-- Where a descriptor is led to. -/
inductive Target (W : Type) where
  | file (opening : Opening) (path : W)
  /-- To where another descriptor leads, or nowhere. -/
  | copy (descriptor : W)
  /-- A text below the command, by its number. -/
  | body (id : Nat)

/-- Leads a descriptor elsewhere. -/
structure Redirect (W : Type) where
  descriptor : Nat
  target : Target W

mutual

/-- A part of a word. -/
inductive Part where
  | text (isQuoted : Bool) (s : List Char)
  | parameter (isQuoted : Bool) (name : List Char) (use : Use)
  /-- What a command prints. -/
  | command (isQuoted : Bool) (c : Command)
  /-- What a sum comes to. -/
  | sum (isQuoted : Bool) (expression : List Part)

/-- What is made of a parameter; where a word stands for one that is not set, it may stand for an
empty one too. -/
inductive Use where
  | value
  /-- The value, and a word behind it. -/
  | valueBefore (w : List Part)
  | length
  | orElse (emptyToo : Bool) (w : List Part)
  | orAssign (emptyToo : Bool) (w : List Part)
  | orFail (emptyToo : Bool) (w : List Part)
  | ifSet (emptyToo : Bool) (w : List Part)
  /-- Without what a pattern fits at one end. -/
  | trim (atEnd isLongest : Bool) (pattern : List Part)
  | bad

/-- A command. -/
inductive Command where
  | nothing
  /-- Does nothing, with success. -/
  | success
  | simple (line : Nat) (assignments : List (List Char × List Part)) (words : List (List Part))
      (redirects : List (Redirect (List Part)))
  | sequence (first second : Command)
  /-- The second runs only if the first succeeds. -/
  | both (first second : Command)
  /-- The second runs only if the first fails. -/
  | either (first second : Command)
  | pipe (first rest : Command)
  | negation (c : Command)
  | background (c : Command)
  /-- Runs in a shell of its own. -/
  | nested (line : Nat) (c : Command) (redirects : List (Redirect (List Part)))
  | redirected (line : Nat) (c : Command) (redirects : List (Redirect (List Part)))
  | choice (condition yes no : Command)
  /-- Runs as long as the condition holds; or, where it is awaited, until it does. -/
  | loop (awaits : Bool) (condition body : Command)
  /-- Runs once for each field of the words, which the name stands for. -/
  | each (line : Nat) (name : List Char) (words : List (List Part)) (body : Command)
  | select (line : Nat) (subject : List Part) (arms : Arms)
  | define (line : Nat) (name : List Char) (body : Command)

/-- What to do for a word that fits one of some patterns. -/
inductive Arms where
  | none
  | arm (patterns : List (List Part)) (body : Command) (rest : Arms)

end

instance : Inhabited Command := ⟨.nothing⟩

/-- A word. -/
abbrev Word := List Part

namespace Word

/-- The word with texts that follow one another joined, from its parts in reverse. -/
def ofReversed (parts : List Part) : Word :=
  parts.foldl (fun w p =>
    match p, w with
    | .text q s, .text q' t :: rest =>
      if q == q' then .text q (s ++ t) :: rest else .text q s :: w
    | _, _ => p :: w) []

/-- The characters of a word in which nothing is replaced. -/
def literal? : Word → Option (List Char)
  | [] => some []
  | .text _ s :: rest => (literal? rest).map (s ++ ·)
  | _ :: _ => none

/-- A part of the word is quoted. -/
def isQuoted (w : Word) : Bool :=
  w.any fun
    | .text q _ | .parameter q _ _ | .command q _ | .sum q _ => q

/-- The characters of a word without quotes and without anything to replace. -/
def bare? (w : Word) : Option (List Char) := if w.isQuoted then none else literal? w

/-- The name and the value of an assignment. -/
def assignment? : Word → Option (List Char × Word)
  | .text false s :: rest =>
    let name := s.takeWhile (· != '=')
    match s.drop name.length with
    | '=' :: value =>
      if isName name then
        some (name, if value.isEmpty then rest else .text false value :: rest)
      else none
    | _ => none
  | _ => none

end Word

/-! ### Words with a meaning of their own -/

/-- The words that have a meaning where a command may start. -/
def keywords : List String :=
  ["!", "case", "do", "done", "elif", "else", "esac", "fi", "for", "if", "in", "then", "until",
    "while", "\x7b", "\x7d"]

/-- The keywords that end a list of commands. -/
def closers : List String := ["do", "done", "elif", "else", "esac", "fi", "then", "\x7d"]

/-- The names of the commands in which an error ends the shell; no function has one. -/
def specialNames : List String :=
  [".", ":", "break", "continue", "eval", "exec", "exit", "export", "local", "readonly", "return",
    "set", "shift", "times", "trap", "unset"]

/-- The keyword that a word is. -/
def Word.keyword? (w : Word) : Option String :=
  (w.bare?.map String.ofList).filter keywords.contains

end Inspection.Shell
