import Inspection.Shell.Arguments

/-!
# Shell — Aliases

An alias is a word with a text that stands for it where a command may start.  What has been read
already is not changed by one that is defined later.

* `aliasing`, `unalias`: showing, defining and removing aliases.
-/

namespace Inspection.Shell

/-- How many rows the table of aliases has. -/
def aliasRows : Nat := 39

/-- Prints an alias as it would be defined. -/
def printAlias (name text : String) : Action Unit := printLine (name ++ "=" ++ quotedText text)

/-- The name and the text of a definition; the name may start with the mark between the two. -/
def aliasDefinition? (s : String) : Option (String × String) :=
  match s.toList with
  | [] => none
  | c :: rest =>
    (Text.splitFirst? (· == '=') rest).map fun (name, text) =>
      (String.ofList (c :: name), String.ofList text)

/-- The aliases with one defined; one that is there keeps its place. -/
def defineAlias (name text : String) (l : List (String × String)) : List (String × String) :=
  if (l.lookup name).isSome then l.map fun a => if a.1 == name then (name, text) else a
  else l ++ [(name, text)]

/-- Shows aliases or defines them. -/
def aliasing (args : List String) : Action Unit := do
  setStatus 0
  if args.isEmpty then
    let rows := (← get).aliases.map fun a => (tableRow aliasRows a.1, a)
    (rows.mergeSort fun a b => a.1 ≤ b.1).forM fun (_, name, text) => printAlias name text
  args.forM fun s => do
    match aliasDefinition? s with
    | some (name, text) =>
      modify fun st => { st with aliases := defineAlias name text st.aliases }
    | none =>
      match (← get).aliases.lookup s with
      | some text => printAlias s text
      | none =>
        printError ("alias: " ++ s ++ " not found")
        setStatus 1

/-- Removes aliases. -/
def unalias (args : List String) : Action Unit := do
  let (os, names) ← options ['a'] [] (args.length + 1) args
  setStatus 0
  if !os.isEmpty then modify fun st => { st with aliases := [] }
  else names.forM fun s => do
    if ((← get).aliases.lookup s).isSome then
      modify fun st => { st with aliases := st.aliases.filter (·.1 != s) }
    else
      printError ("unalias: " ++ s ++ " not found")
      setStatus 1

end Inspection.Shell
