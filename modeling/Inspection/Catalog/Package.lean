import Inspection.Catalog.Directory

/-!
# Catalog — Packages

A package is a named list of patterns for tasks.  The package `filter` is none: its patterns are
left out of runs that name neither a package nor patterns of their own.

* `Packages.ofText`: the packages that a text defines.
* `Packages.selection`: which tasks run for a package and patterns.
-/

namespace Inspection

/-- A named list of patterns. -/
structure Package where
  name : String
  info : String
  tasks : List String
deriving DecidableEq, Repr

/-- The packages in the order of their names, and the patterns that are left out by default. -/
structure Packages where
  packages : List Package := []
  exclusions : List String := []
deriving DecidableEq, Repr

namespace Packages

/-- The name that is kept for the exclusions. -/
def exclusionName : String := "filter"

/-- What the text says about a package. -/
structure Form where
  info : String := ""
  tasks : List String := []

open Yaml Decode in
/-- Reads what is said about a package; other fields say nothing. -/
def Form.read (n : Yaml.Node) : Decode Form := do
  let es ← namedEntries n
  let known := es.filterMap fun (k, v) =>
    if k = "info_en" then some ("info", v)
    else if k = "info" || k = "tasks" then some (k, v) else none
  let fs ← fields.distinct known
  return {
    info := ← field fs "info" "" text
    tasks := (← field fs "tasks" none
      (optional? fun n => do (← items n).mapM text)).getD [] }

open Yaml Decode in
/-- Reads all packages by name; of two with one name the last one counts. -/
def readForms (n : Yaml.Node) : Decode (List (String × Form)) := do
  let forms ← (← namedEntries n).mapM fun (name, n) =>
    return (name, (← optional? Form.read n).getD {})
  return forms.foldl (fun kept (name, form) => kept.filter (·.1 != name) ++ [(name, form)]) []

/-- The packages by name. -/
def ofForms (forms : List (String × Form)) : Packages where
  packages :=
    ((forms.filter (·.1 != exclusionName)).map fun (name, f) =>
      { name, info := f.info, tasks := f.tasks : Package }).mergeSort
        fun a b => textAtMost a.name b.name
  exclusions := ((forms.lookup exclusionName).map (·.tasks)).getD []

/-- The packages that a text defines; a blank text defines none. -/
def ofText (text : String) : Except RunError Packages :=
  if Text.isBlankText text then .ok {}
  else
    match Yaml.decode text readForms with
    | .ok forms => .ok (ofForms forms)
    | .error f => .error (.config (.unreadable f.message))

/-- The packages of a file; no file means no packages. -/
def ofFile (file : Option Files.Entry) : Except RunError Packages :=
  match file with
  | none => .ok {}
  | some (.folder _) => .error (.io "Is a directory (os error 21)")
  | some (.file octets) =>
    if Text.isUtf8 octets then ofText (Text.readLossy octets) else .error (.io notUtf8)

/-- The package of a name. -/
def get (p : Packages) (name : String) : Except RunError Package :=
  match p.packages.find? (·.name = name) with
  | some package => .ok package
  | none =>
    let known := if p.packages.isEmpty then "none" else ", ".intercalate (p.packages.map (·.name))
    .error (.notFound ("check package '" ++ name ++ "' (known: " ++ known ++ ")"))

/-- Which tasks run: those of the patterns if there are any, else those of the package, else all
but the exclusions. -/
def selection (p : Packages) (package : Option String) (patterns : List String) :
    Except RunError Selection :=
  if !patterns.isEmpty then .ok { included := patterns }
  else match package with
    | none => .ok { excluded := p.exclusions }
    | some name =>
      match p.get name with
      | .error e => .error e
      | .ok package =>
        if package.tasks.isEmpty then
          .error (.validation ("check package '" ++ name ++ "' lists no tasks"))
        else .ok { included := package.tasks }

end Packages

end Inspection
