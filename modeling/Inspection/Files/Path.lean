import Inspection.Text.Split

/-!
# Files — Paths

A path is read as a list of parts between slashes; empty parts and `.` count for nothing, except
for a `.` in front.  An absolute path starts with the part `/`.

* `parts`: the parts of a path.
* `stem`, `extension?`: the two sides of the last dot in a file's name.
* `dottedName`: parts joined by dots, without the extension.
* `dottedNameUnder`: the same for a path under a root.
-/

namespace Inspection.Files

/-- The parts of a path. -/
def parts (path : String) : List String :=
  let pieces := Text.splitAll (· == '/') path.toList
  let isNothing (p : List Char) : Bool := p.isEmpty || p == ['.']
  let kept (ps : List (List Char)) : List String :=
    (ps.filter fun p => !isNothing p).map String.ofList
  match pieces with
  | [] :: rest => if rest.isEmpty then [] else "/" :: kept rest
  | ['.'] :: rest => "." :: kept rest
  | ps => kept ps

/-- The part names a file: it is neither the root nor a place relative to another. -/
def isName (part : String) : Bool := !(["/", ".", ".."].contains part)

/-- What stands before the last dot of a name; a dot in front does not count. -/
def stem (name : String) : String :=
  match Text.splitLast? (· == '.') name.toList with
  | some ([], _) | none => name
  | some (before, _) => String.ofList before

/-- What stands after the last dot of a name; a dot in front does not count. -/
def extension? (name : String) : Option String :=
  match Text.splitLast? (· == '.') name.toList with
  | some ([], _) | none => none
  | some (_, after) => some (String.ofList after)

/-- The last part without its extension.  Where a dot is all that is left of it, it is written as
two, unless slashes follow it: then it counts for nothing. -/
def dropExtension (isFollowed : Bool) (ps : List String) : List String :=
  match ps.getLast? with
  | none => ps
  | some name =>
    if !isName name then ps
    else if stem name ≠ "." then ps.dropLast ++ [stem name]
    else if !isFollowed then ps.dropLast ++ [".."]
    else if ps.dropLast.isEmpty then ["."] else ps.dropLast

/-- Parts joined by dots, without the extension. -/
def dottedName (ps : List String) : String := ".".intercalate (dropExtension false ps)

/-- Slashes follow the last part of the path. -/
def endsInSlashes (path : String) : Bool :=
  path.endsWith "/" || path.endsWith "/."

/-- The parts of a path behind those of a root, joined by dots, without the extension; all of them
if the path does not start with the root. -/
def dottedNameUnder (root path : String) : String :=
  if (parts root).isPrefixOf (parts path) then
    dottedName ((parts path).drop (parts root).length)
  else ".".intercalate (dropExtension (endsInSlashes path) (parts path))

/-- A path below a folder; an absolute path stands for itself. -/
def join (folder path : String) : String :=
  if path.startsWith "/" || folder.isEmpty then path
  else if folder.endsWith "/" then folder ++ path
  else folder ++ "/" ++ path

end Inspection.Files
