import Inspection.Shell.Programs.Basic

/-!
# Shell — The tree of files, as programs see it

* `entryAt`: what stands at a path, or why nothing does.
* `putAt`, `removeAt`: the tree with one entry more or less.
* `ask`: a question before something is overwritten or removed.
-/

namespace Inspection.Shell.Program

/-- The tree without an entry. -/
def without : List String → Files.Entry → Files.Entry
  | [], e => e
  | _, .file octets => .file octets
  | [name], .folder entries => .folder (entries.filter (·.1 != name))
  | name :: rest, .folder entries =>
    .folder (entries.map fun (n, e) => (n, if n == name then without rest e else e))

/-- Removes what is at a path. -/
def removeAt (path : String) : Action Unit :=
  modify fun st =>
    { st with world := { st.world with files := without (place st.folder path) st.world.files } }

/-- Puts an entry at a path. -/
def putAt (path : String) (e : Files.Entry) : Action Unit :=
  modify fun st =>
    let ps := place st.folder path
    let files := (Files.Entry.put? e ps (without ps st.world.files)).getD st.world.files
    { st with world := { st.world with files } }

/-- A path ends in a slash, so that it can only be that of a folder. -/
def isFolderPath (path : String) : Bool := path.endsWith "/" && path.length > 1

/-- What is at a path; a file is none if the path can only be that of a folder. -/
def entryAt (path : String) : Action (Except FileFault Files.Entry) := do
  match (← get).entryOf? path with
  | some (.file octets) =>
    if isFolderPath path then return .error .noFolder else return .ok (.file octets)
  | some e => return .ok e
  | none => return .error (← absence path)

/-- Why there is nothing where something was looked for. -/
def fault? : Except FileFault Files.Entry → Option FileFault
  | .ok _ => none
  | .error f => some f

/-- The folder in which something would stand is there; otherwise why it is not. -/
def folderAbove? (path : String) : Action (Option FileFault) := do
  let st ← get
  if path.isEmpty then return some .missing
  else if (st.entryAt? (place st.folder path).dropLast).any (·.isFolder) then return none
  else return some (← absence path)

/-- The name of a path within a folder. -/
def joinPath (folder name : String) : String :=
  if folder.endsWith "/" then folder ++ name else folder ++ "/" ++ name

/-- A path without the slashes it ends with. -/
def dropSlashes (s : List Char) : List Char :=
  let t := (s.reverse.dropWhile (· == '/')).reverse
  if t.isEmpty && !s.isEmpty then ['/'] else t

/-- The last part of a path. -/
def lastPart (path : String) : String :=
  let s := dropSlashes path.toList
  if s == ['/'] then "/" else String.ofList (s.reverse.takeWhile (· != '/')).reverse

/-- Asks whether something is to be done; the input answers. -/
def ask (question : String) : Action Bool := do
  let line (s : List Char) : List Char × List Char :=
    let l := s.takeWhile (· != '\n')
    (l, s.drop (l.length + 1))
  printOn 2 ((← get).name ++ ": " ++ question ++ "? ").toList
  let answer := (← takeFrom 0 line).getD []
  return answer.head?.any fun c => c == 'y' || c == 'Y'

/-- A text says which permissions a file is to have. -/
def isMode (s : String) : Bool :=
  let cs := s.toList
  let isOctal := !cs.isEmpty && cs.length ≤ 5 && cs.all fun c => '0' ≤ c && c ≤ '7'
  let isClause (c : List Char) : Bool :=
    let rest := c.dropWhile ['u', 'g', 'o', 'a'].contains
    rest.head?.any ['+', '-', '='].contains
      && rest.all ['+', '-', '=', 'r', 'w', 'x', 'X', 's', 't', 'u', 'g', 'o'].contains
  isOctal || (!cs.isEmpty && (Text.splitAll (· == ',') cs).all isClause)

end Inspection.Shell.Program
