import Inspection.Shell.Pattern
import Inspection.Shell.Programs.Trees

/-!
# Shell — Names in folders

* `ls`: the names in folders.
-/

namespace Inspection.Shell.Program

/-- A name as a listing shows it. -/
def listedName (c : Call) (name : String) (e : Option Files.Entry) : String :=
  let isFolder := e.any (·.isFolder)
  let shown := if c.has 'Q' then "\"" ++ name ++ "\"" else name
  if isFolder && (c.has 'F' || c.has 'p') then shown ++ "/" else shown

/-- Shows names, one on each line or behind one another. -/
def showNames (c : Call) (names : List String) : Action Unit :=
  match c.last? ['1', 'm', 'x', 'C'] with
  | some 'm' =>
    if names.isEmpty then return () else printLine (", ".intercalate names)
  | some 'x' | some 'C' =>
    if names.isEmpty then return () else printLine ("  ".intercalate names)
  | _ => names.forM printLine

/-- The names in a folder that a listing shows. -/
def namesIn (c : Call) (entries : List (String × Files.Entry)) :
    List (String × Option Files.Entry) :=
  let isHidden (name : String) : Bool :=
    let ignored := (c.options.filter (·.1 == 'I')).any fun (_, p) =>
      (Pattern.ofGlyphs (glyphs false p.toList)).fits (spellText name)
    (name.startsWith "." && !(c.has 'a' || c.has 'A' || c.has 'f'))
      || (c.has 'B' && name.endsWith "~") || ignored
  let kept := ((entries.filter fun (n, _) => Files.isName n && !isHidden n).map
    fun (n, e) => (n, some e))
  let dots := if c.has 'a' || c.has 'f' then [".", ".."].map fun n => (n, none) else []
  let sorted := (dots ++ kept).mergeSort fun a b => textAtMost a.1 b.1
  if c.has 'r' then sorted.reverse else sorted

/-- Lists a folder, and the folders in it on demand. -/
def listFolder (c : Call) : Nat → Bool → Bool → String → List (String × Files.Entry) →
    Action Unit
  | 0, _, _, _, _ => return ()
  | fuel + 1, isTitled, isFirst, path, entries => do
    let shown := namesIn c entries
    if isTitled then printLine ((if isFirst then "" else "\n") ++ path ++ ":")
    let dot (n : String) : Bool := n == "." || n == ".."
    showNames c (shown.map fun (n, e) =>
      listedName c (String.ofList (spellText n)) (if dot n then some (.folder []) else e))
    if c.has 'R' then
      shown.forM fun (n, e) =>
        match e with
        | some (.folder inner) =>
          listFolder c fuel true false (joinPath path (String.ofList (spellText n))) inner
        | _ => return ()

/-- How deep folders may lie within one another. -/
def folderDepth : Nat := 256

/-- Shows the names in folders. -/
def ls : Program :=
  let names := [("all", 'a'), ("almost-all", 'A'), ("ignore-backups", 'B'), ("directory", 'd'),
    ("classify", 'F'), ("ignore", 'I'), ("quote-name", 'Q'), ("reverse", 'r'),
    ("recursive", 'R')]
  withOptions
    { flags := ['1', 'a', 'A', 'B', 'C', 'd', 'f', 'F', 'm', 'p', 'Q', 'r', 'R', 'S', 't', 'U', 'v',
        'x', 'X'], valued := ['I'], names, fault := 2 } fun c => do
    let paths := (if c.operands.isEmpty then ["."] else c.operands).mergeSort fun a b =>
      if c.has 'r' then textAtMost b a else textAtMost a b
    let found ← paths.filterMapM fun path => do
      match ← entryAt path with
      | .ok e => return some (path, e)
      | .error f =>
        tellWith 2 ("cannot access " ++ inShellQuotes path ++ ": " ++ f.message)
        return none
    let isPlain (e : Files.Entry) : Bool := !e.isFolder || c.has 'd'
    let plain := found.filter fun (_, e) => isPlain e
    let folders := found.filter fun (_, e) => !isPlain e
    showNames c (plain.map fun (path, e) => listedName c path (some e))
    let isTitled := 1 < paths.length || c.has 'R'
    (folders.zipIdx).forM fun ((path, e), i) =>
      match e with
      | .folder entries =>
        listFolder c folderDepth isTitled (plain.isEmpty && i == 0) path entries
      | .file _ => return ()

end Inspection.Shell.Program
