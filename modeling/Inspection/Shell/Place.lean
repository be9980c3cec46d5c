import Inspection.Files.Tree
import Inspection.Shell.Pattern
import Inspection.Shell.State

/-!
# Shell — Places

A path is looked up in the tree of files from the folder of the shell, or from the root.

* `place`: the parts of a path from the root on, or from where the shell has started.
* `State.entryOf?`: the file or the folder at a path.
* `State.matching`: the paths that fit a pattern, in order.
* `openFile`: the channel to a file.
-/

namespace Inspection.Shell

/-- The parts of a path, given by its octets, without those that lead back. -/
def place (folder : List String) (path : String) : List String :=
  let ps := (Files.parts (Text.readLossy (unspell path.toList))).filter (· != ".")
  let (base, ps) := if ps.head? == some "/" then (["/"], ps.tail) else (folder, ps)
  ps.foldl (fun at_ p =>
    if p == ".." then if at_ == ["/"] then at_ else at_.dropLast else at_ ++ [p]) base

/-- The path of the folder, by its octets; where the shell has started counts as the root. -/
def State.folderText (st : State) : String :=
  let path := match st.folder with
    | [] => ['/']
    | "/" :: rest => '/' :: Text.joinWith ['/'] (rest.map spellText)
    | ps => Text.joinWith ['/'] (ps.map spellText)
  (if st.isFolderDoubled then "/" else "") ++ String.ofList path

/-- The device that takes everything and gives nothing. -/
def nullDevice : List String := ["/", "dev", "null"]

/-- The path of a place. -/
def placeText : List String → String
  | "/" :: rest => "/" ++ "/".intercalate rest
  | ps => "/".intercalate ps

/-- The folders that are there on every machine. -/
def usualFolders : List String :=
  ["/bin", "/dev", "/etc", "/home", "/opt", "/proc", "/root", "/run", "/sbin", "/srv", "/sys",
    "/tmp", "/usr/bin", "/usr/lib", "/usr/local/bin", "/usr/sbin", "/usr/share", "/var/lib",
    "/var/log", "/var/tmp"]

/-- The files that are there on every machine; what they say differs. -/
def usualFiles : List String :=
  ["/etc/group", "/etc/hostname", "/etc/hosts", "/etc/passwd", "/etc/resolv.conf", "/etc/shadow"]

/-- The programs that are there on every machine. -/
def usualPrograms : List String :=
  ["basename", "cat", "chmod", "cp", "cut", "date", "dirname", "echo", "env", "expr", "false",
    "grep", "head", "id", "ls", "mkdir", "mv", "pwd", "rev", "rm", "rmdir", "sed", "seq", "sh",
    "sleep", "sort", "tail", "tee", "test", "touch", "tr", "true", "uname", "uniq", "wc", "xargs"]

/-- The folders with programs. -/
def programFolders : List String := ["/usr/bin", "/bin"]

/-- The tree with the folders, files and programs that are there on every machine. -/
def withUsual (files : Files.Entry) : Files.Entry :=
  let withFolders := usualFolders.foldl
    (fun e path => (Files.Entry.makeFolder? (place [] path) e).getD e) files
  let programs := programFolders.flatMap fun f => usualPrograms.map fun p => f ++ "/" ++ p
  (usualFiles ++ programs).foldl (fun e path =>
    if (Files.Entry.find? (place [] path) e).isSome then e
    else (Files.Entry.put? (.file []) (place [] path) e).getD e) withFolders

namespace State

/-- The file or the folder at a place; the device is an empty file. -/
def entryAt? (st : State) (ps : List String) : Option Files.Entry :=
  if ps == nullDevice then some (.file []) else Files.Entry.find? ps st.world.files

/-- The file or the folder at a path. -/
def entryOf? (st : State) (path : String) : Option Files.Entry :=
  if path.isEmpty then none else st.entryAt? (place st.folder path)

/-- The folder at a path is there. -/
def isFolder (st : State) (path : String) : Bool := (st.entryOf? path).any (·.isFolder)

end State

/-! ### Opening files -/

/-- Why a file cannot be opened. -/
def openFault (isCreated : Bool) : String :=
  if isCreated then "Directory nonexistent" else "No such file"

/-- The channel to a file, which is emptied if it is written anew; or why it cannot be opened. -/
def openFile (opening : Opening) (path : String) : Action (Except String Channel) := do
  let st ← get
  let ps := place st.folder path
  let entry := st.entryOf? path
  match opening with
  | .reading =>
    match entry with
    | some (.file octets) =>
      if ps == nullDevice then return .ok .nothing
      else return .ok (.source (← openSource { text := spell octets }))
    | some (.folder _) => return .ok .folder
    | none =>
      match path with
      | "/dev/stdin" => return .ok ((st.channels.lookup 0).getD .nothing)
      | _ => return .error (openFault false)
  | _ =>
    match path with
    | "/dev/stdout" => return .ok ((st.channels.lookup 1).getD .nothing)
    | "/dev/stderr" => return .ok ((st.channels.lookup 2).getD .nothing)
    | "/dev/null" => return .ok .nothing
    | _ =>
      if entry.any (·.isFolder) then return .error "Is a directory"
      else if opening == .writing && entry.isSome && st.options.contains 'C' then
        return .error "File exists"
      else if path.isEmpty || !((st.entryAt? ps.dropLast).any (·.isFolder)) then
        return .error (openFault true)
      else
        let isKept := opening == .appending && entry.isSome
        if !isKept then
          modifyWorld fun w =>
            { w with files := (Files.Entry.put? (.file []) ps w.files).getD w.files }
        return .ok (.file ps)

/-! ### Patterns for paths -/

/-- The names in a folder that fit a pattern; those with a dot in front only if it has one. -/
def fittingNames (gs : List Glyph) : Files.Entry → List String
  | .folder entries =>
    let p := Pattern.ofGlyphs gs
    let isHidden (name : String) : Bool := name.startsWith "."
    ((entries.map (·.1)).filter fun name =>
      Files.isName name && (!isHidden name || gs.head?.any (·.char == '.'))
        && p.fits (spellText name)).mergeSort textAtMost
  | .file _ => []

/-- The glyphs between slashes. -/
def pathPieces : List Glyph → List (List Glyph)
  | [] => [[]]
  | g :: gs =>
    match pathPieces gs with
    | [] => [[g]]
    | piece :: rest => if g.char == '/' then [] :: piece :: rest else (g :: piece) :: rest

/-- The paths that start with one of some and go on as the pieces tell. -/
def State.matchingFrom (st : State) : List (List Glyph) → List String → List String
  | [], paths => paths
  | piece :: rest, paths =>
    let isLast := rest.isEmpty
    let next (path : String) : List String :=
      if hasPattern piece then
        let folder := if path.isEmpty then st.entryAt? st.folder else st.entryOf? path
        ((folder.map (fittingNames piece)).getD []).map fun name =>
          path ++ String.ofList (spellText name) ++ if isLast then "" else "/"
      else
        let path := path ++ String.ofList (glyphText piece)
        if isLast then if (st.entryOf? path).isSome then [path] else []
        else [path ++ "/"]
    st.matchingFrom rest (paths.flatMap next)

/-- The paths that fit a pattern, in order. -/
def State.matching (st : State) (gs : List Glyph) : List String :=
  st.matchingFrom (pathPieces gs) [""]

end Inspection.Shell
