import Inspection.Shell.Programs.Removing

/-!
# Shell — Copies of files, and other places for them

* `cp`: copies of files and folders.
* `mv`: other places for them.
-/

namespace Inspection.Shell.Program

/-- How a call copies or moves. -/
structure Transfer where
  /-- The file stays where it is as well. -/
  isCopy : Bool
  isDeep : Bool
  asks : Bool
  keeps : Bool
  tells : Bool

mutual

/-- Tells the copies of an entry and of all in it. -/
def tellCopies (source target : String) : Files.Entry → Action Unit
  | .file _ => printLine (inShellQuotes source ++ " -> " ++ inShellQuotes target)
  | .folder entries => do
    printLine (inShellQuotes source ++ " -> " ++ inShellQuotes target)
    tellEntries source target entries

/-- Tells the copies of the entries of a folder. -/
def tellEntries (source target : String) : List (String × Files.Entry) → Action Unit
  | [] => return ()
  | (name, e) :: rest => do
    let name := String.ofList (spellText name)
    tellCopies (joinPath source name) (joinPath target name) e
    tellEntries source target rest

end

mutual

/-- An entry with another one put over it. -/
def overlaid : Files.Entry → Files.Entry → Files.Entry
  | .folder entries, .folder old => .folder (overlaidEntries entries old)
  | e, _ => e

/-- The entries of a folder with others put over them. -/
def overlaidEntries : List (String × Files.Entry) → List (String × Files.Entry) →
    List (String × Files.Entry)
  | [], old => old
  | (name, e) :: rest, old =>
    let merged := match old.lookup name with
      | some f => overlaid e f
      | none => e
    overlaidEntries rest (Files.Entry.set old name merged)

end

/-- Copies or moves one entry to a path. -/
def transferTo (t : Transfer) (source target : String) : Action Unit := do
  let st ← get
  let from_ := place st.folder source
  let to_ := place st.folder target
  let between := inShellQuotes source ++ " to " ++ inShellQuotes target
  match ← entryAt source with
  | .error f => tell ("cannot stat " ++ inShellQuotes source ++ ": " ++ f.message)
  | .ok e =>
    let old := st.entryAt? to_
    if e.isFolder && t.isCopy && !t.isDeep then
      tell ("-r not specified; omitting directory " ++ inShellQuotes source)
    else if from_ == to_ then
      tell (inShellQuotes source ++ " and " ++ inShellQuotes target ++ " are the same file")
    else if e.isFolder && from_.isPrefixOf to_ then
      if t.isCopy then
        tell ("cannot copy a directory, " ++ inShellQuotes source ++ ", into itself, "
          ++ inShellQuotes target)
      else
        tell ("cannot move " ++ inShellQuotes source ++ " to a subdirectory of itself, "
          ++ inShellQuotes target)
    else if !e.isFolder && old.any (·.isFolder) then
      tell ("cannot overwrite directory " ++ inShellQuotes target ++ " with non-directory")
    else if e.isFolder && old.any (!·.isFolder) then
      tell ("cannot overwrite non-directory " ++ inShellQuotes target ++ " with directory "
        ++ inShellQuotes source)
    else if t.keeps && old.isSome then
      if !t.isCopy then tell ("not replacing " ++ inShellQuotes target)
    else
      let fault ← if !e.isFolder && isFolderPath target then pure (some FileFault.noFolder)
        else folderAbove? target
      match fault with
      | some f =>
        if t.isCopy then
          let kind := if e.isFolder then "directory " else "regular file "
          tell ("cannot create " ++ kind ++ inShellQuotes target ++ ": " ++ f.message)
        else tell ("cannot move " ++ between ++ ": " ++ f.message)
      | none =>
        let isWanted ← if t.asks && old.isSome && !e.isFolder
          then ask ("overwrite " ++ inShellQuotes target) else pure true
        if !isWanted then
          if t.isCopy then setStatus 1
        else
          match e, old with
          | .folder _, some (.folder (x :: rest)) =>
            if t.isCopy then putAt target (overlaid e (.folder (x :: rest)))
            else tell ("cannot move " ++ between ++ ": Directory not empty")
          | _, _ => putAt target e
          if t.isCopy then if t.tells then tellCopies source target e
          else
            removeAt source
            if t.tells then
              printLine ("renamed " ++ inShellQuotes source ++ " -> " ++ inShellQuotes target)

/-- Copies or moves the operands of a call to the last of them, or into a folder. -/
def transfer (t : Transfer) (c : Call) : Action Unit := do
  let into (folder : String) (paths : List String) : Action Unit :=
    paths.forM fun path => transferTo t path (joinPath folder (lastPart path))
  match c.value? 't', c.operands with
  | _, [] => misuse "missing file operand"
  | some folder, paths =>
    match ← entryAt folder with
    | .ok (.folder _) => into folder paths
    | .ok _ => tell ("target directory " ++ inShellQuotes folder ++ ": Not a directory")
    | .error f => tell ("target directory " ++ inShellQuotes folder ++ ": " ++ f.message)
  | none, [path] => misuse ("missing destination file operand after " ++ inShellQuotes path)
  | none, paths =>
    let target := paths.getLastD ""
    let isFolder := (← get).isFolder target && !c.has 'T'
    match paths.dropLast with
    | [path] => if isFolder then into target [path] else transferTo t path target
    | more =>
      if isFolder then into target more
      else if c.has 'T' then extraOperand ((more[2]?).getD target)
      else
        match ← entryAt target with
        | .ok _ => tell ("target " ++ inShellQuotes target ++ ": Not a directory")
        | .error f => tell ("target " ++ inShellQuotes target ++ ": " ++ f.message)

/-- Copies files and folders. -/
def cp : Program :=
  let names := [("archive", 'a'), ("force", 'f'), ("interactive", 'i'), ("no-clobber", 'n'),
    ("recursive", 'r'), ("target-directory", 't'), ("no-target-directory", 'T'),
    ("update", 'υ'), ("verbose", 'v'), ("preserve", 'π')]
  withOptions
    { flags := ['a', 'd', 'f', 'H', 'i', 'L', 'n', 'p', 'P', 'r', 'R', 'T', 'u', 'v', 'x']
      valued := ['t'], loose := ['υ', 'π'], names } fun c =>
    transfer
      { isCopy := true, isDeep := ['r', 'R', 'a'].any c.has
        asks := c.last? ['f', 'i', 'n'] == some 'i', keeps := c.last? ['i', 'n'] == some 'n'
        tells := c.has 'v' } c

/-- Moves files and folders. -/
def mv : Program :=
  let names := [("force", 'f'), ("interactive", 'i'), ("no-clobber", 'n'),
    ("target-directory", 't'), ("no-target-directory", 'T'), ("update", 'υ'), ("verbose", 'v')]
  withOptions
    { flags := ['f', 'i', 'n', 'T', 'u', 'v'], valued := ['t'], loose := ['υ'], names } fun c =>
    transfer
      { isCopy := false, isDeep := true, asks := c.last? ['f', 'i', 'n'] == some 'i'
        keeps := c.last? ['f', 'i', 'n'] == some 'n', tells := c.has 'v' } c

end Inspection.Shell.Program
