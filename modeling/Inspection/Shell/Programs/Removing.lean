import Inspection.Shell.Programs.Making

/-!
# Shell — Programs that remove files and folders

* `rm`: files, and folders with all in them.
* `rmdir`: folders that are empty.
-/

namespace Inspection.Shell.Program

/-- When it is asked before something is removed. -/
inductive Asking where
  | never
  | once
  | always
deriving DecidableEq, Repr

/-- When a call asks; the last one of its options counts. -/
def askingOf (c : Call) : Asking :=
  let ways := c.options.filterMap fun (letter, value) =>
    match letter with
    | 'f' => some Asking.never
    | 'i' => some .always
    | 'I' => some .once
    | 'ι' =>
      if ["never", "no", "none"].contains value then some .never
      else if value == "once" then some .once
      else some .always
    | _ => none
  ways.getLast?.getD .never

mutual

/-- Removes what is at a path, in the order of names; whether it is gone. -/
def removeEntry (asks tells : Bool) (path : String) : Files.Entry → Action Bool
  | .file octets => do
    let kind := if octets.isEmpty then "regular empty file " else "regular file "
    let isWanted ← if asks then ask ("remove " ++ kind ++ inShellQuotes path) else pure true
    if isWanted then
      removeAt path
      if tells then printLine ("removed " ++ inShellQuotes path)
    return isWanted
  | .folder entries => do
    let isOpened ← if asks && !entries.isEmpty
      then ask ("descend into directory " ++ inShellQuotes path) else pure true
    if !isOpened then return false
    else
      let isEmpty ← removeEntries asks tells path entries
      if !isEmpty then return false
      else
        let isWanted ← if asks then ask ("remove directory " ++ inShellQuotes path) else pure true
        if isWanted then
          removeAt path
          if tells then printLine ("removed directory " ++ inShellQuotes path)
        return isWanted

/-- Removes the entries of a folder; whether all are gone. -/
def removeEntries (asks tells : Bool) (folder : String) :
    List (String × Files.Entry) → Action Bool
  | [] => return true
  | (name, e) :: rest => do
    let isGone ← removeEntry asks tells (joinPath folder (String.ofList (spellText name))) e
    let areGone ← removeEntries asks tells folder rest
    return isGone && areGone

end

/-- Removes files and folders. -/
def rm : Program :=
  let names := [("force", 'f'), ("interactive", 'ι'), ("one-file-system", 'ο'),
    ("no-preserve-root", 'π'), ("preserve-root", 'ρ'), ("recursive", 'r'), ("dir", 'd'),
    ("verbose", 'v')]
  withOptions
    { flags := ['f', 'i', 'I', 'r', 'R', 'd', 'v', 'ο', 'π'], loose := ['ι', 'ρ'], names }
    fun c => do
    let isDeep := c.has 'r' || c.has 'R'
    let asking := askingOf c
    let isForced := c.last? ['f', 'i', 'I', 'ι'] == some 'f'
    let ways := ["", "never", "no", "none", "once", "always", "yes"]
    let remove (path : String) : Action Unit := do
      let quoted := "cannot remove " ++ inShellQuotes path ++ ": "
      let found ← entryAt path
      match found with
      | .error f => if isForced then return () else tell (quoted ++ f.message)
      | .ok e =>
        let last := lastPart path
        if e.isFolder && !isDeep && !(c.has 'd' && last != "." && last != "..") then
          tell (quoted ++ "Is a directory")
        else if e.isFolder && last == "/" then
          tell "it is dangerous to operate recursively on '/'"
          tell "use --no-preserve-root to override this failsafe"
        else if e.isFolder && (last == "." || last == "..") then
          tell ("refusing to remove '.' or '..' directory: skipping " ++ inShellQuotes path)
        else match e, isDeep with
        | .folder (_ :: _), false => tell (quoted ++ "Directory not empty")
        | _, _ =>
          let _ ← removeEntry (asking == .always) (c.has 'v') path e
          return ()
    match (c.value? 'ι').filter fun s => !(ways.contains s) with
    | some s =>
      misuse ("invalid argument " ++ named s ++ " for '--interactive'\nValid arguments are:\n"
        ++ "  - 'never', 'no', 'none'\n  - 'once'\n  - 'always', 'yes'")
    | none =>
      if c.operands.isEmpty then if isForced then return () else missingOperand
      else
        let count := c.operands.length
        let many := if count == 1 then "1 argument" else Text.natText count ++ " arguments"
        let isWanted ← if asking == .once && (isDeep || 3 < count)
          then ask ("remove " ++ many ++ if isDeep then " recursively" else "") else pure true
        if isWanted then c.operands.forM remove
/-- Removes empty folders. -/
def rmdir : Program :=
  let names := [("ignore-fail-on-non-empty", 'ι'), ("parents", 'p'), ("verbose", 'v')]
  withOptions { flags := ['p', 'v', 'ι'], names } fun c => do
    let remove (what path : String) : Action Bool := do
      let refuse (message : String) : Action Bool := do
        tell ("failed to remove " ++ what ++ inShellQuotes path ++ ": " ++ message)
        return false
      if c.has 'v' then
        printLine ((← get).name ++ ": removing directory, " ++ inShellQuotes path)
      match ← entryAt path with
      | .ok (.folder []) =>
        removeAt path
        return true
      | .ok (.folder _) =>
        if c.has 'ι' then return false else refuse "Directory not empty"
      | .ok (.file _) => refuse "Not a directory"
      | .error f => refuse f.message
    if c.operands.isEmpty then missingOperand
    else c.operands.forM fun path => do
      let above := if c.has 'p' then (pathsTo path).dropLast.reverse else []
      let isGone ← remove "" path
      let _ ← above.foldlM (fun goesOn p => do
        if goesOn then remove "directory " p else return false) isGone
      return ()

end Inspection.Shell.Program
