import Inspection.Shell.Programs.Trees

/-!
# Shell — Programs that make files and folders

* `mkdir`: folders.
* `touch`: files without content.
-/

namespace Inspection.Shell.Program

/-- Makes a folder, and tells so on demand; none if it cannot be made. -/
def makeFolder (tells : Bool) (path : String) : Action Bool := do
  let st ← get
  match Files.Entry.makeFolder? (place st.folder path) st.world.files with
  | some files =>
    modifyWorld fun w => { w with files }
    if tells then printLine (st.name ++ ": created directory " ++ inShellQuotes path)
    return true
  | none => return false

/-- The paths on the way to one, itself being the last. -/
def pathsTo (path : String) : List String :=
  let ps := Text.splitAll (· == '/') (dropSlashes path.toList)
  ((List.range ps.length).filter fun n => !((ps[n]?).getD []).isEmpty).map fun n =>
    String.ofList (Text.joinWith ['/'] (ps.take (n + 1)))

/-- Makes folders. -/
def mkdir : Program :=
  let names := [("mode", 'm'), ("parents", 'p'), ("verbose", 'v'), ("context", 'ζ')]
  withOptions { flags := ['p', 'v', 'Z'], valued := ['m'], loose := ['ζ'], names } fun c => do
    let refuse (path : String) (message : String) : Action Unit :=
      tell ("cannot create directory " ++ inShellQuotes path ++ ": " ++ message)
    let makeWay (path : String) : Action Unit := do
      let made ← (pathsTo path).foldlM (fun isGood p => do
        if !isGood then return false
        else
          match (← get).entryOf? p with
          | some (.folder _) => return true
          | some (.file _) =>
            refuse p (if p.length == (dropSlashes path.toList).length then "File exists"
              else "Not a directory")
            return false
          | none => makeFolder (c.has 'v') p) true
      if made then pure () else setStatus 1
    if c.operands.isEmpty then missingOperand
    else match (c.value? 'm').filter (!isMode ·) with
    | some s => tell ("invalid mode " ++ named s)
    | none =>
      c.operands.forM fun path => do
        if path.isEmpty then refuse path "No such file or directory"
        else if c.has 'p' then makeWay path
        else if ((← get).entryOf? path).isSome then refuse path "File exists"
        else match ← folderAbove? path with
        | some f => refuse path f.message
        | none =>
          let _ ← makeFolder (c.has 'v') path
          return ()

/-- A text tells a time in digits. -/
def isStamp (s : String) : Bool :=
  let ds := s.toList.takeWhile Char.isDigit
  let rest := s.toList.drop ds.length
  [8, 10, 12].contains ds.length
    && (rest.isEmpty || (rest.length == 3 && rest.head? == some '.' && rest.tail.all Char.isDigit))

/-- A text tells a date, in digits or by a word. -/
def isDate (s : String) : Bool :=
  let words := ["", "now", "today", "yesterday", "tomorrow", "noon", "midnight"]
  s.toList.any Char.isDigit || words.contains (String.ofList (s.toList.map Char.toLower))

/-- Makes files that are not there. -/
def touch : Program :=
  let names := [("time", 'τ'), ("no-create", 'c'), ("date", 'd'), ("reference", 'r'),
    ("no-dereference", 'h')]
  withOptions { flags := ['a', 'c', 'f', 'h', 'm'], valued := ['d', 'r', 't', 'τ'], names }
    fun c => do
    let stampFault := ((c.value? 't').filter (!isStamp ·)).orElse fun _ =>
      (c.value? 'd').filter (!isDate ·)
    let reference ← match c.value? 'r' with
      | some path => do pure ((fault? (← entryAt path)).map fun f => (path, f))
      | none => pure none
    match reference, stampFault with
    | some (path, f), _ =>
      tell ("failed to get attributes of " ++ inShellQuotes path ++ ": " ++ f.message)
    | none, some s => tell ("invalid date format " ++ named s)
    | none, none =>
      if c.operands.isEmpty then misuse "missing file operand"
      c.operands.forM fun path => do
        let refuse (f : FileFault) : Action Unit :=
          tell ("cannot touch " ++ inShellQuotes path ++ ": " ++ f.message)
        match ← entryAt path with
        | .ok _ => return ()
        | .error .missing =>
          if c.has 'c' then return ()
          else if isFolderPath path then
            tell ("setting times of " ++ inShellQuotes path ++ ": No such file or directory")
          else match ← folderAbove? path with
          | some f => refuse f
          | none => putAt path (.file [])
        | .error f => refuse f

end Inspection.Shell.Program
