import Inspection.Shell.Place
import Inspection.Shell.Programs.Call

/-!
# Shell — Programs and what they read

A program runs in a process of its own, so that it changes nothing but the world.  Its messages
start with the name by which it has been started.

* `Program`: what a program does with its arguments.
* `withOptions`: a program by its options.
* `octetsOf`, `eachFile`, `allOctets`: the files that a program reads.
-/

namespace Inspection.Shell

/-- What a program does with its arguments. -/
abbrev Program := List String → Action Unit

namespace Program

/-! ### Messages -/

/-- Writes a message of a program, which fails with an exit code. -/
def tellWith (status : Nat) (message : String) : Action Unit := do
  printError ((← get).name ++ ": " ++ message)
  setStatus status

/-- Writes a message of a program, which fails. -/
def tell (message : String) : Action Unit := tellWith 1 message

/-- Writes a message about how a program is called, which fails with an exit code. -/
def misuseWith (status : Nat) (message : String) : Action Unit := do
  tellWith status message
  printError ("Try '" ++ (← get).name ++ " --help' for more information.")

/-- Writes a message about how a program is called. -/
def misuse (message : String) : Action Unit := misuseWith 1 message

/-- Tells that an operand is missing. -/
def missingOperand : Action Unit := misuse "missing operand"

/-- Tells that there is an operand too many. -/
def extraOperand (s : String) : Action Unit := misuse ("extra operand " ++ named s)

/-- The message about a value that is not among those of an option. -/
def wrongValue (s option : String) (known : List String) : String :=
  "invalid argument " ++ named s ++ " for '--" ++ option ++ "'\nValid arguments are:\n"
    ++ "\n".intercalate (known.map ("  - " ++ ·))

/-- Runs a program with its options told from its operands. -/
def withOptions (o : Options) (run : Call → Action Unit) : Program := fun args => do
  match o.read (args.length + 1) args with
  | .ok c =>
    setStatus 0
    if (c.last? ['η', 'ν']).isNone then run c
  | .error message => misuseWith o.fault message

/-- Runs a program by a name. -/
def runAs (name : String) (p : Program) : Program := fun args =>
  keeping (fun st after => { after with name := st.name }) do
    modify fun st => { st with name }
    p args

/-! ### Files -/

/-- Why a file cannot be read. -/
inductive FileFault where
  | missing
  | isFolder
  /-- A file stands where a folder is needed. -/
  | noFolder
deriving DecidableEq, Repr

/-- The wording of the fault. -/
def FileFault.message : FileFault → String
  | .missing => "No such file or directory"
  | .isFolder => "Is a directory"
  | .noFolder => "Not a directory"

/-- Why there is nothing at a path. -/
def absence (path : String) : Action FileFault := do
  let st ← get
  let ps := place st.folder path
  let isFile (e : Option Files.Entry) : Bool := e.any (!·.isFolder)
  let above := (List.range ps.length).any fun n => n != 0 && isFile (st.entryAt? (ps.take n))
  return if !path.isEmpty && above then .noFolder else .missing

/-- The octets of a file, or of the input. -/
def octetsOf (path : String) : Action (Except FileFault (List Char)) := do
  if path == "-" || path == "/dev/stdin" then
    if (← get).channels.lookup 0 == some .folder then return .error .isFolder
    else return .ok (← takeInput)
  else
    match (← get).entryOf? path with
    | some (.file octets) =>
      if path.endsWith "/" then return .error .noFolder else return .ok (spell octets)
    | some (.folder _) => return .error .isFolder
    | none => return .error (← absence path)

/-- The operands that are files; without any, the input. -/
def inputs (operands : List String) : List String := if operands.isEmpty then ["-"] else operands

/-- Does something with each file; one that cannot be read is told by its path. -/
def eachFile (paths : List String) (blame : String → FileFault → Action Unit)
    (use : String → List Char → Action Unit) : Action Unit :=
  paths.forM fun path => do
    match ← octetsOf path with
    | .ok s => use path s
    | .error f => blame path f

/-- The octets of each file that can be read. -/
def octetsOfAll (paths : List String) (blame : String → FileFault → Action Unit) :
    Action (List (List Char)) :=
  paths.filterMapM fun path => do
    match ← octetsOf path with
    | .ok s => return some s
    | .error f =>
      blame path f
      return none

/-- A message about a file, by its path. -/
def plainBlame (path : String) (f : FileFault) : Action Unit :=
  tell (quotedName path ++ ": " ++ f.message)

/-- A message about a file that cannot be opened or read. -/
def openBlame (path : String) (f : FileFault) : Action Unit :=
  match f with
  | .isFolder => tell ("error reading " ++ inShellQuotes path ++ ": " ++ f.message)
  | _ => tell ("cannot open " ++ inShellQuotes path ++ " for reading: " ++ f.message)

/-! ### Lines -/

/-- The parts of a text between marks that end them; whether the last one has its mark. -/
def partsBy (mark : Char) (s : List Char) : List (List Char) × Bool :=
  let step (c : Char) (r : List Char × List (List Char)) : List Char × List (List Char) :=
    if c == mark then ([], r.1 :: r.2) else (c :: r.1, r.2)
  let isEnded := s.getLast? == some mark
  if s.isEmpty then ([], true)
  else
    let (first, rest) := (if isEnded then s.dropLast else s).foldr step ([], [])
    (first :: rest, isEnded)

/-- The lines of a text, without their ends. -/
def linesBy (mark : Char) (s : List Char) : List (List Char) := (partsBy mark s).1

/-- The lines of a text, with their ends. -/
def wholeLinesBy (mark : Char) (s : List Char) : List (List Char) :=
  let (ls, isEnded) := partsBy mark s
  if isEnded then ls.map (· ++ [mark]) else ls.dropLast.map (· ++ [mark]) ++ (ls.getLast?).toList

/-- Lines with their ends. -/
def unlinesBy (mark : Char) (ls : List (List Char)) : List Char := ls.flatMap (· ++ [mark])

/-- What ends the lines that a call asks for. -/
def Call.lineEnd (c : Call) : Char := if c.has 'z' then '\x00' else '\n'

/-- A number at the end of so many columns. -/
def rightAligned (width n : Nat) : List Char :=
  let ds := Text.digits n
  List.replicate (width - ds.length) ' ' ++ ds

/-! ### Amounts -/

/-- What a letter behind a number multiplies it by: a power of so many thousands. -/
def thousands : List (Char × Nat) :=
  [('k', 1), ('K', 1), ('m', 2), ('M', 2), ('G', 3), ('T', 4), ('P', 5), ('E', 6), ('Z', 7),
    ('Y', 8), ('R', 9), ('Q', 10)]

/-- Why a text is no amount. -/
inductive AmountFault where
  | invalid
  | tooLarge
deriving DecidableEq, Repr

/-- The amount that digits and a unit tell. -/
def amount (s : List Char) : Except AmountFault Nat :=
  let ds := s.takeWhile Char.isDigit
  let n := (Text.ofDigits? ds).getD 1
  let scaled (factor : Nat) : Except AmountFault Nat :=
    if Text.unsignedBound ≤ n * factor then .error .tooLarge else .ok (n * factor)
  match s.drop ds.length with
  | [] => if ds.isEmpty then .error .invalid else scaled 1
  | ['b'] => scaled 512
  | c :: unit =>
    match thousands.lookup c, unit with
    | some k, [] | some k, ['i', 'B'] => scaled (Nat.pow 1024 k)
    | some k, ['B'] => scaled (Nat.pow 1000 k)
    | _, _ => .error .invalid

/-- The wording of the fault. -/
def AmountFault.message : AmountFault → String
  | .invalid => ""
  | .tooLarge => ": Value too large for defined data type"

end Program

end Inspection.Shell
