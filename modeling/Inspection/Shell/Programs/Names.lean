import Inspection.Shell.Escape
import Inspection.Shell.Number
import Inspection.Shell.Programs.Trees

/-!
# Shell — Programs that tell names and texts

* `basename`, `dirname`: parts of paths.
* `printenv`, `uname`: what is known about the process and the system.
* `echo`, `yes`: their arguments, once or without an end.
-/

namespace Inspection.Shell.Program

/-- Shows texts, each with its end. -/
def showTexts (c : Call) (texts : List String) : Action Unit :=
  print (unlinesBy (if c.has 'z' || c.has '0' then '\x00' else '\n') (texts.map (·.toList)))

/-- The last part of a path, without an ending unless that is all of it. -/
def nameWithout (ending path : String) : String :=
  let last := lastPart path
  match Text.dropTail? ending.toList last.toList with
  | some short => if short.isEmpty || last == "/" then last else String.ofList short
  | none => last

/-- Shows the last parts of paths. -/
def basename : Program :=
  let names := [("multiple", 'a'), ("suffix", 's'), ("zero", 'z')]
  withOptions { flags := ['a', 'z'], valued := ['s'], names, stopsAtOperand := true } fun c => do
    let isMany := c.has 'a' || c.has 's'
    match c.operands with
    | [] => missingOperand
    | path :: rest =>
      if isMany then showTexts c (c.operands.map (nameWithout ((c.value? 's').getD "")))
      else match rest with
      | [] => showTexts c [nameWithout "" path]
      | [ending] => showTexts c [nameWithout ending path]
      | _ :: extra :: _ => extraOperand extra

/-- A path without its last part. -/
def folderOf (path : String) : String :=
  let s := dropSlashes path.toList
  if s.contains '/' then String.ofList (dropSlashes (s.reverse.dropWhile (· != '/')).reverse)
  else "."

/-- Shows paths without their last parts. -/
def dirname : Program :=
  withOptions { flags := ['z'], names := [("zero", 'z')] } fun c => do
    if c.operands.isEmpty then missingOperand
    showTexts c (c.operands.map folderOf)

/-- Shows the values of variables, or all of them. -/
def printenv : Program :=
  let names := [("null", '0')]
  withOptions { flags := ['0'], names, fault := 2, stopsAtOperand := true } fun c => do
    let vars := (← get).environment
    if c.operands.isEmpty then showTexts c (vars.map fun (name, value) => name ++ "=" ++ value)
    showTexts c (c.operands.filterMap fun name => vars.lookup name)
    if c.operands.any fun name => (vars.lookup name).isNone then setStatus 1

/-- What the system is called, by the letters of options. -/
def systemNames : List (Char × String) := [('s', "Linux"), ('m', "x86_64"), ('o', "GNU/Linux")]

/-- Shows the name of the system. -/
def uname : Program :=
  let names := [("kernel-name", 's'), ("machine", 'm'), ("operating-system", 'o')]
  withOptions { flags := ['s', 'm', 'o'], names } fun c => do
    match c.operands with
    | extra :: _ => extraOperand extra
    | [] =>
      let wanted := systemNames.filter fun (letter, _) => c.has letter
      let shown := if wanted.isEmpty then systemNames.take 1 else wanted
      printLine (" ".intercalate (shown.map (·.2)))

/-- What a text with escapes stands for, and whether it goes on behind it. -/
def echoText : Nat → List Char → List Char × Bool
  | 0, _ => ([], true)
  | _ + 1, [] => ([], true)
  | fuel + 1, '\\' :: c :: s =>
    let more (shown : List Char) (rest : List Char) : List Char × Bool :=
      let (text, goesOn) := echoText fuel rest
      (shown ++ text, goesOn)
    match c with
    | 'c' => ([], false)
    | '0' =>
      let ds := (s.take 3).takeWhile Escape.isOctal
      more [Escape.octet ds] (s.drop ds.length)
    | 'x' =>
      let ds := (s.take 2).takeWhile (isDigitOf 16)
      if ds.isEmpty then more ['\\', 'x'] s
      else more [Char.ofNat (ofDigits 16 ds)] (s.drop ds.length)
    | _ =>
      let ds := ((c :: s).take 3).takeWhile Escape.isOctal
      if !ds.isEmpty then more [Escape.octet ds] ((c :: s).drop ds.length)
      else match Escape.letter? c with
      | some d => more [d] s
      | none => more ['\\', c] s
  | fuel + 1, c :: s =>
    let (text, goesOn) := echoText fuel s
    (c :: text, goesOn)

/-- Shows its arguments; escapes have a meaning only on demand. -/
def echo : Program := fun args => do
  let isOption (s : String) : Bool :=
    s.length > 1 && s.startsWith "-" && (s.toList.drop 1).all ['n', 'e', 'E'].contains
  let options := (args.takeWhile isOption).flatMap fun s => s.toList.drop 1
  let rest := args.dropWhile isOption
  let escapes := (options.reverse.find? (· != 'n')) == some 'e'
  let s := (" ".intercalate rest).toList
  let (text, goesOn) := if escapes then echoText (s.length + 1) s else (s, true)
  print (if options.contains 'n' || !goesOn then text else text ++ ['\n'])
  setStatus 0

/-- Shows a line as often as it is read: a pipe takes a part of that, and there is no end without
one. -/
def yes : Program := withOptions { stopsAtOperand := true } fun c => do
  let words := if c.operands.isEmpty then ["y"] else c.operands
  match (← get).channels.lookup 1 with
  | some (.sink id) =>
    if id < 3 then stop .endless
    print (List.replicate 4096 ((" ".intercalate words).toList ++ ['\n'])).flatten
  | _ => stop .endless

end Inspection.Shell.Program
