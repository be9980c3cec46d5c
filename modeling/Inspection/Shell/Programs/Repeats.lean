import Inspection.Shell.Programs.Order

/-!
# Shell — Lines that are the same

* `uniq`: lines that follow one another and are the same.
-/

namespace Inspection.Shell.Program

/-- Lines that follow one another and are the same, together. -/
def runsOf (same : List Char → List Char → Bool) (ls : List (List Char)) :
    List (List (List Char)) :=
  ls.foldr (fun l runs =>
    match runs with
    | (m :: run) :: rest => if same l m then (l :: m :: run) :: rest else [l] :: runs
    | _ => [l] :: runs) []

/-- Where empty lines stand among groups of lines. -/
structure Gaps where
  inFront : Bool
  between : Bool
  behind : Bool

/-- Groups of lines with empty lines among them. -/
def withGaps (g : Gaps) (groups : List (List (List Char))) : List (List Char) :=
  if groups.isEmpty then []
  else
    (if g.inFront then [[]] else [])
      ++ (groups.intersperse (if g.between then [[]] else [])).flatten
      ++ (if g.behind then [[]] else [])

/-- Where empty lines stand, by the names of the ways. -/
def gapNames : List (String × Gaps) :=
  [("none", ⟨false, false, false⟩), ("prepend", ⟨true, true, false⟩),
    ("append", ⟨false, true, true⟩), ("separate", ⟨false, true, false⟩),
    ("both", ⟨true, true, true⟩)]

/-- The part of a line by which it is the same as another one. -/
def comparedPart (fields chars : Nat) (width : Option Nat) (ignoresCase : Bool) (l : List Char) :
    List Char :=
  let rest := (dropFields none fields l).drop chars
  let part := match width with
    | some n => rest.take n
    | none => rest
  if ignoresCase then part.map Char.toUpper else part

/-- The lines of a run that are shown. -/
def shownOfRun (c : Call) (run : List (List Char)) : List (List Char) :=
  if c.has 'D' || c.has 'δ' then
    if run.length == 1 then [] else if c.has 'u' then run.dropLast else run
  else if if run.length == 1 then c.has 'd' else c.has 'u' then []
  else
    match run with
    | [] => []
    | l :: _ => if c.has 'c' then [rightAligned 7 run.length ++ ' ' :: l] else [l]

/-- Options of a call that are numbers, in the old way of telling them. -/
def withOldSkips (args : List String) : List String :=
  args.map fun a =>
    match a.toList with
    | '-' :: d :: ds => if (d :: ds).all Char.isDigit then "-f" ++ String.ofList (d :: ds) else a
    | '+' :: d :: ds => if (d :: ds).all Char.isDigit then "-s" ++ String.ofList (d :: ds) else a
    | _ => a

/-- Shows lines that are the same as the one before only once. -/
def uniq : Program := fun args => do
  let names := [("count", 'c'), ("repeated", 'd'), ("all-repeated", 'δ'), ("group", 'γ'),
    ("ignore-case", 'i'), ("unique", 'u'), ("skip-fields", 'f'), ("skip-chars", 's'),
    ("check-chars", 'w'), ("zero-terminated", 'z')]
  let o : Options :=
    { flags := ['c', 'd', 'D', 'i', 'u', 'z'], valued := ['f', 's', 'w'], loose := ['δ', 'γ']
      names }
  let counts : List (Char × String) :=
    [('f', "fields to skip"), ('s', "bytes to skip"), ('w', "bytes to compare")]
  let run := withOptions o fun c => do
    let wrongCount := counts.findSome? fun (letter, what) =>
      (c.value? letter).bind fun s =>
        if (Text.ofDigits? s.toList).isSome then none
        else some (s ++ ": invalid number of " ++ what)
    let number (letter : Char) : Option Nat :=
      (c.value? letter).bind fun s => Text.ofDigits? s.toList
    let way (letter : Char) (usual : String) : Option String :=
      (c.value? letter).map fun s => if s.isEmpty then usual else s
    let repeated := way 'δ' "none"
    let grouped := way 'γ' "separate"
    let known (ws : List String) (way : Option String) : Bool := way.all ws.contains
    let repeatedWays := ["none", "prepend", "separate"]
    let groupWays := ["prepend", "append", "separate", "both"]
    let quoted (ws : List String) : List String := ws.map named
    match wrongCount, c.operands[2]? with
    | some message, _ => tell message
    | none, some extra => extraOperand extra
    | none, none =>
      if !known repeatedWays repeated then
        misuse (wrongValue (repeated.getD "") "all-repeated" (quoted repeatedWays))
      else if !known groupWays grouped then
        misuse (wrongValue (grouped.getD "") "group" (quoted groupWays))
      else if grouped.isSome && ['c', 'd', 'D', 'δ', 'u'].any c.has then
        misuse "--group is mutually exclusive with -c/-d/-D/-u"
      else if c.has 'c' && (c.has 'D' || c.has 'δ') then
        misuse "printing all duplicated lines and repeat counts is meaningless"
      else
        let blame (path : String) (f : FileFault) : Action Unit :=
          if f == .isFolder then openBlame path f else plainBlame path f
        match ← octetsOf (c.operands.headD "-") with
        | .error f => blame (c.operands.headD "-") f
        | .ok s =>
          let part :=
            comparedPart ((number 'f').getD 0) ((number 's').getD 0) (number 'w') (c.has 'i')
          let runs := runsOf (fun a b => part a == part b) (linesBy c.lineEnd s)
          let shown := (if grouped.isSome then runs else runs.map (shownOfRun c)).filter
            (!·.isEmpty)
          let gaps := ((grouped.orElse fun _ => repeated).bind fun way => gapNames.lookup way).getD
            ⟨false, false, false⟩
          let text := unlinesBy c.lineEnd (withGaps gaps shown)
          match (c.operands[1]?).filter (· != "-") with
          | none => print text
          | some path =>
            match ← openFile .writing path with
            | .ok channel =>
              let st ← get
              match st.world.write? st.job text channel with
              | some world => set { st with world }
              | none => return ()
            | .error e =>
              plainBlame path (← if e == "Is a directory" then pure .isFolder else absence path)
  run (withOldSkips args)

end Inspection.Shell.Program
