import Inspection.Shell.Arguments

/-!
# Shell — Permissions and limits

What the shell hands on to everything that it starts: the permissions that new files do not get, and
how much of some resources may be used.

* `umask`, `ulimit`: showing and setting the two.
-/

namespace Inspection.Shell

/-! ### Permissions -/

/-- The three kinds of users, by their letters and the places of their permissions. -/
def users : List (Char × Nat) := [('u', 6), ('g', 3), ('o', 0)]

/-- The three permissions, by their letters and values. -/
def permissions : List (Char × Nat) := [('r', 4), ('w', 2), ('x', 1)]

/-- All permissions of all users. -/
def allPermissions : Nat := 0o777

/-- The permissions of the kind of users at a place. -/
def permissionsAt (mode place : Nat) : Nat := mode / Nat.pow 2 place % 8

/-- The permissions of all users by their letters. -/
def modeText (mode : Nat) : String :=
  let letters (place : Nat) : List Char :=
    (permissions.filter fun (_, v) => permissionsAt mode place / v % 2 == 1).map (·.1)
  ",".intercalate (users.map fun (u, place) => String.ofList (u :: '=' :: letters place))

/-- The permissions that a letter stands for, given the present ones. -/
def permissionOf (mode : Nat) (c : Char) : Nat :=
  match permissions.lookup c, users.lookup c with
  | some v, _ => v
  | none, some place => permissionsAt mode place
  | none, none => if c == 'X' && [0, 3, 6].any fun p => mode / Nat.pow 2 p % 2 == 1 then 1 else 0

/-- The bits of `a` that are not in `b`, both below the bound of all permissions. -/
def bitsWithout (a b : Nat) : Nat := a &&& (allPermissions ^^^ (b &&& allPermissions))

/-- Changes permissions by clauses such as `u=rwx,g-w`; what the letters refer to are the
permissions that there have been.  None if a clause is not well formed. -/
def changeMode? (before : Nat) : Nat → List Nat → Nat → List Char → Option Nat
  | 0, _, mode, _ => some mode
  | _ + 1, _, mode, [] => some mode
  | fuel + 1, places, mode, s =>
    let who := s.takeWhile ['a', 'u', 'g', 'o'].contains
    let rest := s.drop who.length
    let named := who.flatMap fun c => ((users.lookup c).map ([·])).getD [6, 3, 0]
    let places := places ++ named
    let places := if places.isEmpty then [6, 3, 0] else places
    match rest with
    | [] => some mode
    | op :: rest =>
      if !(['=', '+', '-'].contains op) then none
      else
        let what := rest.takeWhile ['r', 'w', 'x', 'u', 'g', 'o', 'X', 's'].contains
        let rest := rest.drop what.length
        let value := what.foldl (fun v c => v ||| permissionOf before c) 0
        let spread (v : Nat) : Nat := places.foldl (fun m p => m ||| v * Nat.pow 2 p) 0
        let mode :=
          if op == '-' then bitsWithout mode (spread value)
          else if op == '+' then mode ||| spread value
          else spread value ||| bitsWithout mode (spread 7)
        match rest with
        | ',' :: rest => changeMode? before fuel [] mode rest
        | [] => some mode
        | c :: _ =>
          if ['=', '+', '-'].contains c then changeMode? before fuel places mode rest else none

/-- The number that octal digits stand for; none if there is another character. -/
def octal? (s : List Char) : Option Nat :=
  if s.all fun c => '0' ≤ c && c ≤ '7' then some (ofDigits 8 s) else none

/-- Shows the permissions that new files do not get, or sets them. -/
def umask (args : List String) : Action Unit := do
  let (os, operands) ← options ['S'] [] (args.length + 1) args
  setStatus 0
  let mode := bitsWithout allPermissions (← get).mask
  match operands with
  | [] =>
    let mask := Nat.toDigits 8 (← get).mask
    if os.isEmpty then print (List.replicate (4 - mask.length) '0' ++ mask ++ ['\n'])
    else printLine (modeText mode)
  | s :: _ =>
    let chars := s.toList
    if chars.head?.any Char.isDigit then
      match octal? chars with
      | some n => modify fun st => { st with mask := n % (allPermissions + 1) }
      | none => fail ("Illegal number: " ++ s)
    else
      match changeMode? mode (chars.length + 1) [] mode chars with
      | some m => modify fun st => { st with mask := bitsWithout allPermissions m }
      | none => fail ("Illegal mode: " ++ s)

/-! ### Limits -/

/-- A resource that can be limited. -/
structure Resource where
  letter : Char
  title : String
  /-- What one unit of the limit stands for. -/
  unit : Nat
  /-- The limit that counts at first, and the most that it may be; none if there is none. -/
  soft : Option Nat := none
  hard : Option Nat := none

/-- The resources that can be limited. -/
def resources : List Resource :=
  [{ letter := 't', title := "time(seconds)", unit := 1 },
    { letter := 'f', title := "file(blocks)", unit := 512 },
    { letter := 'd', title := "data(kbytes)", unit := 1024 },
    { letter := 's', title := "stack(kbytes)", unit := 1024, soft := some 8388608 },
    { letter := 'c', title := "coredump(blocks)", unit := 512 },
    { letter := 'm', title := "memory(kbytes)", unit := 1024 },
    { letter := 'l', title := "locked memory(kbytes)", unit := 1024, soft := some 8388608,
      hard := some 8388608 },
    { letter := 'p', title := "process", unit := 1 },
    { letter := 'n', title := "nofiles", unit := 1, soft := some 1048576, hard := some 1048576 },
    { letter := 'v', title := "vmemory(kbytes)", unit := 1024 },
    { letter := 'w', title := "locks", unit := 1 },
    { letter := 'r', title := "rtprio", unit := 1, soft := some 0, hard := some 0 }]

/-- The present limits of a resource. -/
def State.limitsOf (st : State) (r : Resource) : Option Nat × Option Nat :=
  (st.limits.lookup r.letter).getD (r.soft, r.hard)

/-- A limit in the units of its resource. -/
def limitText (r : Resource) : Option Nat → String
  | none => "unlimited"
  | some n => Text.natText (n / r.unit)

/-- The first limit is at most the second. -/
def limitAtMost : Option Nat → Option Nat → Bool
  | _, none => true
  | none, some _ => false
  | some a, some b => a ≤ b

/-- The limit that an operand is; none if it is no number. -/
def limitOf? (r : Resource) (s : String) : Option (Option Nat) :=
  if s = "unlimited" then some none
  else if s.isEmpty then some (some 0)
  else (Text.ofDigits? s.toList).map fun n => some (n * r.unit)

/-- Sets the limits of a resource; the most may not be raised, nor be less than what counts. -/
def setLimits (r : Resource) (soft hard : Option Nat) : Action Unit := do
  let refused (why : String) : Action Unit := fail ("error setting limit (" ++ why ++ ")")
  let old := (← get).limitsOf r
  if !limitAtMost soft hard then refused "Invalid argument"
  if !limitAtMost hard old.2 then refused "Operation not permitted"
  modify fun st => { st with limits := setKey r.letter (some (soft, hard)) st.limits }

/-- Shows the limit of a resource, or of all, or sets one. -/
def ulimit (args : List String) : Action Unit := do
  let letters := resources.map (·.letter)
  let (os, operands) ← options (['H', 'S', 'a'] ++ letters) [] (args.length + 1) args
  setStatus 0
  let given := os.map (·.1)
  let how := (given.filter fun c => c == 'H' || c == 'S').getLast?
  let all := given.contains 'a'
  let letter := ((given.filter letters.contains).getLast?).getD 'f'
  let shown (r : Resource) : Action String := do
    let (soft, hard) := (← get).limitsOf r
    return limitText r (if how == some 'H' then hard else soft)
  match resources.find? (·.letter == letter) with
  | none => return ()
  | some r =>
    match operands with
    | [] =>
      if !all then printLine (← shown r)
      else resources.forM fun r => do
        let blanks := List.replicate (20 - r.title.length) ' '
        printLine (r.title ++ String.ofList blanks ++ " " ++ (← shown r))
    | s :: more =>
      if all || !more.isEmpty then fail "too many arguments"
      match limitOf? r s with
      | none => fail "bad number"
      | some limit =>
        let (soft, hard) := (← get).limitsOf r
        let softer := if how == some 'H' then soft else limit
        setLimits r softer (if how == some 'S' then hard else limit)

end Inspection.Shell
