import Inspection.Shell.Escape
import Inspection.Shell.Number
import Inspection.Shell.Pattern
import Inspection.Shell.Programs.Basic

/-!
# Shell — Replacing characters

`tr` replaces or removes the characters of a set, or those outside it, and may leave only one of
each run of the same character.

* `TrSet.read`: the set that an operand means.
* `translation`: what each character is replaced by.
-/

namespace Inspection.Shell.Program

/-! ### Sets -/

/-- A part of a set of characters. -/
inductive TrPart where
  | char (c : Char)
  | range (low high : Char)
  | named (name : String)
  /-- The characters that are the same as one. -/
  | same (c : Char)
  /-- A character so many times; as often as needed if that is zero. -/
  | times (c : Char) (n : Nat)
deriving DecidableEq, Repr

/-- A set of characters in order, some of them more than once. -/
abbrev TrSet := List TrPart

/-- The characters of an operand, those that only stand for themselves being known; and warnings. -/
def unescaped : Nat → List Char → List Glyph × List String
  | 0, _ => ([], [])
  | _ + 1, [] => ([], [])
  | _ + 1, ['\\'] =>
    ([⟨'\\', false⟩], ["warning: an unescaped backslash at end of string is not portable"])
  | fuel + 1, '\\' :: c :: s =>
    let ds := ((c :: s).take 3).takeWhile Escape.isOctal
    let value := ofDigits 8 ds
    let isAmbiguous := 255 < value
    let kept := if isAmbiguous then ds.take 2 else ds
    let (char, rest) :=
      if !ds.isEmpty then (Char.ofNat (ofDigits 8 kept), (c :: s).drop kept.length)
      else if c == 'e' then (c, s)
      else ((Escape.letter? c).getD c, s)
    let warnings := if !isAmbiguous then [] else
      ["warning: the ambiguous octal escape \\" ++ String.ofList ds
        ++ " is being\n\tinterpreted as the 2-byte sequence \\0" ++ String.ofList kept ++ ", "
        ++ String.ofList (ds.drop 2)]
    let (gs, more) := unescaped fuel rest
    (⟨char, true⟩ :: gs, warnings ++ more)
  | fuel + 1, c :: s =>
    let (gs, more) := unescaped fuel s
    (⟨c, false⟩ :: gs, more)

/-- The glyph is a character that does not only stand for itself. -/
def isMark (c : Char) (g : Glyph) : Bool := g.char == c && !g.isLiteral

/-- What stands before a mark and the bracket that closes it, and what follows. -/
def beforeClosing (mark : Char) : List Glyph → Option (List Glyph × List Glyph)
  | g :: h :: rest =>
    if isMark mark g && isMark ']' h then some ([], rest)
    else (beforeClosing mark (h :: rest)).map fun (inner, after) => (g :: inner, after)
  | _ => none

/-- The part between brackets that repeats a character, and what follows it; none if it does not. -/
def repetition? (gs : List Glyph) : Option (Except String (TrPart × List Glyph)) :=
  match gs with
  | g :: star :: rest =>
    let digits := rest.takeWhile fun h => !h.isLiteral && h.char != ']'
    match rest.drop digits.length with
    | close :: after =>
      if !isMark '*' star || !isMark ']' close then none
      else
        let ds := glyphText digits
        let base := if ds.head? == some '0' then 8 else 10
        if ds.all (isDigitOf base) then some (.ok (.times g.char (ofDigits base ds), after))
        else
          some (.error ("invalid repeat count " ++ named (String.ofList ds)
            ++ " in [c*n] construct"))
    | [] => none
  | _ => none

/-- A text of digits up to a bracket that closes it, behind a star. -/
def isStarred (gs : List Glyph) : Bool :=
  match gs with
  | star :: rest =>
    isMark '*' star &&
      (rest.dropWhile fun g => g.char.isDigit && !g.isLiteral).head?.any (isMark ']')
  | [] => false

/-- The part between brackets that is a class, and what follows it; none if there is none. -/
def bracketed? (gs : List Glyph) : Option (Except String (TrPart × List Glyph)) :=
  match gs with
  | mark :: inside =>
    if !(isMark ':' mark || isMark '=' mark) then repetition? gs
    else match beforeClosing mark.char inside with
    | none => repetition? gs
    | some (inner, after) =>
      let name := String.ofList (glyphText inner)
      let isRepeated := isStarred inside
      if mark.char == ':' then
        if inner.isEmpty then some (.error "missing character class name '[::]'")
        else if (characterClass? name).isSome then some (.ok (.named name, after))
        else if isRepeated then repetition? gs
        else some (.error ("invalid character class " ++ named name))
      else match inner with
        | [] => some (.error "missing equivalence class character '[==]'")
        | [g] => some (.ok (.same g.char, after))
        | _ =>
          if isRepeated then repetition? gs
          else some (.error (name ++ ": equivalence class operand must be a single character"))
  | [] => none

/-- The set that glyphs mean. -/
def TrSet.ofGlyphs : Nat → List Glyph → Except String TrSet
  | 0, _ => .ok []
  | _ + 1, [] => .ok []
  | fuel + 1, g :: rest =>
    let single : Except String TrSet := do return .char g.char :: (← TrSet.ofGlyphs fuel rest)
    match if isMark '[' g && rest.length ≥ 2 then bracketed? rest else none with
    | some (.error message) => .error message
    | some (.ok (part, after)) => do return part :: (← TrSet.ofGlyphs fuel after)
    | none =>
      match rest with
      | dash :: high :: after =>
        if !isMark '-' dash then single
        else if high.char < g.char then
          let shown (c : Char) : String :=
            if isVisible c then String.singleton c
            else String.ofList ('\\' :: List.replicate (3 - (Nat.toDigits 8 c.toNat).length) '0'
              ++ Nat.toDigits 8 c.toNat)
          .error ("range-endpoints of '" ++ shown g.char ++ "-" ++ shown high.char
            ++ "' are in reverse collating sequence order")
        else do return .range g.char high.char :: (← TrSet.ofGlyphs fuel after)
      | _ => single

/-- The set that an operand means, and warnings. -/
def TrSet.read (s : String) : Except String TrSet × List String :=
  let (gs, warnings) := unescaped (s.length + 1) s.toList
  (TrSet.ofGlyphs (gs.length + 1) gs, warnings)

/-- The characters of a class in order. -/
def classMembers (name : String) : List Char :=
  ((List.range 128).map Char.ofNat).filter ((characterClass? name).getD fun _ => false)

/-- The characters of a part, one that is repeated as needed being so many times. -/
def TrPart.members (fill : Nat) : TrPart → List Char
  | .char c | .same c => [c]
  | .range low high =>
    (List.range (high.toNat + 1 - low.toNat)).map fun i => Char.ofNat (low.toNat + i)
  | .named name => classMembers name
  | .times c n => List.replicate (if n == 0 then fill else n) c

/-- The characters of a set. -/
def TrSet.members (fill : Nat) (set : TrSet) : List Char := set.flatMap (·.members fill)

/-- The part repeats a character as often as needed. -/
def TrPart.isFill : TrPart → Bool
  | .times _ 0 => true
  | _ => false

/-- The part is a class of letters by their case. -/
def TrPart.isCase : TrPart → Bool
  | .named name => name == "upper" || name == "lower"
  | _ => false

/-- The part is a class. -/
def TrPart.isClass : TrPart → Bool
  | .named _ => true
  | _ => false

/-! ### What characters are replaced by -/

/-- The characters of a part, the first one of a class of letters being known. -/
def TrPart.slots (fill : Nat) (p : TrPart) : List (Char × Bool) :=
  ((p.members fill).zipIdx).map fun (c, i) => (c, p.isCase && i == 0)

/-- How many letters of one case there are. -/
def letterCount : Nat := 26

/-- The characters of two sets side by side, and those of the first that are left.  A class of
letters in the second set stands for the letters of the class beside it, in the other case. -/
def pairUp : Nat → List (Char × Bool) → List (Char × Bool) →
    Except String (List (Char × Char) × List (Char × Bool))
  | 0, _, _ => .ok ([], [])
  | fuel + 1, firsts, seconds =>
    match firsts, seconds with
    | [], (_, true) :: _ | (_, false) :: _, (_, true) :: _ =>
      .error "misaligned [:upper:] and/or [:lower:] construct"
    | (_, true) :: _, (_, true) :: _ => do
      let pairs := ((firsts.take letterCount).zip (seconds.take letterCount)).map
        fun (a, b) => (a.1, b.1)
      let (more, left) ← pairUp fuel (firsts.drop letterCount) (seconds.drop letterCount)
      return (pairs ++ more, left)
    | a :: firsts, b :: seconds => do
      let (more, left) ← pairUp fuel firsts seconds
      return ((a.1, b.1) :: more, left)
    | left, [] => .ok ([], left)
    | [], _ => .ok ([], [])

/-- What each character of a set, or outside it, is replaced by. -/
def translation (isComplement isCut : Bool) (first second : TrSet) :
    Except String (List (Char × Char)) := do
  let members := TrSet.members 0 first
  let all := (List.range 256).map Char.ofNat
  let domain := if isComplement then all.filter (!members.contains ·) else members
  let fill := domain.length - (second.members 0).length
  let replaced := second.members fill
  if (second.filter (·.isFill)).length > 1 then
    throw "only one [c*] repeat construct may appear in string2"
  if second.any fun | .same _ => true | _ => false then
    throw "[=c=] expressions may not appear in string2 when translating"
  if second.any fun p => p.isClass && !p.isCase then
    throw ("when translating, the only character classes that may appear in\n"
      ++ "string2 are 'upper' and 'lower'")
  let (pairs, left) ←
    if isComplement then
      pure ((domain.zip replaced), (domain.drop replaced.length).map fun c => (c, false))
    else
      let slots (set : TrSet) : List (Char × Bool) := set.flatMap (·.slots fill)
      pairUp (members.length + replaced.length + 1) (slots first) (slots second)
  let extended ←
    if left.isEmpty || isCut then pure []
    else match replaced.getLast?, second.getLast? with
      | none, _ => throw "when not truncating set1, string2 must be non-empty"
      | some c, some p =>
        if p.isClass then
          throw ("when translating with string1 longer than string2,\n"
            ++ "the latter string must not end with a character class")
        else pure (left.map fun (a, _) => (a, c))
      | _, none => pure []
  let whole := pairs ++ extended
  let isUniform := whole.all fun (_, b) => some b == (whole.head?.map (·.2))
  if isComplement && first.any (·.isClass)
      && !(isUniform && (replaced.length ≤ domain.length || isCut)) then
    throw ("when translating with complemented character classes,\n"
      ++ "string2 must map all characters in the domain to one")
  return whole

/-- A text with only one of each run of the same character among some. -/
def squeeze (among : Char → Bool) (s : List Char) : List Char :=
  (s.foldl (fun (r : List Char) c => if among c && r.head? == some c then r else c :: r) []).reverse

/-- What is wrong with how many operands there are. -/
def trFault? (deletes squeezes : Bool) (operands : List String) : Option String :=
  let least := if deletes == squeezes then 2 else 1
  let most := if deletes && !squeezes then 1 else 2
  let count := operands.length
  if count == 0 then some "missing operand"
  else if count < least then
    some ("missing operand after " ++ named (operands.getLastD "") ++ "\n"
      ++ if squeezes then "Two strings must be given when both deleting and squeezing repeats."
        else "Two strings must be given when translating.")
  else if most < count then
    some ("extra operand " ++ named ((operands[most]?).getD "")
      ++ if count == 2 then
          "\nOnly one string may be given when deleting without squeezing repeats."
        else "")
  else none

/-- Replaces or removes characters. -/
def tr : Program :=
  let names := [("complement", 'c'), ("delete", 'd'), ("squeeze-repeats", 's'),
    ("truncate-set1", 't')]
  withOptions { flags := ['A', 'c', 'C', 'd', 's', 't'], names, stopsAtOperand := true } fun c => do
    let isComplement := c.has 'c' || c.has 'C'
    match trFault? (c.has 'd') (c.has 's') c.operands with
    | some message => misuse message
    | none =>
      let read := c.operands.map TrSet.read
      (read.flatMap (·.2)).forM fun warning => do
        printError ((← get).name ++ ": " ++ warning)
      match (read.map (·.1)).mapM id with
      | .error message => tell message
      | .ok sets =>
        let first := sets.headD []
        let second := sets[1]?
        let isIn (x : Char) : Bool := (TrSet.members 0 first).contains x != isComplement
        let isSecond (x : Char) : Bool := (TrSet.members 0 (second.getD [])).contains x
        if first.any (·.isFill) then tell "the [c*] repeat construct may not appear in string1"
        else if c.has 'd' then
          if (second.getD []).any (·.isFill) then
            tell "the [c*] construct may appear in string2 only when translating"
          else
            let kept := (← takeInput).filter fun x => !isIn x
            print (if c.has 's' then squeeze isSecond kept else kept)
        else match second with
        | none => print (squeeze isIn (← takeInput))
        | some new =>
          match translation isComplement (c.has 't') first new with
          | .error message => tell message
          | .ok pairs =>
            let last := pairs.reverse
            let table := ((List.range 256).map Char.ofNat).map fun x => (last.lookup x).getD x
            let targets : List Char := TrSet.members 1 new
            let t := (← takeInput).map fun x => (table[x.toNat]?).getD x
            print (if c.has 's' then squeeze targets.contains t else t)

end Inspection.Shell.Program
