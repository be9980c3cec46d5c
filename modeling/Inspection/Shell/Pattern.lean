import Inspection.Shell.Octets

/-!
# Shell — Patterns

A pattern is matched against a whole text.  `?` stands for one octet, `*` for any, `[…]` for one of
a set and `[!…]` for one outside it; a quoted character stands for itself.

* `Pattern.ofGlyphs`: the pattern that characters are.
* `Pattern.fits`: a text fits a pattern; decided by the parts of the pattern that may still match.
* `Pattern.cut?`: a text without what fits at one end.
-/

namespace Inspection.Shell

/-- A character, and whether it stands for itself only. -/
structure Glyph where
  char : Char
  isLiteral : Bool
deriving DecidableEq, Repr

/-- The glyphs of a text. -/
def glyphs (isLiteral : Bool) (s : List Char) : List Glyph := s.map (⟨·, isLiteral⟩)

/-- The text of glyphs. -/
def glyphText (gs : List Glyph) : List Char := gs.map (·.char)

/-- A member of a set of octets. -/
inductive PatternMember where
  | range (low high : Char)
  /-- A class of characters, by its name. -/
  | named (name : String)
deriving DecidableEq, Repr

/-- A part of a pattern. -/
inductive PatternItem where
  | char (c : Char)
  | any
  | many
  | oneOf (members : List PatternMember)
  | noneOf (members : List PatternMember)
deriving DecidableEq, Repr

/-- A pattern. -/
abbrev Pattern := List PatternItem

/-- A visible character that is neither a letter nor a digit. -/
def isPunctuation (c : Char) : Bool := '!' ≤ c && c ≤ '~' && !c.isAlphanum

/-- The classes of characters. -/
def characterClass? : String → Option (Char → Bool)
  | "alpha" => some Char.isAlpha
  | "digit" => some Char.isDigit
  | "alnum" => some Char.isAlphanum
  | "upper" => some Char.isUpper
  | "lower" => some Char.isLower
  | "space" => some fun c => c == ' ' || ('\t' ≤ c && c ≤ '\r')
  | "blank" => some isBlankOctet
  | "punct" => some isPunctuation
  | "print" => some fun c => ' ' ≤ c && c ≤ '~'
  | "graph" => some fun c => '!' ≤ c && c ≤ '~'
  | "cntrl" => some fun c => c < ' ' || c == '\x7f'
  | "xdigit" => some fun c => c.isDigit || ('a' ≤ c && c ≤ 'f') || ('A' ≤ c && c ≤ 'F')
  | _ => none

/-- The member holds the character. -/
def PatternMember.has (m : PatternMember) (c : Char) : Bool :=
  match m with
  | .range low high => low ≤ c && c ≤ high
  | .named name => ((characterClass? name).map (· c)).getD false

/-- The part matches a single character. -/
def PatternItem.accepts (i : PatternItem) (c : Char) : Bool :=
  match i with
  | .char d => c == d
  | .any => true
  | .many => false
  | .oneOf members => members.any (·.has c)
  | .noneOf members => !members.any (·.has c)

namespace Pattern

/-- A class of characters, read from behind its two opening marks. -/
def namedClass? (gs : List Glyph) : Option (String × List Glyph) :=
  let name := gs.takeWhile fun g => g.char.isAlpha
  match gs.drop name.length with
  | a :: b :: rest =>
    if a.char == ':' && b.char == ']' && (characterClass? (String.ofList (glyphText name))).isSome
    then some (String.ofList (glyphText name), rest) else none
  | _ => none

/-- The glyph has the meaning of this character. -/
def isMark (c : Char) (g : Glyph) : Bool := g.char == c && !g.isLiteral

/-- The members of a set and what follows it; the first member may be a closing bracket. -/
def members : Nat → Bool → List Glyph → Option (List PatternMember × List Glyph)
  | 0, _, _ => none
  | fuel + 1, isFirst, gs =>
    let single (c : Char) (rest : List Glyph) : Option (List PatternMember × List Glyph) :=
      match rest with
      | mark :: high :: after =>
        if isMark '-' mark && !(isMark ']' high) then
          (members fuel false after).map fun (ms, rest) => (.range c high.char :: ms, rest)
        else (members fuel false rest).map fun (ms, rest) => (.range c c :: ms, rest)
      | _ => (members fuel false rest).map fun (ms, rest) => (.range c c :: ms, rest)
    match gs with
    | [] => none
    | g :: rest =>
      if isMark ']' g && !isFirst then some ([], rest)
      else if isMark '[' g then
        match rest with
        | colon :: more =>
          match if isMark ':' colon then namedClass? more else none with
          | some (name, after) =>
            (members fuel false after).map fun (ms, rest) => (.named name :: ms, rest)
          | none => single '[' rest
        | [] => none
      else single g.char rest

/-- The pattern that glyphs are. -/
def read : Nat → List Glyph → Pattern
  | 0, _ => []
  | _ + 1, [] => []
  | fuel + 1, g :: rest =>
    if g.isLiteral then .char g.char :: read fuel rest
    else match g.char with
      | '?' => .any :: read fuel rest
      | '*' => .many :: read fuel rest
      | '\\' =>
        match rest with
        | h :: rest => .char h.char :: read fuel rest
        | [] => [.char '\\']
      | '[' =>
        let isNegated := rest.head?.any (isMark '!')
        match members (rest.length + 1) true (if isNegated then rest.tail else rest) with
        | some (ms, after) =>
          (if isNegated then PatternItem.noneOf ms else .oneOf ms) :: read fuel after
        | none => .char '[' :: read fuel rest
      | c => .char c :: read fuel rest

/-- The pattern that glyphs are. -/
def ofGlyphs (gs : List Glyph) : Pattern := read (gs.length + 1) gs

/-- What may be left of a pattern after a character. -/
def advance (c : Char) : Pattern → List Pattern
  | [] => []
  | .many :: p => (.many :: p) :: advance c p
  | i :: p => if i.accepts c then [p] else []

/-- A text fits one of the patterns. -/
def fitsAny : List Pattern → List Char → Bool
  | ps, [] => ps.any (·.all (· == .many))
  | ps, c :: s => fitsAny (ps.flatMap (advance c)).eraseDups s

/-- A text fits the pattern. -/
def fits (p : Pattern) (s : List Char) : Bool := fitsAny [p] s

/-- What is left of a text without the shortest or the longest part at one end that fits; none if
no part does.  Texts may be joined by the character zero: only what stands before the first one in a
part is compared. -/
def cut? (p : Pattern) (atEnd isLongest : Bool) (s : List Char) : Option (List Char) :=
  let cuts := List.range (s.length + 1)
  let places := if atEnd == isLongest then cuts else cuts.reverse
  let isFit (part : List Char) : Bool := p.fits (part.takeWhile (· != '\x00'))
  (places.find? fun n => isFit (if atEnd then s.drop n else s.take n)).map fun n =>
    if atEnd then s.take n else s.drop n

end Pattern

/-- One of the glyphs has a meaning in a pattern. -/
def hasPattern (gs : List Glyph) : Bool :=
  gs.any fun g => !g.isLiteral && ['*', '?', '['].contains g.char

end Inspection.Shell
