import Inspection.Shell.Number
import Inspection.Shell.State

/-!
# Shell — Sums

A sum is worked out while it is read.  Operands are numerals, variables and sums in parentheses;
what an operator decides not to need is read but changes nothing.

* `Sum.tokens`: the numbers, names and marks of a sum.
* `sum`: what a sum comes to.
-/

namespace Inspection.Shell

namespace Sum

/-- A number, a name or a mark of a sum. -/
inductive Token where
  | number (i : Int)
  | name (s : String)
  | mark (s : String)
deriving DecidableEq, Repr

/-- The marks, longer ones before those they start with. -/
def marks : List String :=
  ["<<=", ">>=", "<<", ">>", "<=", ">=", "==", "!=", "&&", "||", "*=", "/=", "%=", "+=", "-=",
    "&=", "^=", "|=", "<", ">", "=", "!", "~", "*", "/", "%", "+", "-", "&", "^", "|", "?", ":",
    "(", ")"]

/-- The numbers, names and marks of a sum; what is none of them is a mark without meaning. -/
def tokens : Nat → List Char → List Token
  | 0, _ => []
  | _ + 1, [] => []
  | fuel + 1, c :: s =>
    if c == ' ' || c == '\t' || c == '\n' then tokens fuel s
    else if c.isDigit then
      match leading true (c :: s) with
      | some l => .number l.value :: tokens fuel l.rest
      | none => []
    else if isNameStart c then
      let name := (c :: s).takeWhile isNameChar
      .name (String.ofList name) :: tokens fuel ((c :: s).drop name.length)
    else match marks.find? fun m => m.toList.isPrefixOf (c :: s) with
      | some m => .mark m :: tokens fuel ((c :: s).drop m.length)
      | none => [.mark ""]

/-- How tightly the operators of two operands bind; the tightest come first. -/
def ranks : List (List String) :=
  [["*", "/", "%"], ["+", "-"], ["<<", ">>"], ["<", "<=", ">", ">="], ["==", "!="], ["&"], ["^"],
    ["|"]]

/-- The operators that assign what another operator makes of a variable. -/
def assigning : List (String × String) :=
  [("*=", "*"), ("/=", "/"), ("%=", "%"), ("+=", "+"), ("-=", "-"), ("<<=", "<<"), (">>=", ">>"),
    ("&=", "&"), ("^=", "^"), ("|=", "|")]

/-- A truth as a number. -/
def truth (b : Bool) : Int := if b then 1 else 0

/-- Reads a sum; what is left of it, and the whole of it for messages. -/
structure Scan where
  rest : List Token
  whole : String

/-- Reads a part of a sum. -/
abbrev Reader := StateT Scan Action

/-- The sum is at fault. -/
def wrong {α : Type} (message : String) : Reader α := do
  let whole := (← get).whole
  (fail ("arithmetic expression: " ++ message ++ ": \"" ++ whole ++ "\"") : Action α)

/-- The next token, as a mark; none if it is none. -/
def nextMark : Reader String := do
  match (← get).rest with
  | .mark m :: _ => return m
  | _ => return ""

/-- Passes over a token. -/
def skip : Reader Unit := modify fun s => { s with rest := s.rest.tail }

/-- What an operator makes of two numbers. -/
def apply (op : String) (a b : Int) : Reader Int :=
  match op with
  | "*" => return wrap (a * b)
  | "/" | "%" => do
    if b == 0 then wrong "division by zero"
    else if b == -1 && a == -(Text.signedBound : Int) then (stop (.killed 8) : Action Int)
    else return if op == "/" then a.tdiv b else a.tmod b
  | "+" => return wrap (a + b)
  | "-" => return wrap (a - b)
  | "<<" => return ofBits ((bits a).shiftLeft (bits b % 64))
  | ">>" => return Int.shiftRight a (bits b % 64)
  | "<" => return truth (a < b)
  | "<=" => return truth (a ≤ b)
  | ">" => return truth (b < a)
  | ">=" => return truth (b ≤ a)
  | "==" => return truth (a == b)
  | "!=" => return truth (a != b)
  | "&" => return ofBits ((bits a).land (bits b))
  | "^" => return ofBits ((bits a).xor (bits b))
  | _ => return ofBits ((bits a).lor (bits b))

/-- The number that a variable holds. -/
def valueOf (name : String) : Reader Int := do
  let text := ((← (lookup name : Action (Option String))).getD "").toList
  let bad : Reader Int := (fail ("Illegal number: " ++ String.ofList text) : Action Int)
  match leading true text with
  | some l => if l.isCut || !(l.rest.all isNumberBlank) then bad else return l.value
  | none => if text.all isNumberBlank then return 0 else bad

mutual

/-- An assignment or a choice. -/
def assignment : Nat → Bool → Reader Int
  | 0, _ => wrong "expecting EOF"
  | fuel + 1, isIdle => do
    match (← get).rest with
    | .name name :: .mark op :: _ =>
      match if op == "=" then some "" else assigning.lookup op with
      | none => choice fuel isIdle
      | some inner =>
        skip
        skip
        let b ← assignment fuel isIdle
        if isIdle then return b
        else
          let value ← if inner.isEmpty then pure b else do apply inner (← valueOf name) b
          (assign name (Text.intText value) : Action Unit)
          return value
    | _ => choice fuel isIdle

/-- One of two, by a condition. -/
def choice : Nat → Bool → Reader Int
  | 0, _ => wrong "expecting EOF"
  | fuel + 1, isIdle => do
    let a ← either fuel isIdle
    if (← nextMark) == "?" then
      skip
      let b ← assignment fuel (isIdle || a == 0)
      if (← nextMark) != ":" then wrong "expecting ':'"
      skip
      let c ← choice fuel (isIdle || a != 0)
      return if a != 0 then b else c
    else return a

/-- Whether one of two is not zero. -/
def either : Nat → Bool → Reader Int
  | 0, _ => wrong "expecting EOF"
  | fuel + 1, isIdle => do
    let a ← both fuel isIdle
    if (← nextMark) == "||" then
      skip
      let b ← either fuel (isIdle || a != 0)
      return truth (a != 0 || b != 0)
    else return a

/-- Whether neither of two is zero. -/
def both : Nat → Bool → Reader Int
  | 0, _ => wrong "expecting EOF"
  | fuel + 1, isIdle => do
    let a ← ranked fuel isIdle ranks.length
    if (← nextMark) == "&&" then
      skip
      let b ← both fuel (isIdle || a == 0)
      return truth (a != 0 && b != 0)
    else return a

/-- Operators up to a rank. -/
def ranked : Nat → Bool → Nat → Reader Int
  | 0, _, _ => wrong "expecting EOF"
  | fuel + 1, isIdle, 0 => operand fuel isIdle
  | fuel + 1, isIdle, rank + 1 => do
    let a ← ranked fuel isIdle rank
    operators fuel isIdle rank a

/-- What follows a first operand on one rank. -/
def operators : Nat → Bool → Nat → Int → Reader Int
  | 0, _, _, _ => wrong "expecting EOF"
  | fuel + 1, isIdle, rank, a => do
    let op ← nextMark
    if ((ranks[rank]?).getD []).contains op then
      skip
      let b ← ranked fuel isIdle rank
      let c ← if isIdle then pure b else apply op a b
      operators fuel isIdle rank c
    else return a

/-- A number, a variable, a sum in parentheses, or one of them behind an operator. -/
def operand : Nat → Bool → Reader Int
  | 0, _ => wrong "expecting EOF"
  | fuel + 1, isIdle => do
    match (← get).rest with
    | .number i :: _ =>
      skip
      return i
    | .name name :: _ =>
      skip
      if isIdle then return 0 else valueOf name
    | .mark "(" :: _ =>
      skip
      let i ← assignment fuel isIdle
      if (← nextMark) != ")" then wrong "expecting ')'"
      skip
      return i
    | .mark "+" :: _ =>
      skip
      operand fuel isIdle
    | .mark "-" :: _ =>
      skip
      return wrap (-(← operand fuel isIdle))
    | .mark "!" :: _ =>
      skip
      return truth ((← operand fuel isIdle) == 0)
    | .mark "~" :: _ =>
      skip
      return -(← operand fuel isIdle) - 1
    | _ => wrong "expecting primary"

end

end Sum

/-- What a sum comes to. -/
def sum (s : List Char) : Action Int := do
  let rest := Sum.tokens (s.length + 1) s
  let (value, scan) ← (Sum.assignment (16 * rest.length + 16) false).run
    { rest, whole := String.ofList s }
  if scan.rest.isEmpty then return value
  else fail ("arithmetic expression: expecting EOF: \"" ++ String.ofList s ++ "\"")

end Inspection.Shell
