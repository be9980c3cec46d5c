import Inspection.Shell.Number
import Inspection.Shell.Place

/-!
# Shell — Tests

A test is a condition on texts, numbers and files, written as arguments.  Few arguments have a
meaning by their number; otherwise conditions are joined by operators, and an argument is an
operator only where one can stand.

* `Test.decide`: what a test comes to.
-/

namespace Inspection.Shell.Test

/-- What an argument of a test is. -/
inductive Token where
  | finish
  | operand
  /-- An operator on one operand. -/
  | one (text : String)
  /-- An operator between two operands. -/
  | two (text : String)
  | not
  | and
  | or
  | opening
  | closing
deriving DecidableEq, Repr

/-- The operators on one operand. -/
def unary : List String :=
  ["-r", "-w", "-x", "-e", "-f", "-d", "-c", "-b", "-p", "-u", "-g", "-k", "-s", "-t", "-z", "-n",
    "-h", "-O", "-G", "-L", "-S"]

/-- The operators between two operands. -/
def binary : List String :=
  ["=", "!=", "<", ">", "-eq", "-ne", "-ge", "-gt", "-le", "-lt", "-nt", "-ot", "-ef"]

/-- The operator that a text is. -/
def operator? (s : String) : Option Token :=
  if unary.contains s then some (.one s)
  else if binary.contains s then some (.two s)
  else match s with
    | "!" => some .not
    | "-a" => some .and
    | "-o" => some .or
    | "(" => some .opening
    | ")" => some .closing
    | _ => none

/-- The text is an operator between two operands. -/
def isBinary (s : String) : Bool := binary.contains s

/-- What an argument is, before those that follow it. -/
def token : List String → Token
  | [] => .finish
  | s :: rest =>
    match operator? s with
    | none => .operand
    | some (.one op) =>
      match rest with
      | [] => .operand
      | t :: more => if !more.isEmpty && isBinary t then .operand else .one op
    | some .opening => if rest.isEmpty then .operand else .opening
    | some t => t

/-- Why a test comes to nothing. -/
abbrev Fault := String

/-- Reads a part of a test: what it comes to, and the arguments left from its last one on. -/
abbrev Answer := Except Fault (Bool × List String)

/-- The number that an operand is. -/
def number (s : String) : Except Fault Int :=
  match integer? s.toList with
  | some i => .ok i
  | none => .error ("Illegal number: " ++ s)

/-- A condition on a file or a text. -/
def unaryHolds (st : State) (op s : String) : Except Fault Bool :=
  let entry := st.entryOf? s
  match op with
  | "-n" => .ok (!s.isEmpty)
  | "-z" => .ok s.isEmpty
  | "-e" | "-r" | "-w" | "-O" | "-G" => .ok entry.isSome
  | "-d" => .ok (entry.any (·.isFolder))
  | "-x" =>
    let folder := placeText (place st.folder s).dropLast
    .ok (entry.any fun e => e.isFolder || programFolders.contains folder)
  | "-f" => .ok (entry.any (!·.isFolder) && place st.folder s != nullDevice)
  | "-c" => .ok (!s.isEmpty && place st.folder s == nullDevice)
  | "-s" => .ok <| match entry with
    | some (.file octets) => !octets.isEmpty
    | some (.folder _) => true
    | none => false
  | "-t" => (number s).map fun _ => false
  | _ => .ok false

/-- A condition on two texts, numbers or files. -/
def binaryHolds (st : State) (a op b : String) : Except Fault Bool := do
  let compare (holds : Int → Int → Bool) : Except Fault Bool := do
    return holds (← number a) (← number b)
  match op with
  | "=" => return a == b
  | "!=" => return a != b
  | "<" => return a < b
  | ">" => return b < a
  | "-eq" => compare (· == ·)
  | "-ne" => compare (· != ·)
  | "-ge" => compare fun a b => b ≤ a
  | "-gt" => compare fun a b => b < a
  | "-le" => compare (· ≤ ·)
  | "-lt" => compare (· < ·)
  | "-ef" => return (st.entryOf? a).isSome && place st.folder a == place st.folder b
  | "-nt" => return (st.entryOf? a).isSome && (st.entryOf? b).isNone
  | _ => return (st.entryOf? a).isNone && (st.entryOf? b).isSome

mutual

/-- Conditions of which one has to hold, the first one starting with the token. -/
def either (st : State) : Nat → Token → List String → Answer
  | 0, _, s => .ok (false, s)
  | fuel + 1, t, s => do
    let (a, s) ← both st fuel t s
    if token s.tail == .or then
      let (b, s) ← either st fuel (token (s.drop 2)) (s.drop 2)
      return (a || b, s)
    else return (a, s)

/-- Conditions that have to hold together. -/
def both (st : State) : Nat → Token → List String → Answer
  | 0, _, s => .ok (false, s)
  | fuel + 1, t, s => do
    let (a, s) ← negated st fuel t s
    if token s.tail == .and then
      let (b, s) ← both st fuel (token (s.drop 2)) (s.drop 2)
      return (a && b, s)
    else return (a, s)

/-- A condition, or one that must not hold. -/
def negated (st : State) : Nat → Token → List String → Answer
  | 0, _, s => .ok (false, s)
  | fuel + 1, t, s => do
    if t == .not then
      let next := token s.tail
      let (a, s) ← negated st fuel next (if next == .finish then s else s.tail)
      return (!a, s)
    else single st fuel t s

/-- A condition by itself. -/
def single (st : State) : Nat → Token → List String → Answer
  | 0, _, s => .ok (false, s)
  | fuel + 1, t, s => do
    match t with
    | .finish => return (false, s)
    | .opening =>
      let next := token s.tail
      if next == .closing then return (false, s.tail)
      else
        let (a, s) ← either st fuel next s.tail
        if token s.tail == .closing then return (a, s.tail)
        else .error "closing paren expected"
    | .one op =>
      match s.tail with
      | [] => .error (op ++ ": argument expected")
      | a :: _ => return (← unaryHolds st op a, s.tail)
    | _ =>
      match s with
      | [] => return (false, s)
      | a :: rest =>
        match token rest with
        | .two op =>
          match rest.tail with
          | [] => .error (op ++ ": argument expected")
          | b :: _ => return (← binaryHolds st a op b, rest.tail)
        | _ => return (!a.isEmpty, s)

end

/-- What conditions come to; nothing may be left of the arguments. -/
def conditions (st : State) (t : Token) (s : List String) : Except Fault Bool := do
  let (a, rest) ← either st (4 * s.length + 4) t s
  match rest with
  | a :: _ :: _ => .error ((if a.isEmpty then "" else a ++ ": ") ++ "unexpected operator")
  | _ => return a

/-- What a test comes to. -/
def decide (st : State) : List String → Except Fault Bool
  | [] => .ok false
  | [a, op, b] =>
    if isBinary op then conditions st .operand [a, op, b]
    else if a == "(" && b == ")" then conditions st (token [op]) [op]
    else if a == "!" then (decide st [op, b]).map (!·)
    else conditions st (token [a, op, b]) [a, op, b]
  | [a, b, c, d] =>
    if a == "(" && d == ")" then conditions st (token [b, c]) [b, c]
    else if a == "!" then (decide st [b, c, d]).map (!·)
    else conditions st (token [a, b, c, d]) [a, b, c, d]
  | s => conditions st (token s) s

end Inspection.Shell.Test

namespace Inspection.Shell

/-- Decides a test, by the name it was called by. -/
def test (name : String) (args : List String) : Action Unit := do
  let args ← if name != "[" then pure args
    else if args.getLast?.any (·.startsWith "]") then pure args.dropLast
    else fail "missing ]"
  match Test.decide (← get) args with
  | .ok holds => setStatus (if holds then 0 else 1)
  | .error message => fail message

end Inspection.Shell
