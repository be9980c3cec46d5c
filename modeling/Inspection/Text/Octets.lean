import Inspection.Text.Numeral

/-!
# Text — Reading octets

Output of commands and cells of databases arrive as octets.  They are read as UTF-8; every longest
run of octets that starts a character without completing it, and every octet that starts none,
becomes one replacement character.

* `readLossy`: the text of a list of octets.
* `isUtf8`, `utf8Fault?`: the octets are the encoding of a text, or why they are not.
* `encode`: the octets of a text.
-/

namespace Inspection.Text

/-- Stands for octets that are no character. -/
def replacement : Char := '\uFFFD'

/-- A character that has been started: how many octets it still owes, the least and the greatest
value of the next one, and the bits read so far. -/
structure Pending where
  owed : Nat
  low : Nat
  high : Nat
  bits : Nat
deriving DecidableEq, Repr

/-- What a first octet starts; none if no character starts with it. -/
def Pending.start? (b : Nat) : Option Pending :=
  if 0xC2 ≤ b ∧ b ≤ 0xDF then some ⟨1, 0x80, 0xBF, b % 0x20⟩
  else if b = 0xE0 then some ⟨2, 0xA0, 0xBF, b % 0x10⟩
  else if b = 0xED then some ⟨2, 0x80, 0x9F, b % 0x10⟩
  else if 0xE1 ≤ b ∧ b ≤ 0xEF then some ⟨2, 0x80, 0xBF, b % 0x10⟩
  else if b = 0xF0 then some ⟨3, 0x90, 0xBF, b % 0x08⟩
  else if 0xF1 ≤ b ∧ b ≤ 0xF3 then some ⟨3, 0x80, 0xBF, b % 0x08⟩
  else if b = 0xF4 then some ⟨3, 0x80, 0x8F, b % 0x08⟩
  else none

/-- The characters that an octet settles between characters, and what it starts. -/
def readFirst (b : Nat) : List Char × Option Pending :=
  if b < 0x80 then ([Char.ofNat b], none)
  else match Pending.start? b with
    | some p => ([], some p)
    | none => ([replacement], none)

/-- The characters that an octet settles, and what is pending after it. -/
def readOctet : Option Pending → Nat → List Char × Option Pending
  | none, b => readFirst b
  | some p, b =>
    if p.low ≤ b ∧ b ≤ p.high then
      let bits := p.bits * 0x40 + b % 0x40
      if p.owed ≤ 1 then ([Char.ofNat bits], none) else ([], some ⟨p.owed - 1, 0x80, 0xBF, bits⟩)
    else
      let (chars, next) := readFirst b
      (replacement :: chars, next)

/-- Reads on with a character pending; an end within a character is a replacement. -/
def readFrom (pending : Option Pending) : List Nat → List Char
  | [] => if pending.isSome then [replacement] else []
  | b :: rest =>
    let (chars, next) := readOctet pending b
    chars ++ readFrom next rest

/-- The text that the octets spell. -/
def readLossy (octets : List UInt8) : String := String.ofList (readFrom none (octets.map (·.toNat)))

/-- Why octets are not the encoding of a text: where the first fault is, and how many octets of a
character stand there.  `start` is the index of the pending character, `i` that of the next
octet. -/
def utf8FaultFrom (pending : Option Pending) (start i : Nat) : List Nat → Option String
  | [] => if pending.isSome then some (incomplete start) else none
  | b :: rest =>
    match pending with
    | none =>
      if b < 0x80 then utf8FaultFrom none (i + 1) (i + 1) rest
      else match Pending.start? b with
        | some p => utf8FaultFrom (some p) i (i + 1) rest
        | none => some (invalid 1 i)
    | some p =>
      if p.low ≤ b ∧ b ≤ p.high then
        if p.owed ≤ 1 then utf8FaultFrom none (i + 1) (i + 1) rest
        else utf8FaultFrom (some ⟨p.owed - 1, 0x80, 0xBF, 0⟩) start (i + 1) rest
      else some (invalid (i - start) start)
where
  /-- The text ends within a character. -/
  incomplete (start : Nat) : String :=
    "incomplete utf-8 byte sequence from index " ++ natText start
  /-- So many octets start a character that does not go on. -/
  invalid (count start : Nat) : String :=
    "invalid utf-8 sequence of " ++ natText count ++ " bytes from index " ++ natText start

/-- Why octets are not the encoding of a text; none if they are. -/
def utf8Fault? (octets : List UInt8) : Option String :=
  utf8FaultFrom none 0 0 (octets.map (·.toNat))

/-- The octets of a text. -/
def encode (s : String) : List UInt8 := s.toByteArray.toList

/-- The octets are the encoding of a text. -/
def isUtf8 (octets : List UInt8) : Bool := encode (readLossy octets) == octets

end Inspection.Text
