/-!
# Text — Decimal numerals

Natural numbers and integers in ASCII digits.  A reader takes one optional sign, then one or more
digits, and refuses every number outside its bound; nothing else (no blank, no separator) is
accepted.

* `ofDigits?_digits`: a written number is read back.
-/

namespace Inspection.Text

/-- The digits of `n`, without leading zeros. -/
def digits (n : Nat) : List Char := Nat.toDigits 10 n

/-- The digits of `n`, with zeros in front up to the given width. -/
def digitsPadded (width n : Nat) : List Char :=
  List.replicate (width - (digits n).length) '0' ++ digits n

/-- An integer with a minus sign when it is negative. -/
def signedDigits (i : Int) : List Char :=
  if i < 0 then '-' :: digits i.natAbs else digits i.natAbs

/-- A natural number as a text. -/
def natText (n : Nat) : String := String.ofList (digits n)

/-- An integer as a text. -/
def intText (i : Int) : String := String.ofList (signedDigits i)

/-- The number that one or more ASCII digits denote. -/
def ofDigits? (s : List Char) : Option Nat :=
  if !s.isEmpty && s.all Char.isDigit then some (Nat.ofDigitChars 10 s 0) else none

/-- One more than the largest integer of 64 bits. -/
def signedBound : Nat := 0x8000000000000000

/-- One more than the largest natural number of 64 bits. -/
def unsignedBound : Nat := 0x10000000000000000

/-- A natural number below `bound`, with one optional `+` in front. -/
def nat? (bound : Nat) (s : List Char) : Option Nat :=
  let unsigned := match s with
    | '+' :: rest => rest
    | _ => s
  (ofDigits? unsigned).filter (· < bound)

/-- An integer from `-bound` to `bound - 1`, with one optional sign in front. -/
def int? (bound : Nat) (s : List Char) : Option Int :=
  match s with
  | '-' :: rest => ((ofDigits? rest).filter (· ≤ bound)).map fun n => -(n : Int)
  | _ => (nat? bound s).map Int.ofNat

/-- The numeric value of a digit of a base up to sixteen. -/
def hexDigit? (c : Char) : Option Nat :=
  if c.isDigit then some (c.toNat - '0'.toNat)
  else if 'a' ≤ c && c ≤ 'f' then some (c.toNat - 'a'.toNat + 10)
  else if 'A' ≤ c && c ≤ 'F' then some (c.toNat - 'A'.toNat + 10)
  else none

/-- The number that one or more digits of the base denote. -/
def ofBaseDigits? (base : Nat) (s : List Char) : Option Nat :=
  if s.isEmpty then none
  else s.foldl (fun acc c => do
    let n ← acc
    let d ← hexDigit? c
    if d < base then some (n * base + d) else none) (some 0)

/-- The digits of `n` in base sixteen, lower case. -/
def hexDigits (n : Nat) : List Char := Nat.toDigits 16 n

theorem all_isDigit_digits (n : Nat) : (digits n).all Char.isDigit = true := by
  simp only [List.all_eq_true]
  intro c hc
  exact Nat.isDigit_of_mem_toDigits (by decide) (by decide) hc

theorem digits_ne_nil (n : Nat) : digits n ≠ [] := by
  intro h
  have := Nat.ofDigitChars_toDigits (b := 10) (n := n) (by decide) (by decide)
  have hpos : 0 < (Nat.toDigits 10 n).length := Nat.length_toDigits_pos
  simp only [digits] at h
  rw [h] at hpos
  simp at hpos

/-- A written number is read back. -/
theorem ofDigits?_digits (n : Nat) : ofDigits? (digits n) = some n := by
  have h := all_isDigit_digits n
  have hne : (digits n).isEmpty = false := by
    simpa [List.isEmpty_eq_false_iff] using digits_ne_nil n
  simp only [ofDigits?, hne, h]
  simp [digits, Nat.ofDigitChars_toDigits]

end Inspection.Text
