import Inspection.Backend.Error
import Inspection.Decimal.Layout
import Inspection.Decimal.Stepwise
import Inspection.Text.Octets

/-!
# Sql — Databases within the program

A database of this kind has no server; its values carry their own storage class, whatever their
column.  What is asked of one are constants.

* `Cell.shown`: the text of a value.
* `table`: the texts of rows of values.
* `select`: the rows of a query for constants.
-/

namespace Inspection.Sql.Sqlite

/-- A value by its storage class. -/
inductive Cell where
  | null
  | integer (n : Int)
  | real (r : Decimal.Reading)
  | text (s : String)
  | blob (octets : List UInt8)
deriving DecidableEq, Repr

/-- The text of a value: none has the empty text, and so has a real that is no number. -/
def Cell.shown : Cell → String
  | .null => ""
  | .integer n => Text.intText n
  | .real .nan => ""
  | .real r => Decimal.plain.write Decimal.binary64 r
  | .text s => s
  | .blob octets => Text.readLossy octets

/-- The integer that the digits of base sixteen stand for as the bits of 64. -/
def hexInteger? (ds : List Char) : Option Int :=
  ((Text.ofBaseDigits? 16 ds).filter (· < Text.unsignedBound)).map fun n =>
    if n < Text.signedBound then n else (n : Int) - Text.unsignedBound

/-- An integer that 64 bits hold, in digits of base ten or, behind its mark, sixteen. -/
def integer? (s : List Char) : Option Int :=
  match Decimal.splitSign s with
  | (negative, '0' :: x :: ds) =>
    if x == 'x' || x == 'X' then
      (hexInteger? ds).bind fun n =>
        if !negative then some n
        else if n = -(Text.signedBound : Int) then none else some (-n)
    else Text.int? Text.signedBound s
  | _ => Text.int? Text.signedBound s

/-- The numeral without the underscores that stand between two of its digits. -/
def withoutSeparators : List Char → List Char
  | c :: '_' :: d :: s =>
    if (Text.hexDigit? c).isSome && (Text.hexDigit? d).isSome then
      c :: withoutSeparators (d :: s)
    else c :: '_' :: withoutSeparators (d :: s)
  | c :: s => c :: withoutSeparators s
  | [] => []

/-- A blank of a query. -/
def isGap (c : Char) : Bool := [' ', '\t', '\n', '\x0c', '\r'].contains c

/-- The numeral with nothing but a minus in front: blanks and pluses there say nothing, nor do
blanks behind it. -/
def withoutGaps (s : List Char) : List Char :=
  let isIdle (c : Char) : Bool := isGap c || c == '+'
  match ((s.reverse.dropWhile isGap).reverse).dropWhile isIdle with
  | '-' :: rest => '-' :: rest.dropWhile isIdle
  | rest => rest

/-- The value of a numeral: an integer if it is written as one and 64 bits hold it, else a real that
is scaled in steps. -/
def Cell.ofNumeral? (s : List Char) : Option Cell :=
  let s := withoutSeparators (withoutGaps s)
  match integer? s with
  | some n => some (.integer n)
  | none =>
    (Decimal.Numeral.ofChars? s).map fun n =>
      match Decimal.binary64.ofDecimalStepwise? n.digits n.exponent with
      | some units => .real (.finite n.negative units)
      | none => .real (.infinite n.negative)

/-- The text that stands between quotes in a query, which ends at a zero. -/
def Cell.ofText? (s : String) : Option Cell :=
  if s.toList.contains '\x00' then none else some (.text s)

/-- The octets that pairs of digits of base sixteen denote. -/
def octets? : List Char → Option (List UInt8)
  | [] => some []
  | a :: b :: rest => do
    let n ← Text.ofBaseDigits? 16 [a, b]
    return UInt8.ofNat n :: (← octets? rest)
  | [_] => none

/-- A failure that the database reports, by its number. -/
def failure (code : Nat) (message : String) : BackendError :=
  .query ("[" ++ Text.natText code ++ "] " ++ message)

/-- The texts of rows, which have one width and are not empty. -/
def table (rows : List (List Cell)) : Except BackendError (List (List String)) :=
  if rows.any List.isEmpty then .error (failure 1 "near \")\": syntax error")
  else if rows.all fun row => row.length == (rows.headD []).length then
    .ok (rows.map (·.map Cell.shown))
  else .error (failure 1 "all VALUES must have the same number of terms")

/-! ### Queries for constants -/

/-- A text up to its closing quote, and the rest; a quote within it is written twice. -/
def quoted? : List Char → Option (List Char × List Char)
  | [] => none
  | '\'' :: '\'' :: s => (quoted? s).map fun (text, rest) => ('\'' :: text, rest)
  | '\'' :: s => some ([], s)
  | c :: s => (quoted? s).map fun (text, rest) => (c :: text, rest)

/-- The characters of a word or a numeral. -/
def isWordChar (c : Char) : Bool := c.isAlphanum || c == '_' || c == '.' || c == '-' || c == '+'

/-- The text without its outer parentheses and the blanks around and within them. -/
def withoutParentheses : Nat → List Char → List Char
  | 0, s => s
  | fuel + 1, s =>
    let s := Text.trim s
    match (Text.dropHead? ['('] s).bind (Text.dropTail? [')']) with
    | some inner => withoutParentheses fuel inner
    | none => s

/-- The value of a constant expression. -/
def constant (s : List Char) : Except BackendError Cell :=
  let s := withoutParentheses s.length s
  let word := s.takeWhile isWordChar
  match s with
  | '\'' :: rest =>
    match quoted? rest with
    | some (text, []) => .ok (.text (String.ofList text))
    | _ => .error (failure 1 "syntax error")
  | _ =>
    if s.map Char.toLower == "null".toList then .ok .null
    else match Cell.ofNumeral? s with
      | some cell => .ok cell
      | none =>
        if (s.drop word.length).head? == some '(' then
          .error (failure 1 ("no such function: " ++ String.ofList word))
        else .error (failure 1 ("near \"" ++ String.ofList word ++ "\": syntax error"))

/-- The rows of a query for a constant: one row of one cell. -/
def select (sql : String) : Except BackendError (List (List String)) :=
  let s := Text.trim sql.toList
  let s := Text.trim ((Text.dropTail? [';'] s).getD s)
  let (verb, rest) := (s.takeWhile Char.isAlpha, s.dropWhile Char.isAlpha)
  if verb.map Char.toLower == "select".toList then
    (constant rest).map fun cell => [[cell.shown]]
  else if s.isEmpty then .ok []
  else .error (failure 1 ("near \"" ++ String.ofList verb ++ "\": syntax error"))

end Inspection.Sql.Sqlite
