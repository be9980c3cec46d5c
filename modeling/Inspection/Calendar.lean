import Inspection.Text.Numeral

/-!
# Calendar — Dates and times of day

Dates of the Gregorian calendar, extended to all years, and times within a day, with their texts.

* `Date.isReal`: the calendar has the date.
* `Date.text`, `Clock.text`: the usual written forms.
* `Timestamp.ofSeconds`: the date and time so many seconds after the start of 1970.
-/

namespace Inspection

/-- A year, a month and a day. -/
structure Date where
  year : Int
  month : Nat
  day : Nat
deriving DecidableEq, Repr

/-- A time within a day. -/
structure Clock where
  hour : Nat
  minute : Nat
  second : Nat
  microsecond : Nat := 0
deriving DecidableEq, Repr

/-- A date and a time within it. -/
structure Timestamp where
  date : Date
  clock : Clock
deriving DecidableEq, Repr

/-- A number in two digits at least. -/
def twoDigits (n : Nat) : String := String.ofList (Text.digitsPadded 2 n)

/-- A year in four digits at least; outside of those it has a sign. -/
def yearText (year : Int) : String :=
  let ds := String.ofList (Text.digitsPadded 4 year.natAbs)
  if year < 0 then "-" ++ ds else if year < 10000 then ds else "+" ++ ds

namespace Date

/-- February has a day more. -/
def isLeap (year : Int) : Bool := year % 4 == 0 && (year % 100 != 0 || year % 400 == 0)

/-- How many days a month has; a number that is no month has none. -/
def daysOfMonth (year : Int) : Nat → Nat
  | 2 => if isLeap year then 29 else 28
  | 4 | 6 | 9 | 11 => 30
  | m => if 1 ≤ m ∧ m ≤ 12 then 31 else 0

/-- The calendar has the date. -/
def isReal (d : Date) : Bool := 1 ≤ d.day && d.day ≤ daysOfMonth d.year d.month

/-- The three numbers with dashes between them. -/
def text (d : Date) : String :=
  "-".intercalate [yearText d.year, twoDigits d.month, twoDigits d.day]

end Date

namespace Clock

/-- A day has the time. -/
def isReal (c : Clock) : Bool :=
  c.hour < 24 && c.minute < 60 && c.second < 60 && c.microsecond < 1000000

/-- The part of the second: nothing, three digits if they are enough, or six. -/
def fractionText (microsecond : Nat) : String :=
  if microsecond = 0 then ""
  else if microsecond % 1000 = 0 then
    String.ofList ('.' :: Text.digitsPadded 3 (microsecond / 1000))
  else String.ofList ('.' :: Text.digitsPadded 6 microsecond)

/-- The three numbers with colons between them, and the part of the second. -/
def text (c : Clock) : String :=
  ":".intercalate [twoDigits c.hour, twoDigits c.minute, twoDigits c.second]
    ++ fractionText c.microsecond

end Clock

/-- The date so many days after the first of March of the year zero.  Years are counted from March,
so that a leap day is the last day of its year, and in periods of 400 years, which all have the same
number of days. -/
def Date.ofDays (days : Int) : Date :=
  let period := days.fdiv 146097
  let day := (days.fmod 146097).toNat
  let year := (day - day / 1460 + day / 36524 - day / 146096) / 365
  let dayOfYear := day - (365 * year + year / 4 - year / 100)
  let month := (5 * dayOfYear + 2) / 153
  { year := 400 * period + year + if month < 10 then 0 else 1
    month := if month < 10 then month + 3 else month - 9
    day := dayOfYear - (153 * month + 2) / 5 + 1 }

/-- From the first of March of the year zero to the start of 1970. -/
def daysToEpoch : Int := 719468

/-- The date and time so many seconds after the start of 1970. -/
def Timestamp.ofSeconds (seconds : Int) : Timestamp :=
  let second := (seconds.fmod 86400).toNat
  { date := Date.ofDays (seconds.fdiv 86400 + daysToEpoch)
    clock := ⟨second / 3600, second / 60 % 60, second % 60, 0⟩ }

/-- The six numbers with dashes between them, as they stand in the names of files. -/
def Timestamp.text (t : Timestamp) : String :=
  "-".intercalate [yearText t.date.year, twoDigits t.date.month, twoDigits t.date.day,
    twoDigits t.clock.hour, twoDigits t.clock.minute, twoDigits t.clock.second]

end Inspection
