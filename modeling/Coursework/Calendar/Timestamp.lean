import Coursework.Calendar.Date
import Coursework.Numeral.Natural

/-!
# Reading timestamps and plain dates

Two written forms of a point in time. A timestamp follows RFC 3339: a date, one separator of a
single byte, a time of day with an optional fraction of a second, and `Z` or an offset. A plain
date is a year of four digits with an optional sign, a month and a day. Both readers take the
whole text or nothing.

The sixtieth second exists only where a leap second can: in the last minute, by universal time,
of a month.
-/

namespace Coursework.Calendar

/-- A local time of day to the minute on a date. -/
structure Moment where
  date : Date
  hour : Nat
  minute : Nat
  deriving DecidableEq

/-- A number of exactly `count` decimal digits, and the rest. -/
def readDigits? (count : Nat) (cs : List Char) : Option (Nat × List Char) :=
  if (cs.take count).length = count then
    (Numeral.ofDigits? (cs.take count)).map (·, cs.drop count)
  else none

/-- The rest after the expected character. -/
def expect? (c : Char) : List Char → Option (List Char)
  | [] => none
  | d :: rest => if d = c then some rest else none

/-- The rest after a separator, which is any character of one byte. -/
def separator? : List Char → Option (List Char)
  | [] => none
  | c :: rest => if c.toNat < 128 then some rest else none

/-- The rest after an optional point with at least one digit. -/
def fraction? : List Char → Option (List Char)
  | '.' :: d :: rest => if d.isDigit then some (rest.dropWhile Char.isDigit) else none
  | '.' :: [] => none
  | cs => some cs

/-- A number of two digits, at most `greatest`, and the rest. -/
def twoDigits? (greatest : Nat) (cs : List Char) : Option (Nat × List Char) :=
  (readDigits? 2 cs).filter (·.1 ≤ greatest)

/-- The offset from universal time in minutes, which ends the text. -/
def offset? (cs : List Char) : Option Int :=
  match cs with
  | ['Z'] => some 0
  | ['z'] => some 0
  | sign :: rest => do
    guard (sign = '+' ∨ sign = '-')
    let (hours, rest) ← twoDigits? 23 rest
    let rest ← expect? ':' rest
    let (minutes, rest) ← twoDigits? 59 rest
    guard (rest = [])
    let total : Int := hours * 60 + minutes
    return if sign = '-' then -total else total
  | [] => none

/-- Year, month and day, joined by hyphens, and the rest. -/
def date? (cs : List Char) : Option (Date × List Char) := do
  let (year, cs) ← readDigits? 4 cs
  let cs ← expect? '-' cs
  let (month, cs) ← readDigits? 2 cs
  let cs ← expect? '-' cs
  let (day, cs) ← readDigits? 2 cs
  let date ← Date.make? year month day
  return (date, cs)

/-- The moment is in the last minute of a month by universal time. An offset is less than a day,
so that minute lies on the local day or on the day before it. -/
def Moment.endsMonth (moment : Moment) (offset : Int) : Bool :=
  let minutes : Int := moment.hour * 60 + moment.minute - offset
  (minutes == 24 * 60 - 1 && moment.date.isMonthEnd) || (minutes == -1 && moment.date.day == 1)

/-- The moment that a timestamp names, by its own clock. -/
def readTimestamp? (cs : List Char) : Option Moment := do
  let (date, cs) ← date? cs
  let cs ← separator? cs
  let (hour, cs) ← twoDigits? 23 cs
  let cs ← expect? ':' cs
  let (minute, cs) ← twoDigits? 59 cs
  let cs ← expect? ':' cs
  let (second, cs) ← twoDigits? 60 cs
  let cs ← fraction? cs
  let offset ← offset? cs
  let moment : Moment := ⟨date, hour, minute⟩
  guard (second < 60 ∨ moment.endsMonth offset)
  return moment

/-- The date that a plain date names. -/
def readDate? (cs : List Char) : Option Date :=
  let (negative, digits) := match cs with
    | '-' :: rest => (true, rest)
    | '+' :: rest => (false, rest)
    | _ => (false, cs)
  do
    let (year, rest) ← readDigits? 4 digits
    let rest ← expect? '-' rest
    let (month, rest) ← readDigits? 2 rest
    let rest ← expect? '-' rest
    let (day, rest) ← readDigits? 2 rest
    guard (rest = [])
    Date.make? (if negative then -(year : Int) else year) month day

end Coursework.Calendar
