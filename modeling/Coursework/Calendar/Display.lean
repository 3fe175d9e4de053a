import Coursework.Calendar.Timestamp

/-!
# Times for people

How a time of the course data is shown: a timestamp as day, month, year and clock, a plain date
without the clock, and any other text as it is. The day has no leading zero, a year has at least
four digits, and the clock is that of the timestamp's own offset.
-/

namespace Coursework.Calendar

/-- The digits of a number, with zeros in front up to a width. -/
def padded (width n : Nat) : String :=
  let digits := Nat.toDigits 10 n
  String.ofList (List.replicate (width - digits.length) '0' ++ digits)

/-- A year with at least four digits, and a sign if it is before the year zero. -/
def yearText (year : Int) : String :=
  (if year < 0 then "-" else "") ++ padded 4 year.natAbs

/-- Day, name of the month and year. -/
def Date.text (date : Date) : String :=
  toString date.day ++ " " ++ monthName date.month ++ " " ++ yearText date.year

/-- The date and the clock. -/
def Moment.text (moment : Moment) : String :=
  moment.date.text ++ " " ++ padded 2 moment.hour ++ ":" ++ padded 2 moment.minute

/-- How a time of the course data is shown. -/
def display (raw : String) : String :=
  match readTimestamp? raw.toList with
  | some moment => moment.text
  | none =>
    match readDate? raw.toList with
    | some date => date.text
    | none => raw

end Coursework.Calendar
