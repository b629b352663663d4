/-!
# Calendar dates and times

A date is a year, a month and a day; a moment adds the time of day down to microseconds. Both are
written with fixed-width fields; a fraction of a second appears only when there is one.
-/

set_option autoImplicit false

namespace SqlBuilder

/-- A calendar date. -/
structure Date where
  /-- The year. -/
  year : Nat
  /-- The month, from 1. -/
  month : Nat
  /-- The day of the month, from 1. -/
  day : Nat
  deriving DecidableEq, Repr, Inhabited

/-- A date with a time of day. -/
structure Moment where
  /-- The date. -/
  date : Date
  /-- The hour. -/
  hour : Nat
  /-- The minute. -/
  minute : Nat
  /-- The second. -/
  second : Nat
  /-- The microsecond. -/
  microsecond : Nat
  deriving DecidableEq, Repr, Inhabited

/-- A number with leading zeros up to a width. -/
def padded (width value : Nat) : String :=
  let digits := Nat.toDigits 10 value
  String.ofList (List.replicate (width - digits.length) '0' ++ digits)

/-- The text of a date, as in `2024-01-02`. -/
def Date.text (d : Date) : String :=
  padded 4 d.year ++ "-" ++ padded 2 d.month ++ "-" ++ padded 2 d.day

/-- The text of a moment, with a given mark between the date and the time. -/
def Moment.textWith (mark : String) (m : Moment) : String :=
  let clock := padded 2 m.hour ++ ":" ++ padded 2 m.minute ++ ":" ++ padded 2 m.second
  let fraction := if m.microsecond = 0 then "" else "." ++ padded 6 m.microsecond
  m.date.text ++ mark ++ clock ++ fraction

/-- The text of a moment, as in `2024-01-02 03:04:05`. -/
def Moment.text (m : Moment) : String :=
  m.textWith " "

/-- The year, month and day of a date, in order. -/
def Date.fields (d : Date) : List Nat :=
  [d.year, d.month, d.day]

/-- The fields of a moment down to the last that is needed: seconds and microseconds are left out
when nothing after the minute is set. -/
def Moment.fields (m : Moment) : List Nat :=
  let head := m.date.fields ++ [m.hour, m.minute]
  if m.microsecond ≠ 0 then head ++ [m.second, m.microsecond]
  else if m.second ≠ 0 then head ++ [m.second]
  else head

end SqlBuilder
