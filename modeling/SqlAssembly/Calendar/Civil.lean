/-! # Civil dates and day numbers

Days are numbered from 1970-01-01 on, in the Gregorian calendar carried on before its adoption.  A
year is reckoned from March, so that the leap day is the last one of it, and four hundred years
have 146097 days.

* `CivilDate`               year, month and day
* `CivilDate.Valid`         the month has that day
* `CivilDate.dayNumber`     the number of a day
* `CivilDate.ofDayNumber`   the day of a number -/

namespace SqlAssembly

/-- A year, a month from 1 to 12 and a day from 1 on. -/
structure CivilDate where
  year : Int
  month : Nat
  day : Nat
deriving DecidableEq, Repr

namespace CivilDate

/-- Whether the year has a leap day. -/
def isLeap (year : Int) : Bool := year % 4 = 0 && (year % 100 ≠ 0 || year % 400 = 0)

/-- How many days the month has. -/
def daysInMonth (year : Int) (month : Nat) : Nat :=
  match month with
  | 2 => if isLeap year then 29 else 28
  | 4 | 6 | 9 | 11 => 30
  | _ => 31

/-- The first and the last year that dates are reckoned in. -/
def firstYear : Int := -262143

/-- The last year that dates are reckoned in. -/
def lastYear : Int := 262142

/-- Whether the date is a day of the calendar. -/
def Valid (d : CivilDate) : Prop :=
  firstYear ≤ d.year ∧ d.year ≤ lastYear ∧ 1 ≤ d.month ∧ d.month ≤ 12 ∧ 1 ≤ d.day ∧
    d.day ≤ daysInMonth d.year d.month

instance (d : CivilDate) : Decidable d.Valid := inferInstanceAs (Decidable (_ ∧ _))

/-- The days from 0000-03-01 to 1970-01-01. -/
def epochShift : Int := 719468

/-- The number of a day, counted from 1970-01-01. -/
def dayNumber (d : CivilDate) : Int :=
  let year := if d.month ≤ 2 then d.year - 1 else d.year
  let yearOfEra := year % 400
  let monthFromMarch : Int := ((d.month + 9) % 12 : Nat)
  let dayOfYear := (153 * monthFromMarch + 2) / 5 + d.day - 1
  let dayOfEra := yearOfEra * 365 + yearOfEra / 4 - yearOfEra / 100 + dayOfYear
  year / 400 * 146097 + dayOfEra - epochShift

/-- The day of a number counted from 1970-01-01. -/
def ofDayNumber (n : Int) : CivilDate :=
  let shifted := n + epochShift
  let dayOfEra := shifted % 146097
  let yearOfEra :=
    (dayOfEra - dayOfEra / 1460 + dayOfEra / 36524 - dayOfEra / 146096) / 365
  let dayOfYear := dayOfEra - (365 * yearOfEra + yearOfEra / 4 - yearOfEra / 100)
  let monthFromMarch := (5 * dayOfYear + 2) / 153
  let day := dayOfYear - (153 * monthFromMarch + 2) / 5 + 1
  let month := if monthFromMarch < 10 then monthFromMarch + 3 else monthFromMarch - 9
  let year := yearOfEra + shifted / 146097 * 400
  ⟨if month ≤ 2 then year + 1 else year, month.toNat, day.toNat⟩

end CivilDate

end SqlAssembly
