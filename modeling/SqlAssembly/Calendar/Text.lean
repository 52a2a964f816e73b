import SqlAssembly.Calendar.Moment
import SqlAssembly.Number.Numeral

/-! # Text of dates and moments

Dates are written `YYYY-MM-DD`, with a sign in front of a year that is not one of 0 to 9999.  A
time follows behind a `T`, with three, six or nine digits of a fraction where there is one, and a
moment ends in its offset to the minute.

* `Date.text`      the text of a day
* `Clock.text`     the text of a clock reading
* `Moment.text`    the text of a moment -/

namespace SqlAssembly

/-- The text of a year: four digits, or a sign and at least four. -/
def yearText (year : Int) : List Char :=
  if 0 ≤ year ∧ year ≤ 9999 then Numeral.padded 4 year.natAbs
  else (if year < 0 then '-' else '+') :: Numeral.padded 4 year.natAbs

/-- Two digits. -/
def twoDigits (n : Nat) : List Char := Numeral.padded 2 n

/-- The text of a civil date. -/
def CivilDate.text (d : CivilDate) : List Char :=
  yearText d.year ++ '-' :: twoDigits d.month ++ '-' :: twoDigits d.day

/-- The text of nanoseconds: nothing for none, else a point and three, six or nine digits. -/
def fractionText (nanos : Nat) : List Char :=
  if nanos = 0 then []
  else if nanos % 1000000 = 0 then '.' :: Numeral.padded 3 (nanos / 1000000)
  else if nanos % 1000 = 0 then '.' :: Numeral.padded 6 (nanos / 1000)
  else '.' :: Numeral.padded 9 nanos

/-- The text of a time of day; a leap second counts on behind the second before it. -/
def timeText (secondOfDay nanos : Nat) : List Char :=
  let leap := decide (Clock.nanosPerSecond ≤ nanos)
  let second := secondOfDay % 60 + if leap then 1 else 0
  let fraction := nanos - if leap then Clock.nanosPerSecond else 0
  twoDigits (secondOfDay / 3600) ++ ':' :: twoDigits (secondOfDay / 60 % 60) ++
    ':' :: twoDigits second ++ fractionText fraction

/-- The text of a day. -/
def Date.text (d : Date) : String := String.ofList (CivilDate.ofDayNumber d.day).text

/-- The characters of a clock reading. -/
def Clock.chars (c : Clock) : List Char :=
  (CivilDate.ofDayNumber c.date.day).text ++ 'T' :: timeText c.secondOfDay c.nanos

/-- The text of a clock reading. -/
def Clock.text (c : Clock) : String := String.ofList c.chars

/-- The text of an offset, rounded to the nearest minute. -/
def offsetText (offset : Int) : List Char :=
  let minutes := (offset.natAbs + 30) / 60
  (if offset < 0 then '-' else '+') ::
    twoDigits (minutes / 60) ++ ':' :: twoDigits (minutes % 60)

/-- The text of a moment, with its offset in numbers. -/
def Moment.text (m : Moment) : String := String.ofList (m.clock.chars ++ offsetText m.offset)

/-- The text of a moment, with `Z` for no offset. -/
def Moment.zuluText (m : Moment) : String :=
  if m.offset = 0 then String.ofList (m.clock.chars ++ ['Z']) else m.text

end SqlAssembly
