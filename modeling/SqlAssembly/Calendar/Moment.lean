import SqlAssembly.Calendar.Civil

/-! # Dates, clock readings and moments

* `Date`       a day
* `Clock`      a day and a time of day without a zone, to the nanosecond
* `Moment`     a clock reading at an offset from universal time
* `UtcMoment`  a moment read at universal time
* `Moment.unix`    the seconds since 1970 at the moment
* `Moment.toUtc`   the same moment read on a clock at universal time

A leap second is the second before it with a thousand million nanoseconds more. -/

namespace SqlAssembly

/-- A day, by its number from 1970-01-01. -/
structure Date where
  day : Int
deriving DecidableEq

/-- A clock reading without a zone: seconds since 1970-01-01 00:00:00 on that clock and
    nanoseconds, which go past a thousand million in a leap second. -/
structure Clock where
  seconds : Int
  nanos : Nat
  nanos_lt : nanos < 2000000000
deriving DecidableEq

/-- A clock reading and how many seconds the clock is ahead of universal time. -/
structure Moment where
  clock : Clock
  offset : Int
  offset_gt : -86400 < offset
  offset_lt : offset < 86400
deriving DecidableEq

namespace Clock

/-- The nanoseconds of a second. -/
def nanosPerSecond : Nat := 1000000000

/-- The seconds of a day. -/
def secondsPerDay : Int := 86400

/-- The day of a clock reading. -/
def date (c : Clock) : Date := ⟨c.seconds / secondsPerDay⟩

/-- The whole seconds since midnight. -/
def secondOfDay (c : Clock) : Nat := (c.seconds % secondsPerDay).toNat

/-- Midnight at the beginning of a day. -/
def midnight (d : Date) : Clock := ⟨d.day * secondsPerDay, 0, by decide⟩

/-- The same reading at universal time. -/
def atUtc (c : Clock) : Moment := ⟨c, 0, by decide, by decide⟩

theorem date_midnight (d : Date) : (midnight d).date = d := by
  cases d; simp [midnight, date, secondsPerDay]

end Clock

/-- A moment read on a clock at universal time. -/
structure UtcMoment where
  clock : Clock
deriving DecidableEq

/-- The moment, at no offset. -/
def UtcMoment.moment (u : UtcMoment) : Moment := u.clock.atUtc

namespace Moment

/-- The seconds since the beginning of 1970 at universal time. -/
def unix (m : Moment) : Int := m.clock.seconds - m.offset

/-- The same moment on a clock at universal time. -/
def toUtc (m : Moment) : UtcMoment := ⟨⟨m.unix, m.clock.nanos, m.clock.nanos_lt⟩⟩

/-- Whether the day of the reading is one that dates are reckoned in. -/
def inRange (m : Moment) : Bool :=
  let year := (CivilDate.ofDayNumber m.clock.date.day).year
  CivilDate.firstYear ≤ year && year ≤ CivilDate.lastYear

/-- The moment that many seconds after the beginning of 1970, if dates reach that far. -/
def ofUnix? (seconds : Int) : Option Moment :=
  let m : Moment := ⟨⟨seconds, 0, by decide⟩, 0, by decide, by decide⟩
  if m.inRange then some m else none

/-- Reading a moment at universal time on a clock at universal time changes nothing. -/
theorem toUtc_moment (u : UtcMoment) : u.moment.toUtc = u := by
  simp [toUtc, UtcMoment.moment, Clock.atUtc, unix]

end Moment

end SqlAssembly
