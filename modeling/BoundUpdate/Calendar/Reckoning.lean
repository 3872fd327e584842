import BoundUpdate.Calendar

namespace BoundUpdate
namespace Calendar

/-!
# Reckoning with time

Lengths of time are reckoned in microseconds and days by their numbers.
-/

/-!
## Lengths of time

A length of time is a number of microseconds.  It is told in days, seconds below
a day and microseconds below a second, of which the days alone may be negative.
-/

/-- The microseconds of a day. -/
def perDay : Nat := 86400 * perSecond

/-- A length of time in days, seconds and microseconds. -/
structure Span where
  days : Int
  seconds : Int
  microseconds : Int
  deriving DecidableEq, Repr

namespace Span

/-- The days, seconds and microseconds of a number of microseconds. -/
def ofMicroseconds (n : Int) : Span :=
  { days := n.fdiv perDay
    seconds := n.fmod perDay / perSecond
    microseconds := n.fmod perDay % perSecond }

/-- The number of microseconds. -/
def toMicroseconds (s : Span) : Int := s.days * perDay + s.seconds * perSecond + s.microseconds

@[simp]
theorem toMicroseconds_ofMicroseconds (n : Int) : (ofMicroseconds n).toMicroseconds = n := by
  simp only [ofMicroseconds, toMicroseconds, perDay, perSecond]
  rw [Int.fdiv_eq_ediv_of_nonneg _ (by omega), Int.fmod_eq_emod_of_nonneg _ (by omega)]
  omega

/-- The greatest number of days. -/
def greatestDays : Int := 999999999

/-- The least length of time. -/
def least : Int := -greatestDays * perDay

/-- The greatest length of time. -/
def greatest : Int := (greatestDays + 1) * perDay - 1

end Span

/-- The greatest distance from universal time: one minute less than a day. -/
def greatestOffset : Int := perDay - 60 * perSecond

/-- The notation of a length of time. -/
def spanText (n : Int) : String :=
  let s := Span.ofMicroseconds n
  let seconds := s.seconds.toNat
  (if s.days = 0 then ""
    else Number.intText s.days ++ (if s.days.natAbs = 1 then " day, " else " days, ")) ++
    Number.natText (seconds / 3600) ++ ":" ++ padded 2 (seconds / 60 % 60) ++ ":" ++
    padded 2 (seconds % 60) ++
    (if s.microseconds = 0 then "" else "." ++ padded 6 s.microseconds.toNat)

/-- The name of a distance from universal time. -/
def zoneText (n : Int) : String := if n = 0 then "UTC" else "UTC" ++ offsetText n

/-!
## Ways to reckon days

A day has a number, counted from the first day of the year one, a place in its
week and in its year, and a year and week that it counts for.  Moments can be
moved along the clock as far as the years from one to 9999 reach.
-/

/-- The number of the first day of the year one. -/
def firstNumber : Nat := yearStart 1

/-- The number of a day, counted from one on the first day of the year one. -/
def Day.ordinal (d : Day) : Nat := d.number + 1 - firstNumber

/-- The place of a day in its week, from zero on Monday. -/
def Day.weekday (d : Day) : Nat := (d.ordinal + 6) % 7

/-- The place of a day in its year, from one. -/
def Day.ofYear (d : Day) : Nat := d.number + 1 - yearStart d.year

/-- The first Monday of the weeks that count for a year: the one of the week that holds the first
Thursday of the year. -/
def firstMonday (year : Nat) : Int :=
  let start : Int := yearStart year
  let place := (start + 1) % 7
  if place ≤ 3 then start - place else start - place + 7

/-- The year, the week and the place in it that a day counts for. -/
def Day.isoWeek (d : Day) : Nat × Nat × Nat :=
  let year := if (d.number : Int) < firstMonday d.year then d.year - 1
    else if firstMonday (d.year + 1) ≤ d.number then d.year + 1
    else d.year
  (year, ((d.number - firstMonday year) / 7).toNat + 1, d.weekday + 1)

/-- The day with a number, counted as `Day.number` does; none outside the years from one to
9999. -/
def dayOfNumber? (number : Int) : Option Day :=
  if number < firstNumber ∨ (yearStart 10000 : Int) ≤ number then none
  else
    let n := number.toNat
    -- four hundred years have 146097 days, so the year is near this one
    let near := 400 * n / 146097
    let years := [near - 1, near, near + 1].filter fun year => decide (yearStart year ≤ n)
    years.getLast?.bind fun year => dayWithin n year 1 12

/-- A moment moved along the clock; its distance from universal time stays. -/
def Moment.moved? (m : Moment) (microseconds : Int) : Option Moment := do
  let time := (m.localTime : Int) + microseconds
  let date ← dayOfNumber? (time.fdiv perDay)
  let inDay := (time.fmod perDay).toNat
  let seconds := inDay / perSecond
  return { m with date, hour := seconds / 3600, minute := seconds / 60 % 60,
                  second := seconds % 60, microsecond := inDay % perSecond }

/-- A moment in universal time; one whose distance from it is unknown is taken to be in it. -/
def Moment.universal? (m : Moment) : Option Moment := do
  return { ← m.moved? (-(m.offset.getD 0)) with offset := some 0 }

/-- The microseconds from the start of the year 1970, in universal time, to a moment. -/
def Moment.sinceEpoch (m : Moment) : Int :=
  let epoch : Moment :=
    { date := ⟨1970, 1, 1⟩, hour := 0, minute := 0, second := 0, microsecond := 0, offset := none }
  (m.localTime : Int) - m.offset.getD 0 - epoch.localTime

/-- Whether a moment is on the first day of the calendar. -/
def Moment.isEarliest (m : Moment) : Bool := m.date.ordinal == 1

/-- The names of the days of a week. -/
def dayNames : List String := ["Mon", "Tue", "Wed", "Thu", "Fri", "Sat", "Sun"]

/-- The names of the months of a year. -/
def monthNames : List String :=
  ["Jan", "Feb", "Mar", "Apr", "May", "Jun", "Jul", "Aug", "Sep", "Oct", "Nov", "Dec"]

/-- A moment in words: the day of the week, the month, the day, the time and the year. -/
def Moment.inWords (m : Moment) : String :=
  let d := m.date
  let day := Number.natText d.day
  (dayNames[d.weekday]?.getD "") ++ " " ++ (monthNames[d.month - 1]?.getD "") ++ " " ++
    (if d.day < 10 then " " ++ day else day) ++ " " ++ padded 2 m.hour ++ ":" ++
    padded 2 m.minute ++ ":" ++ padded 2 m.second ++ " " ++ padded 4 d.year

/-- The start of a day. -/
def Day.start (d : Day) : Moment :=
  { date := d, hour := 0, minute := 0, second := 0, microsecond := 0, offset := none }

end Calendar
end BoundUpdate
