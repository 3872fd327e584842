import BoundUpdate.Number.Digits

namespace BoundUpdate
namespace Calendar

/-!
# Days and moments

A day is a year, a month and a day of the month.  A moment adds a time of day in
microseconds and possibly a distance from universal time.  Both are read from
and written in the extended notation of ISO 8601.
-/

/-- A day. -/
structure Day where
  year : Nat
  month : Nat
  day : Nat
  deriving DecidableEq, Repr

/-- A moment on a day. -/
structure Moment where
  date : Day
  hour : Nat
  minute : Nat
  second : Nat
  microsecond : Nat
  /-- Microseconds east of universal time. -/
  offset : Option Int
  deriving DecidableEq, Repr

/-- A number written with at least `width` digits. -/
def padded (width n : Nat) : String :=
  let cs := Number.natChars n
  String.ofList (List.replicate (width - cs.length) '0' ++ cs)

/-- The notation of a day. -/
def Day.text (d : Day) : String :=
  padded 4 d.year ++ "-" ++ padded 2 d.month ++ "-" ++ padded 2 d.day

/-- The microseconds of a second. -/
def perSecond : Nat := 1000000

/-- The notation of a distance from universal time; zero seconds at the end are left out. -/
def offsetText (microseconds : Int) : String :=
  let fraction := microseconds.natAbs % perSecond
  let n := microseconds.natAbs / perSecond
  let base := (if microseconds < 0 then "-" else "+") ++ padded 2 (n / 3600) ++ ":" ++
    padded 2 (n / 60 % 60)
  if fraction ≠ 0 then base ++ ":" ++ padded 2 (n % 60) ++ "." ++ padded 6 fraction
  else if n % 60 = 0 then base
  else base ++ ":" ++ padded 2 (n % 60)

/-- The notation of a moment, with the given separator between day and time. -/
def Moment.textWith (separator : String) (m : Moment) : String :=
  m.date.text ++ separator ++ padded 2 m.hour ++ ":" ++ padded 2 m.minute ++ ":" ++
    padded 2 m.second ++
    (if m.microsecond = 0 then "" else "." ++ padded 6 m.microsecond) ++
    (match m.offset with | some o => offsetText o | none => "")

/-- The days from the first of March of the year zero to a day. -/
def Day.number (d : Day) : Nat :=
  let (year, month) := if d.month < 3 then (d.year - 1, d.month + 9) else (d.year, d.month - 3)
  365 * year + year / 4 - year / 100 + year / 400 + (153 * month + 2) / 5 + d.day

/-- The microseconds since the first of March of the year zero, local time. -/
def Moment.localTime (m : Moment) : Nat :=
  (86400 * m.date.number + 3600 * m.hour + 60 * m.minute + m.second) * perSecond + m.microsecond

/-- Whether two moments are the same instant; one whose distance from universal time is unknown is
never the same as one whose distance is known. -/
def Moment.sameInstant (m n : Moment) : Bool :=
  match m.offset, n.offset with
  | some o, some p => (m.localTime : Int) - o == (n.localTime : Int) - p
  | none, none => decide (m = n)
  | _, _ => false

/-- The number spelled by a part that consists of digits only. -/
def part? (cs : List Char) : Option Nat :=
  if !cs.isEmpty && cs.all Number.isDigit then some (Number.readDigits cs) else none

/-- The days from the first of March of the year zero to the first of January of a year. -/
def yearStart (year : Nat) : Nat := (Day.mk year 1 1).number

/-- The day with a number of days since the first of March of the year zero, which is in a year or
the following one; `fuel` bounds the number of months to look through. -/
def dayWithin (number year month : Nat) : (fuel : Nat) → Option Day
  | 0 => none
  | fuel + 1 =>
    let (nextYear, nextMonth) := if month = 12 then (year + 1, 1) else (year, month + 1)
    let start := (Day.mk year month 1).number
    if number < (Day.mk nextYear nextMonth 1).number then
      some { year, month, day := number - start + 1 }
    else dayWithin number nextYear nextMonth fuel

/-- The day of a week of a year: the first week holds the first Thursday of the year, and weeks
start on Monday. -/
def dayOfWeek? (year week weekday : Nat) : Option Day :=
  let start := yearStart year
  -- the third of March of the year zero is a Friday, counted from zero on Monday
  let place := (start + 1) % 7
  let monday : Int := if place ≤ 3 then (start : Int) - place else (start : Int) - place + 7
  let number := (monday + 7 * ((week : Int) - 1) + ((weekday : Int) - 1)).toNat
  dayWithin number (if number < start then year - 1 else year) (if number < start then 12 else 1) 26

/-- Read a day: a year, a month and a day, or a year, a week and possibly a day of it, with or
without hyphens between them. -/
def Day.read (cs : List Char) : Option Day := do
  let year ← part? (cs.take 4)
  match (cs.drop 4).filter (· != '-') with
  | 'W' :: rest =>
    let week ← part? (rest.take 2)
    dayOfWeek? year week ((part? (rest.drop 2)).getD 1)
  | rest =>
    let month ← part? (rest.take 2)
    let day ← part? (rest.drop 2)
    return { year, month, day }

/-- The microseconds that digits after a point spell. -/
def readFraction (digits : List Char) : Nat :=
  Number.readDigits ((digits ++ List.replicate 6 '0').take 6)

/-- Whether a character stands between seconds and their fraction. -/
def isPoint (c : Char) : Bool := c == '.' || c == ','

/-- Read a time of day: hours, minutes, seconds and microseconds, of which all but the hours may
be left out. -/
def readClock (cs : List Char) : Option (Nat × Nat × Nat × Nat) := do
  let whole := (cs.takeWhile fun c => !isPoint c).filter (· != ':')
  let fraction := (cs.dropWhile fun c => !isPoint c).drop 1
  let hour ← part? (whole.take 2)
  let optional := fun (n : Nat) => (part? ((whole.drop n).take 2)).getD 0
  return (hour, optional 2, optional 4, readFraction fraction)

/-- Read a distance from universal time; less than a second counts as none. -/
def readOffset : List Char → Option (Option Int)
  | [] => some none
  | ['Z'] => some (some 0)
  | sign :: rest => do
    let (hours, minutes, seconds, fraction) ← readClock rest
    let whole := 3600 * hours + 60 * minutes + seconds
    let n : Int := if whole = 0 then 0 else (whole * perSecond + fraction : Nat)
    if sign == '+' then return some n
    else if sign == '-' then return some (-n)
    else none

/-- Whether a character starts a distance from universal time. -/
def startsOffset (c : Char) : Bool := c == '+' || c == '-' || c == 'Z'

/-- How many characters of a moment's notation are its day. -/
def dayLength (cs : List Char) : Nat :=
  match cs.drop 4 with
  | '-' :: 'W' :: rest =>
    match rest.drop 2 with
    | '-' :: c :: _ => if Number.isDigit c then 10 else 8
    | _ => 8
  | '-' :: _ => 10
  | 'W' :: rest => if rest.length ≤ 2 ∨ !((rest.drop 2).head?.any Number.isDigit) then 7 else 8
  | _ => 8

/-- Read a moment; without a time it is the start of the day. -/
def Moment.read (cs : List Char) : Option Moment := do
  let date ← Day.read (cs.take (dayLength cs))
  let time := cs.drop (dayLength cs + 1)
  if time.isEmpty then
    return { date, hour := 0, minute := 0, second := 0, microsecond := 0, offset := none }
  else
    let (hour, minute, second, microsecond) ← readClock (time.takeWhile fun c => !startsOffset c)
    let offset ← readOffset (time.dropWhile fun c => !startsOffset c)
    return { date, hour, minute, second, microsecond, offset }

end Calendar
end BoundUpdate
