/-!
# Moments

Days of the calendar and times of day, as documents write them: a day, a time, or both, perhaps with
how far the clock is ahead of universal time.

Days are counted from the first day of the first year, so that two moments on clocks of different
zones can be compared: `Moment.instant?`.
-/

namespace CopperRoute

/-! ### Days -/

def isLeapYear (year : Nat) : Bool := year % 4 == 0 && (year % 100 != 0 || year % 400 == 0)

/-- How many days a month has; a month that is none has no days. -/
def daysInMonth (year month : Nat) : Nat :=
  match month with
  | 4 | 6 | 9 | 11 => 30
  | 2 => if isLeapYear year then 29 else 28
  | 1 | 3 | 5 | 7 | 8 | 10 | 12 => 31
  | _ => 0

structure Day where
  year : Nat
  month : Nat
  day : Nat
  year_pos : 0 < year
  day_pos : 0 < day
  day_le : day ≤ daysInMonth year month
deriving DecidableEq

namespace Day

/-- The day with the given numbers, if there is one. -/
def ofNumbers? (year month day : Nat) : Option Day :=
  if h : 0 < year ∧ 0 < day ∧ day ≤ daysInMonth year month then
    some ⟨year, month, day, h.1, h.2.1, h.2.2⟩
  else none

def daysBeforeYear (year : Nat) : Nat :=
  let past := year - 1
  365 * past + past / 4 - past / 100 + past / 400

def daysBefore (d : Day) : Nat :=
  daysBeforeYear d.year +
    ((List.range (d.month - 1)).map fun m => daysInMonth d.year (m + 1)).foldr (· + ·) (d.day - 1)

end Day

/-! ### Times of day -/

structure Clock where
  hour : Nat
  minute : Nat
  second : Nat
  microsecond : Nat
  hour_lt : hour < 24
  minute_lt : minute < 60
  second_lt : second < 60
deriving DecidableEq

namespace Clock

def ofNumbers? (hour minute second microsecond : Nat) : Option Clock :=
  if h : hour < 24 ∧ minute < 60 ∧ second < 60 then
    some ⟨hour, minute, second, microsecond, h.1, h.2.1, h.2.2⟩
  else none

/-- How many microseconds have passed since midnight. -/
def microseconds (c : Clock) : Nat :=
  ((60 * c.hour + c.minute) * 60 + c.second) * 1000000 + c.microsecond

end Clock

/-! ### Moments -/

def minutesInDay : Nat := 1440

/-- How many minutes a clock is ahead of universal time. -/
structure Zone where
  minutes : Int
  lt_day : minutes.natAbs < minutesInDay
deriving DecidableEq

namespace Zone

def universal : Zone := ⟨0, by decide⟩

/-- The zone with the given numbers of hours and minutes, if it is less than a day away. -/
def ofNumbers? (behind : Bool) (hours minutes : Nat) : Option Zone :=
  let size : Int := 60 * hours + minutes
  let size := if behind then -size else size
  if h : size.natAbs < minutesInDay then some ⟨size, h⟩ else none

end Zone

inductive Moment where
  | day (day : Day)
  | time (clock : Clock)
  | both (day : Day) (clock : Clock) (zone : Option Zone)
deriving DecidableEq

namespace Moment

/-- The microseconds from the first midnight to a moment whose zone is known. -/
def instant? : Moment → Option Int
  | both d c (some z) =>
    some ((d.daysBefore * minutesInDay - z.minutes) * 60000000 + c.microseconds)
  | both _ _ none | day _ | time _ => none

/-- Whether two moments are the same: as written, or on clocks of different zones. -/
def same (a b : Moment) : Bool :=
  match a.instant?, b.instant? with
  | some i, some j => i == j
  | _, _ => a == b

/-! ### The short form -/

def padded (width n : Nat) : String :=
  let digits := toString n
  "".pushn '0' (width - digits.length) ++ digits

def dayText (d : Day) : String := s!"{padded 4 d.year}-{padded 2 d.month}-{padded 2 d.day}"

/-- A time of day in short form, with a fraction if there is one. -/
def clockText (c : Clock) : String :=
  let whole := s!"{padded 2 c.hour}:{padded 2 c.minute}:{padded 2 c.second}"
  if c.microsecond = 0 then whole else s!"{whole}.{padded 6 c.microsecond}"

def zoneText (z : Zone) : String :=
  let size := z.minutes.natAbs
  (if z.minutes < 0 then "-" else "+") ++ s!"{padded 2 (size / 60)}:{padded 2 (size % 60)}"

def text : Moment → String
  | day d => dayText d
  | time c => clockText c
  | both d c none => s!"{dayText d} {clockText c}"
  | both d c (some z) => s!"{dayText d} {clockText c}{zoneText z}"

/-! ### The written form -/

/-- The numbers of a time of day, where seconds and their fraction are left out if they are zero. -/
def clockNumbers (c : Clock) : List Nat :=
  [c.hour, c.minute] ++
    if c.microsecond ≠ 0 then [c.second, c.microsecond]
    else if c.second ≠ 0 then [c.second] else []

/-- A zone in written form. What lies behind universal time is told as a day less. -/
def zoneWritten (z : Zone) : String :=
  if z.minutes = 0 then "datetime.timezone.utc"
  else
    let days := if z.minutes < 0 then "days=-1, " else ""
    s!"datetime.timezone(datetime.timedelta({days}seconds={60 * (z.minutes % minutesInDay)}))"

def typeName : Moment → String
  | day _ => "date"
  | time _ => "time"
  | both .. => "datetime"

/-- A moment in written form: its kind and its numbers. -/
def written (m : Moment) : String :=
  let numbers : List Nat :=
    match m with
    | day d => [d.year, d.month, d.day]
    | time c => clockNumbers c
    | both d c _ => [d.year, d.month, d.day] ++ clockNumbers c
  let zone : List String :=
    match m with
    | both _ _ (some z) => [s!"tzinfo={zoneWritten z}"]
    | _ => []
  let parts := ", ".intercalate (numbers.map toString ++ zone)
  s!"datetime.{m.typeName}({parts})"

end Moment

end CopperRoute
