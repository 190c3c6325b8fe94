import CopperRoute.Moment
import CopperRoute.Number.Numeral
import CopperRoute.Breakdown

/-!
# Moments in YAML

A moment is written as a day, `2001-12-14`, or as a day with a time behind the letter t or blanks,
`2001-12-14 21:59:43.10 -5:30`. Months, days and hours may have one digit; the zone is the letter Z
or a sign with hours and perhaps minutes.

A text without a tag is a moment only if a day that stands alone is written in full.
-/

namespace CopperRoute.Yaml

/-- A moment as it is written: its numbers, not yet checked against the calendar. -/
structure Stamp where
  year : Nat
  month : Nat
  day : Nat
  /-- hour, minute, second and the digits of the fraction -/
  clock : Option (Nat × Nat × Nat × List Char) := none
  /-- whether the clock is behind universal time, and by how many hours and minutes -/
  zone : Option (Bool × Nat × Nat) := none
  /-- whether month and day have two digits each -/
  inFull : Bool

namespace Stamp

/-- The number of `least` to `most` digits that `cs` starts with, how many there are, and the rest.
-/
def digits? (least most : Nat) (cs : List Char) : Option (Nat × Nat × List Char) :=
  let ds := (cs.take most).takeWhile Char.isDigit
  if ds.length < least then none
  else some (Number.digitsValue ds, ds.length, cs.drop ds.length)

/-- What follows the character `c` that `cs` has to start with. -/
def after? (c : Char) : List Char → Option (List Char)
  | [] => none
  | a :: cs => if a == c then some cs else none

/-- A zone that fills `cs`: nothing, or a zone behind blanks. -/
def zone? (cs : List Char) : Option (Option (Bool × Nat × Nat)) :=
  match cs, cs.dropWhile fun c => c == ' ' || c == '\t' with
  | [], _ => some none
  | _, ['Z'] => some (some (false, 0, 0))
  | _, sign :: cs => do
    if sign != '+' && sign != '-' then none
    let (hours, _, cs) ← digits? 1 2 cs
    match cs with
    | [] => pure (some (sign == '-', hours, 0))
    | ':' :: cs => do
      let (minutes, _, cs) ← digits? 2 2 cs
      if cs.isEmpty then pure (some (sign == '-', hours, minutes)) else none
    | _ => none
  | _, [] => none

/-- The text behind what parts a day from a time, if it is there. -/
def behindDay? : List Char → Option (List Char)
  | [] => none
  | c :: cs =>
    if c == 'T' || c == 't' then some cs
    else if c == ' ' || c == '\t' then some (cs.dropWhile fun c => c == ' ' || c == '\t')
    else none

/-- A time of day and a zone that fill `cs`. -/
def clock? (cs : List Char) :
    Option ((Nat × Nat × Nat × List Char) × Option (Bool × Nat × Nat)) := do
  let (hour, _, cs) ← digits? 1 2 cs
  let cs ← after? ':' cs
  let (minute, _, cs) ← digits? 2 2 cs
  let cs ← after? ':' cs
  let (second, _, cs) ← digits? 2 2 cs
  let (fraction, cs) :=
    match cs with
    | '.' :: cs => (cs.takeWhile Char.isDigit, cs.dropWhile Char.isDigit)
    | cs => ([], cs)
  let zone ← zone? cs
  pure ((hour, minute, second, fraction), zone)

def ofChars? (cs : List Char) : Option Stamp := do
  let (year, _, cs) ← digits? 4 4 cs
  let cs ← after? '-' cs
  let (month, monthSize, cs) ← digits? 1 2 cs
  let cs ← after? '-' cs
  let (day, daySize, cs) ← digits? 1 2 cs
  let inFull := monthSize == 2 && daySize == 2
  if cs.isEmpty then pure { year, month, day, inFull }
  else do
    let cs ← behindDay? cs
    let (clock, zone) ← clock? cs
    pure { year, month, day, clock := some clock, zone, inFull }

/-- Whether a text without a tag is the moment `s`. -/
def isPlain (s : Stamp) : Bool := s.clock.isSome || s.inFull

/-- The microseconds of the digits of a fraction of a second. Digits past the sixth do not count. -/
def microseconds (fraction : List Char) : Nat :=
  let ds := fraction.take 6
  Number.digitsValue ds * Nat.pow 10 (6 - ds.length)

def moment? (s : Stamp) : Option Moment := do
  let day ← Day.ofNumbers? s.year s.month s.day
  match s.clock with
  | none => pure (.day day)
  | some (hour, minute, second, fraction) => do
    let zone ←
      match s.zone with
      | none => some none
      | some (behind, hours, minutes) => (Zone.ofNumbers? behind hours minutes).map some
    let clock ← Clock.ofNumbers? hour minute second (microseconds fraction)
    pure (.both day clock zone)

end Stamp

end CopperRoute.Yaml
