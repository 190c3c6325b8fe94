import CopperRoute.Moment
import CopperRoute.Number.Numeral
import CopperRoute.Toml.Reader

/-!
# TOML moments

A day, `1979-05-27`, a time, `07:32:00.5`, or both with a t or one blank between them, and then
perhaps a zone: the letter z, or a sign with hours and minutes. Each number has all its digits.
-/

namespace CopperRoute.Toml

open Reader

/-- A number of two digits from `least` to `most` at the start of `cs`, and the rest. -/
def twoDigits? (least most : Nat) : List Char → Option (Nat × List Char)
  | a :: b :: cs =>
    let n := Number.digitsValue [a, b]
    if a.isDigit && b.isDigit && least ≤ n && n ≤ most then some (n, cs) else none
  | _ => none

/-- What follows one of the characters `marks` that `cs` has to start with. -/
def behindMark? (marks : List Char) : List Char → Option (List Char)
  | c :: cs => if marks.contains c then some cs else none
  | [] => none

/-- The microseconds of a fraction at the start of `cs`, and the rest. Digits past the sixth do not
count. -/
def microseconds (cs : List Char) : Nat × List Char :=
  match cs with
  | '.' :: rest =>
    let ds := rest.takeWhile Char.isDigit
    if ds.isEmpty then (0, cs)
    else (Number.digitsValue (ds.take 6) * Nat.pow 10 (6 - ds.length), rest.drop ds.length)
  | _ => (0, cs)

def clock? (cs : List Char) : Option (Clock × List Char) := do
  let (hour, cs) ← twoDigits? 0 23 cs
  let cs ← behindMark? [':'] cs
  let (minute, cs) ← twoDigits? 0 59 cs
  let cs ← behindMark? [':'] cs
  let (second, cs) ← twoDigits? 0 59 cs
  let (fraction, cs) := microseconds cs
  let clock ← Clock.ofNumbers? hour minute second fraction
  pure (clock, cs)

def signedZone? (cs : List Char) : Option (Zone × List Char) := do
  let behind := cs.head? == some '-'
  let cs ← behindMark? ['+', '-'] cs
  let (hours, cs) ← twoDigits? 0 23 cs
  let cs ← behindMark? [':'] cs
  let (minutes, cs) ← twoDigits? 0 59 cs
  let zone ← Zone.ofNumbers? behind hours minutes
  pure (zone, cs)

/-- A zone at the start of `cs`, if there is one, and the rest. -/
def zone (cs : List Char) : Option Zone × List Char :=
  match behindMark? ['Z', 'z'] cs with
  | some cs => (some .universal, cs)
  | none =>
    match signedZone? cs with
    | some (zone, cs) => (some zone, cs)
    | none => (none, cs)

def dayNumbers? (cs : List Char) : Option ((Nat × Nat × Nat) × List Char) := do
  let (century, cs) ← twoDigits? 0 99 cs
  let (year, cs) ← twoDigits? 0 99 cs
  let cs ← behindMark? ['-'] cs
  let (month, cs) ← twoDigits? 1 12 cs
  let cs ← behindMark? ['-'] cs
  let (day, cs) ← twoDigits? 1 31 cs
  pure ((100 * century + year, month, day), cs)

/-- A moment, if one starts here. A day that the calendar does not have is refused. -/
def moment? : Reader (Option Moment) := do
  let cs ← get
  match dayNumbers? cs with
  | some ((year, month, day), cs) =>
    match Day.ofNumbers? year month day with
    | none => refuse "a day that is none"
    | some day =>
      match (behindMark? ['T', 't', ' '] cs).bind clock? with
      | none =>
        set cs
        return some (.day day)
      | some (clock, cs) =>
        let (zone, cs) := zone cs
        set cs
        return some (.both day clock zone)
  | none =>
    match clock? cs with
    | none => return none
    | some (clock, cs) =>
      set cs
      return some (.time clock)

end CopperRoute.Toml
