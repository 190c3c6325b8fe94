import CopperRoute.Number.Numeral
import CopperRoute.Toml.Text
import CopperRoute.Value

/-!
# TOML numbers

Whole numbers are decimal without leading zeros, or hexadecimal, octal or binary behind a mark.
Doubles have a fraction, an exponent or both; infinity and what is no number have words. A single
underscore may stand between two digits.
-/

namespace CopperRoute.Toml

open Reader

/-- The digits of a class that `cs` goes on with, each perhaps behind an underscore. -/
def moreDigits (p : Char → Bool) : List Char → List Char
  | [] => []
  | '_' :: c :: cs => if p c then '_' :: c :: moreDigits p cs else []
  | c :: cs => if p c then c :: moreDigits p cs else []

/-- The digits of a class that `cs` starts with, with single underscores between them. -/
def digits (p : Char → Bool) : List Char → List Char
  | [] => []
  | c :: cs => if p c then c :: moreDigits p cs else []

/-- The number written by the digits `cs` to a base, underscores left out. -/
def baseNumber (base : Nat) (cs : List Char) : Nat :=
  (cs.filterMap Text.hexValue?).foldl (fun n d => base * n + d) 0

def isBaseDigit (base : Nat) (c : Char) : Bool := (Text.hexValue? c).any (· < base)

def bases : List (String × Nat) := [("0x", 16), ("0b", 2), ("0o", 8)]

/-- A whole number to a marked base at the start of `cs`, and its length. -/
def markedNumber? (cs : List Char) : Option (Value × Nat) :=
  bases.findSome? fun b =>
    if b.1.toList.isPrefixOf cs then
      let ds := digits (isBaseDigit b.2) (cs.drop 2)
      if ds.isEmpty then none else some (.int (baseNumber b.2 ds), ds.length + 2)
    else none

def signOf : List Char → List Char
  | '-' :: _ => ['-']
  | '+' :: _ => ['+']
  | _ => []

/-- The whole part of a decimal at the start of `cs`: a zero, or digits that do not start with one.
-/
def wholeOf : List Char → List Char
  | '0' :: _ => ['0']
  | cs => digits Char.isDigit cs

/-- The point and the digits behind it at the start of `cs`, or nothing. -/
def fractionOf : List Char → List Char
  | '.' :: cs =>
    let ds := digits Char.isDigit cs
    if ds.isEmpty then [] else '.' :: ds
  | _ => []

def exponentOf : List Char → List Char
  | c :: cs =>
    if c == 'e' || c == 'E' then
      let sign := signOf cs
      let ds := digits Char.isDigit (cs.drop sign.length)
      if ds.isEmpty then [] else c :: (sign ++ ds)
    else []
  | [] => []

/-- A decimal at the start of `cs`, and its length. A whole number with more digits than can be read
stands for no value. -/
def decimal? (cs : List Char) : Option (Except Unreadable Value × Nat) :=
  let sign := signOf cs
  let cs := cs.drop sign.length
  let whole := wholeOf cs
  let cs := cs.drop whole.length
  let fraction := fractionOf cs
  let cs := cs.drop fraction.length
  let exponent := exponentOf cs
  if whole.isEmpty then none
  else
    let text := sign ++ whole ++ fraction ++ exponent
    let value : Option Value :=
      if fraction.isEmpty && exponent.isEmpty then
        (Number.wholeLiteral? (String.ofList text)).map .int
      else (Number.literal? (String.ofList text)).map .float
    match value with
    | some v => some (.ok v, text.length)
    | none => some (.error (.breakdown .unfitValue), text.length)

def words : List String := ["inf", "nan", "-inf", "+inf", "-nan", "+nan"]

/-- A number, if one starts here. -/
def number? : Reader (Option Value) := do
  let cs ← get
  match markedNumber? cs with
  | some (v, size) =>
    skip size
    return some v
  | none =>
    match decimal? cs with
    | some (v, size) =>
      skip size
      match v with
      | .ok v => return some v
      | .error e => throw e
    | none =>
      match words.find? fun w => w.toList.isPrefixOf cs with
      | some w =>
        skip w.length
        return (Number.literal? w).map .float
      | none => return none

end CopperRoute.Toml
