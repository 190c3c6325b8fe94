import CopperRoute.Number.Double
import CopperRoute.Text.Character

/-!
# Reading numerals

A numeral is an optional sign, digits with at most one point among them, and an optional exponent;
the digits may be of any script. `Numeral.ofChars?` reads it and `Numeral.toFloat` gives the double
nearest to it.

Settings on the command line are read a little more freely: blanks may stand around the numeral, a
single underscore between two digits, and infinity has a word. `literal?` and `wholeLiteral?` read
those, and `markedLiteral?` whole numbers to another base.

Decimals of whole numbers have a limit of length, both read and written.
-/

namespace CopperRoute.Number

open CopperRoute.Text

/-- A decimal `± digits · 10 ^ exponent` as written. -/
structure Numeral where
  negative : Bool
  digits : Nat
  exponent : Int
deriving Repr, DecidableEq

/-- The double nearest to a numeral; infinity if it is past the range of doubles. -/
def Numeral.toFloat (n : Numeral) : Float := ofDecimal n.negative n.digits n.exponent

def digitsValue (cs : List Char) : Nat :=
  cs.foldl (fun n c => 10 * n + (digitValue? c).getD 0) 0

/-- Splits off a sign. Without one the text counts as positive. -/
def splitSign : List Char → Bool × List Char
  | '-' :: rest => (true, rest)
  | '+' :: rest => (false, rest)
  | cs => (false, cs)

def splitDigits (cs : List Char) : List Char × List Char :=
  (cs.takeWhile isDecimal, cs.dropWhile isDecimal)

def digitRun? (cs : List Char) : Option Nat :=
  if !cs.isEmpty && cs.all isDecimal then some (digitsValue cs) else none

/-- The exponent of a numeral: nothing, or the letter e in either case, a sign and digits. -/
def exponent? : List Char → Option Int
  | [] => some 0
  | c :: rest =>
    if c == 'e' || c == 'E' then
      let (negative, ds) := splitSign rest
      (digitRun? ds).map fun n => if negative then -(n : Int) else n
    else none

def splitFraction : List Char → List Char × List Char
  | '.' :: rest => splitDigits rest
  | cs => ([], cs)

/-- Reads a numeral that fills the whole of `cs`. -/
def Numeral.ofChars? (cs : List Char) : Option Numeral :=
  let (negative, unsigned) := splitSign cs
  let (whole, behind) := splitDigits unsigned
  let (fraction, tail) := splitFraction behind
  if whole.isEmpty && fraction.isEmpty then none
  else
    (exponent? tail).map fun e => ⟨negative, digitsValue (whole ++ fraction), e - fraction.length⟩

/-! ### Literals -/

/-- The blanks that may stand around a literal: all but the information separators. -/
def isSpacing (c : Char) : Bool := isBlank c && !(0x1c ≤ c.toNat && c.toNat ≤ 0x1f)

/-- Removes underscores, each of which has to stand between two digits. The flag tells whether a
digit stands just before `cs`. -/
def ungroup (afterDigit : Bool) : List Char → Option (List Char)
  | [] => some []
  | c :: rest =>
    if c == '_' then
      if afterDigit && rest.head?.any isDecimal then ungroup false rest else none
    else (ungroup (isDecimal c) rest).map (c :: ·)

def special? (cs : List Char) : Option Float :=
  let (negative, word) := splitSign cs
  let word := String.ofList (word.map Char.toLower)
  if word == "inf" || word == "infinity" then some (infinity negative)
  else if word == "nan" then some undefined
  else none

/-- Reads a number as an option of the command line gives it. -/
def literal? (s : String) : Option Float :=
  let cs := trimWith isSpacing s.toList
  match special? cs with
  | some x => some x
  | none => (ungroup false cs).bind fun ds => (Numeral.ofChars? ds).map Numeral.toFloat

/-- The most decimal digits that a whole number is read or written with. -/
def digitLimit : Nat := 4300

def isWritable (i : Int) : Bool := i.natAbs < Nat.pow 10 digitLimit

def wholeLiteral? (s : String) : Option Int :=
  let (negative, ds) := splitSign (trimWith isSpacing s.toList)
  match ungroup false ds with
  | none => none
  | some ds =>
    if ds.length ≤ digitLimit then
      (digitRun? ds).map fun n => if negative then -(n : Int) else n
    else none

/-! ### Other bases -/

/-- The value of a digit of any script, or of one of the letters from a to f in either case. -/
def letterValue? (c : Char) : Option Nat :=
  if 'a' ≤ c && c ≤ 'f' then some (c.toNat - 87)
  else if 'A' ≤ c && c ≤ 'F' then some (c.toNat - 55)
  else digitValue? c

/-- The number that a non-empty run of digits writes to a base. -/
def basedNumber? (base : Nat) (cs : List Char) : Option Nat :=
  if cs.isEmpty then none
  else
    cs.foldlM (fun n c => do
      let d ← letterValue? c
      if d < base then some (base * n + d) else none) 0

/-- The digits behind the mark of a base, or all of `cs` if the mark is not there. -/
def dropMark (mark : Char) (cs : List Char) : List Char :=
  match cs with
  | '0' :: c :: rest => if c == mark || c == mark.toUpper then rest else cs
  | _ => cs

/-- Reads a whole number to a base: blanks may stand around it, and a zero and the letter `mark`
before its digits. A power of two as base needs no limit of length. -/
def markedLiteral? (base : Nat) (mark : Char) (cs : List Char) : Option Int :=
  let (negative, ds) := splitSign (trimWith isSpacing cs)
  (basedNumber? base (dropMark mark ds)).map fun n => if negative then -(n : Int) else n

end CopperRoute.Number
