import CopperRoute.Number.Double

/-!
# Doubles in decimals

A double is written by the shortest decimal that reads back, or with a given number of figures.
-/

namespace CopperRoute.Number

/-! ## Shortest decimals

The decimal with the fewest digits that reads back as a given double, and the nearest to it among
those. `shortest` tries one digit, two digits and so on; on each grid only the two neighbours of the
value can read back if anything does.
-/

/-- A positive decimal `digits · 10 ^ exponent`. -/
structure Decimal where
  digits : Nat
  exponent : Int
deriving Repr, DecidableEq

/-- The decimal exponent of the leading digit of `n / d`, for positive `n` and `d`. -/
def leadingPlace (n d : Nat) : Int :=
  if d ≤ n then digitCount (n / d) - 1
  else
    let places := digitCount (d / n)
    if n * Nat.pow 10 (places - 1) = d then 1 - (places : Int) else -(places : Int)

/-- The decimals of the grid of `10 ^ exponent` next to `n / d`, the nearer one first; of two that
are equally near the even one is first. -/
def neighbours (n d : Nat) (exponent : Int) : List Decimal :=
  -- `n / d` in units of the grid, again as a fraction
  let num := n * Nat.pow 10 (-exponent).toNat
  let den := d * Nat.pow 10 exponent.toNat
  let below := num / den
  if divHalfEven num den = below then [⟨below, exponent⟩, ⟨below + 1, exponent⟩]
  else [⟨below + 1, exponent⟩, ⟨below, exponent⟩]

def Decimal.strip (d : Decimal) : Decimal :=
  if h : d.digits ≠ 0 ∧ d.digits % 10 = 0 then Decimal.strip ⟨d.digits / 10, d.exponent + 1⟩ else d
termination_by d.digits
decreasing_by omega

/-- The first of `grids` on which a neighbour of `n / d` has the code `code`, counting from the
grid that keeps `count` digits. -/
def shortestFrom (n d code : Nat) (place : Int) (count : Nat) : Nat → Option Decimal
  | 0 => none
  | grids + 1 =>
    let found := (neighbours n d (place - count + 1)).find? fun c =>
      nearestCode (c.digits * Nat.pow 10 c.exponent.toNat) (Nat.pow 10 (-c.exponent).toNat) == code
    match found with
    | some c => some c
    -- no decimal with so few digits reads back
    | none => shortestFrom n d code place (count + 1) grids

/-- The shortest decimal that reads back as the positive dyadic value `v`. Seventeen digits suffice;
the exact decimal stands in the place of a search that would find nothing. -/
def Dyadic.shortest (v : Dyadic) : Decimal :=
  let n := v.num
  let d := v.den
  let found := shortestFrom n d (nearestCode n d) (leadingPlace n d) 1 17
  let exactly : Decimal := ⟨n * Nat.pow 5 (-v.exponent).toNat, min 0 v.exponent⟩
  (found.getD exactly).strip

/-! ### The written form

A double is written with its shortest decimal. A leading digit between the fourth decimal and the
sixteenth place before the point is written in its position, with at least one decimal; any other
gets an exponent of two digits or more. -/

/-- The exponent part of a numeral: a sign and at least two digits. -/
def exponentText (e : Int) : List Char :=
  let digits := decimalDigits e.natAbs
  let padded := if digits.length < 2 then '0' :: digits else digits
  'e' :: (if e < 0 then '-' else '+') :: padded

/-- The digits `ds` with the point behind the first `place + 1` of them, for a `place` that may be
negative. -/
def positional (ds : List Char) (place : Int) : List Char :=
  if place < 0 then '0' :: '.' :: (List.replicate (-place - 1).toNat '0' ++ ds)
  else
    let whole := place.toNat + 1
    let front := ds.take whole ++ List.replicate (whole - ds.length) '0'
    let back := ds.drop whole
    front ++ '.' :: (if back.isEmpty then ['0'] else back)

/-- The digits `ds` with the point behind the first, and an exponent. -/
def scientific (ds : List Char) (place : Int) : List Char :=
  let mantissa :=
    match ds with
    | [] => []
    | [c] => [c]
    | c :: rest => c :: '.' :: rest
  mantissa ++ exponentText place

def Dyadic.text (v : Dyadic) : List Char :=
  let sign := if v.negative then ['-'] else []
  if v.mantissa = 0 then sign ++ ['0', '.', '0']
  else
    let short := v.shortest
    let ds := decimalDigits short.digits
    let place : Int := short.exponent + ds.length - 1
    sign ++ (if -4 ≤ place ∧ place < 16 then positional ds place else scientific ds place)

/-- The written form of a double: the shortest decimal that reads back as the same double. -/
def text (x : Float) : String :=
  match exact x with
  | .finite v => String.ofList v.text
  | .infinite negative => infinityText negative
  | .undefined => "nan"

/-! ## Significant figures

A double with a given number of figures: its exact value is rounded to the nearest multiple of the
place of the last figure, a half going to the even one. There are three forms to write a number in.
The first has a given number of decimals, the second has figures and an exponent, and the third is
one of both, without the zeros at the end.
-/

/-- The first `count` figures of the absolute value `v`, rounded, and the place of the first. -/
def Dyadic.figures (v : Dyadic) (count : Nat) : List Char × Int :=
  if v.mantissa = 0 then (List.replicate count '0', 0)
  else
    let place := leadingPlace v.num v.den
    let shift := count - 1 - place
    let ds := decimalDigits
      (divHalfEven (v.num * Nat.pow 10 shift.toNat) (v.den * Nat.pow 10 (-shift).toNat))
    -- rounding up may give one figure more, and then those behind the first are zeros
    if ds.length ≤ count then (ds, place) else (ds.take count, place + 1)

/-- Digits on both sides of a point, which is left out before nothing unless it is asked for. -/
def pointed (always : Bool) (front back : List Char) : List Char :=
  if back.isEmpty && !always then front else front ++ '.' :: back

inductive Form where
  | fixed
  | scientific
  | general
deriving Repr, DecidableEq

/-- The absolute value `v` in a form. The decimals or figures are as many as asked for, the point is
always there if asked for, and then no zero at the end is left out. -/
def Dyadic.inForm (v : Dyadic) (form : Form) (places : Nat) (always : Bool) : List Char :=
  match form with
  | .fixed =>
    let (whole, fraction) := pointParts (v.units places) places
    pointed always whole fraction
  | .scientific =>
    let (ds, place) := v.figures (places + 1)
    pointed always (ds.take 1) (ds.drop 1) ++ exponentText place
  | .general =>
    let count := max 1 places
    let (ds, place) := v.figures count
    let kept (back : List Char) :=
      if always then back else (back.reverse.dropWhile (· == '0')).reverse
    if place < -4 ∨ count ≤ place then
      pointed always (ds.take 1) (kept (ds.drop 1)) ++ exponentText place
    else if place < 0 then
      pointed always ['0'] (kept (List.replicate (-place - 1).toNat '0' ++ ds))
    else pointed always (ds.take (place.toNat + 1)) (kept (ds.drop (place.toNat + 1)))

end CopperRoute.Number
