/-!
# Doubles

    numerator, denominator ──nearest──▶ double ──exact──▶ ± mantissa · 2 ^ exponent ──▶ decimals

A double is taken as the fraction that it stands for. Fractions are rounded in one way only, on the
way to a double as well as on the way to decimals.
-/

namespace CopperRoute.Number

/-! ## Rounding a quotient

`divHalfEven n d` is the whole number nearest to `n / d`; of two that are equally near it is the
even one. All roundings of this library go through it: of decimals to doubles, and of doubles to
decimals. `divHalfEven_mul` says that a whole quotient is left as it is, and `divHalfEven_near` that
the result is within half a unit.
-/

/-- The whole number nearest to `n / d`, a half going to the even neighbour. -/
def divHalfEven (n d : Nat) : Nat :=
  let below := n / d
  let rest := n % d
  if 2 * rest < d ∨ (2 * rest = d ∧ below % 2 = 0) then below else below + 1

/-! ### Laws -/

/-- A whole quotient is left as it is. -/
theorem divHalfEven_mul (q : Nat) {d : Nat} (hd : 0 < d) : divHalfEven (q * d) d = q := by
  simp [divHalfEven, Nat.mul_div_cancel _ hd, hd]

/-- The result is within half a unit of the quotient. -/
theorem divHalfEven_near (n : Nat) {d : Nat} (hd : 0 < d) :
    2 * n ≤ (2 * divHalfEven n d + 1) * d ∧ 2 * divHalfEven n d * d ≤ 2 * n + d := by
  have hn : d * (n / d) + n % d = n := Nat.div_add_mod n d
  have hr : n % d < d := Nat.mod_lt n hd
  simp only [divHalfEven]
  generalize n / d = q at hn ⊢
  generalize n % d = r at hn hr ⊢
  subst hn
  split
  · constructor <;> grind
  · constructor <;> grind

/-! ## Doubles and the fractions they stand for

A finite double is a fraction `± mantissa · 2 ^ exponent`, which `exact` reads off its bits. The way
back is `nearest`, the double nearest to a fraction of naturals: it scales the fraction until its
whole part fills the 53 bits of a mantissa, or the exponent reaches its least value, and rounds
once. Since the codes of the doubles count up through mantissa and exponent alike, a mantissa that
is rounded up past its last bit carries into the exponent by itself.
-/

/-- The value `± mantissa · 2 ^ exponent` of a finite double. -/
structure Dyadic where
  negative : Bool
  mantissa : Nat
  exponent : Int
deriving Repr, DecidableEq

/-- The numerator of the absolute value. -/
def Dyadic.num (v : Dyadic) : Nat := v.mantissa * Nat.pow 2 v.exponent.toNat

/-- The denominator of the absolute value, a power of two. -/
def Dyadic.den (v : Dyadic) : Nat := Nat.pow 2 (-v.exponent).toNat

inductive Exact where
  | finite (value : Dyadic)
  | infinite (negative : Bool)
  | undefined
deriving Repr, DecidableEq

/-- The value of a double, read off its sign bit, its eleven exponent bits and its fraction bits. -/
def exact (x : Float) : Exact :=
  let code := x.toBits.toNat
  let negative := code / Nat.pow 2 63 == 1
  let scale : Nat := code / Nat.pow 2 52 % Nat.pow 2 11
  let fraction : Nat := code % Nat.pow 2 52
  if scale = 2047 then (if fraction = 0 then .infinite negative else .undefined)
  else if scale = 0 then .finite ⟨negative, fraction, -1074⟩
  else .finite ⟨negative, Nat.pow 2 52 + fraction, (scale : Int) - 1075⟩

def isFinite (x : Float) : Bool :=
  match exact x with
  | .finite _ => true
  | _ => false

/-! ### The nearest double -/

/-- The code of positive infinity, one past the code of the greatest finite double. -/
def infinityCode : Nat := 2047 * Nat.pow 2 52

/-- The code of the double nearest to `n / d`, for a positive `d`. The exponent is the one at which
`n / d` has 53 bits before the point, and at least -1074; a quotient past the greatest double goes
to infinity. -/
def nearestCode (n d : Nat) : Nat :=
  if n = 0 then 0
  else
    let size : Int := (n.log2 : Int) - d.log2
    -- the logarithms leave the quotient between `2 ^ (size - 1)` and `2 ^ (size + 1)`
    let below := n * Nat.pow 2 (-size).toNat < d * Nat.pow 2 size.toNat
    let exponent := max (-1074) (if below then size - 53 else size - 52)
    let mantissa := divHalfEven (n * Nat.pow 2 (-exponent).toNat) (d * Nat.pow 2 exponent.toNat)
    -- the leading bit of a normal mantissa counts one for the exponent
    min infinityCode ((exponent + 1074).toNat * Nat.pow 2 52 + mantissa)

/-- The double with the given sign and the given code of its absolute value. -/
def ofCode (negative : Bool) (code : Nat) : Float :=
  Float.ofBits (UInt64.ofNat (if negative then Nat.pow 2 63 + code else code))

/-- The double nearest to `± n / d`, for a positive `d`. -/
def nearest (negative : Bool) (n d : Nat) : Float := ofCode negative (nearestCode n d)

def infinity (negative : Bool) : Float := ofCode negative infinityCode

/-- The double that stands for no number. -/
def undefined : Float := ofCode false (infinityCode + Nat.pow 2 51)

/-- The double nearest to a whole number, if the number is within the range of doubles. -/
def ofInt? (i : Int) : Option Float :=
  let code := nearestCode i.natAbs 1
  if code < infinityCode then some (ofCode (i < 0) code) else none

/-- The number of decimal digits of `n`; zero has one. -/
def digitCount (n : Nat) : Nat := (Nat.toDigits 10 n).length

/-- The double nearest to `± digits · 10 ^ exponent`. Numerals whose leading digit stands above the
310th place or below the 330th decimal are past the range of doubles and need no arithmetic. -/
def ofDecimal (negative : Bool) (digits : Nat) (exponent : Int) : Float :=
  let top : Int := digitCount digits + exponent
  if digits = 0 ∨ top < -330 then ofCode negative 0
  else if 310 < top then infinity negative
  else nearest negative (digits * Nat.pow 10 exponent.toNat) (Nat.pow 10 (-exponent).toNat)

/-! ### Whole numbers -/

/-- The whole number that a dyadic value is cut to, toward zero. -/
def Dyadic.truncate (v : Dyadic) : Int :=
  let size := v.num / v.den
  if v.negative then -size else size

def Dyadic.isWhole (v : Dyadic) : Bool := v.num % v.den == 0

/-- The number of digits before the point. A value below one has none. -/
def Dyadic.wholeDigits (v : Dyadic) : Nat :=
  let whole := v.num / v.den
  if whole = 0 then 0 else digitCount whole

/-! ## Fixed decimal places

A double with a fixed number of decimal places: its exact value is rounded to the nearest multiple
of the last place, a half going to the even one.
-/

/-- The whole number of units of the last of `places` decimals that is nearest to the absolute
value `v`. -/
def Dyadic.units (v : Dyadic) (places : Nat) : Nat := divHalfEven (v.num * Nat.pow 10 places) v.den

def decimalDigits (n : Nat) : List Char := Nat.toDigits 10 n

/-- The last `places` decimal digits of `n`, with leading zeros. -/
def lastDigits (n : Nat) : Nat → List Char
  | 0 => []
  | places + 1 => lastDigits (n / 10) places ++ [Nat.digitChar (n % 10)]

/-- The two parts of `units` units of the last of `places` decimals: the digits before the point and
those behind it. -/
def pointParts (units places : Nat) : List Char × List Char :=
  (decimalDigits (units / Nat.pow 10 places), lastDigits (units % Nat.pow 10 places) places)

/-- A sign, a whole part and a fraction as text. The point stands only before a fraction. -/
def pointText (negative : Bool) (whole fraction : List Char) : String :=
  let sign := if negative then ['-'] else []
  let tail := if fraction.isEmpty then [] else '.' :: fraction
  String.ofList (sign ++ whole ++ tail)

def infinityText (negative : Bool) : String := if negative then "-inf" else "inf"

/-- The double `x` with exactly `places` decimals. -/
def fixedText (x : Float) (places : Nat) : String :=
  match exact x with
  | .finite v =>
    let (whole, fraction) := pointParts (v.units places) places
    pointText v.negative whole fraction
  | .infinite negative => infinityText negative
  | .undefined => "nan"

/-- The double `x` rounded to `places` decimals, as the double nearest to the rounded value. -/
def roundPlaces (x : Float) (places : Nat) : Float :=
  match exact x with
  | .finite v => nearest v.negative (v.units places) (Nat.pow 10 places)
  | _ => x

end CopperRoute.Number
