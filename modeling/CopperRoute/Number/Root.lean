import CopperRoute.Number.Double

/-!
# Square roots

The whole square root of a natural number, and the length of the hypotenuse of two doubles. The
latter is exact up to one rounding: the sum of the squares is taken as a fraction, its root to 64
more binary places than it needs, and a last odd unit stands for whatever the root cuts off.

`root_le` and `lt_root_succ` place the square of the root.
-/

namespace CopperRoute.Number

/-- The greatest whole number whose square is at most `n`. -/
def root (n : Nat) : Nat :=
  if n = 0 then 0
  else
    let r := 2 * root (n / 4)
    if (r + 1) * (r + 1) ≤ n then r + 1 else r
termination_by n

/-- The square root of `n / d²` as a fraction with the denominator `2 ^ 65 * d`. -/
def rootUnits (n : Nat) : Nat :=
  let scaled := n * Nat.pow 2 128
  let r := root scaled
  -- a root that is cut off is odd, so it is never taken for a tie
  if r * r = scaled then 2 * r else 2 * r + 1

/-- The length of the hypotenuse over two finite legs. -/
def Dyadic.hypotenuse (a b : Dyadic) : Float :=
  -- both legs in units of the finer of the two
  let exponent := min a.exponent b.exponent
  let legA := a.mantissa * Nat.pow 2 (a.exponent - exponent).toNat
  let legB := b.mantissa * Nat.pow 2 (b.exponent - exponent).toNat
  let units := rootUnits (legA * legA + legB * legB)
  nearest false (units * Nat.pow 2 exponent.toNat) (Nat.pow 2 65 * Nat.pow 2 (-exponent).toNat)

/-- The length of the hypotenuse over the legs `x` and `y`. An infinite leg makes it infinite, even
beside a leg that is no number. -/
def hypotenuse (x y : Float) : Float :=
  match exact x, exact y with
  | .infinite _, _ => infinity false
  | _, .infinite _ => infinity false
  | .finite a, .finite b => a.hypotenuse b
  | _, _ => undefined

/-! ### Laws -/

theorem root_le_and_lt (n : Nat) : root n * root n ≤ n ∧ n < (root n + 1) * (root n + 1) := by
  induction n using Nat.strongRecOn with
  | _ n ih =>
    rw [root]
    by_cases hn : n = 0
    · simp [hn]
    · obtain ⟨lo, hi⟩ := ih (n / 4) (by omega)
      simp only [hn, if_false]
      generalize root (n / 4) = q at lo hi ⊢
      have h4 : 4 * (n / 4) ≤ n := by omega
      have h4' : n < 4 * (n / 4) + 4 := by omega
      generalize n / 4 = m at lo hi h4 h4'
      have h1 : 2 * q * (2 * q) = 4 * (q * q) := by grind
      have h2 : (2 * q + 1 + 1) * (2 * q + 1 + 1) = 4 * ((q + 1) * (q + 1)) := by grind
      split
      · next h => exact ⟨h, by omega⟩
      · next h => exact ⟨by omega, by omega⟩

/-- The square of the root is at most the number. -/
theorem root_le (n : Nat) : root n * root n ≤ n := (root_le_and_lt n).1

/-- The next square is past the number. -/
theorem lt_root_succ (n : Nat) : n < (root n + 1) * (root n + 1) := (root_le_and_lt n).2

end CopperRoute.Number
