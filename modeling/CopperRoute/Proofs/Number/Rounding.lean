import Mathlib
import CopperRoute.Number.Double

/-!
# Rounding to whole numbers

    n d ──divHalfEven──▶ m        RoundsToEven (n / d) m

What it means to round a fraction to a whole number, said without computing: no whole number is
nearer, and where two are equally near it is the even one. Such a number is unique, and rounding is
monotone (`RoundsToEven.mono`). Main statement: `roundsToEven_divHalfEven`.

The fractions that are rounded have powers of two or of ten in their numerators and denominators,
one of the two always being one; `natPow_toNat_div` and `scaled_div` read them as powers with a
sign.
-/

namespace CopperRoute.Number

/-! ## Fractions -/

def Dyadic.size (v : Dyadic) : ℚ := v.mantissa * 2 ^ v.exponent

variable {b : Nat}

theorem natPow_toNat_div (hb : b ≠ 0) (e : Int) :
    ((Nat.pow b e.toNat : Nat) : ℚ) / (Nat.pow b (-e).toNat : Nat) = (b : ℚ) ^ e := by
  have hb' : (b : ℚ) ≠ 0 := by exact_mod_cast hb
  show (((b ^ e.toNat : Nat) : ℚ) / ((b ^ (-e).toNat : Nat) : ℚ)) = _
  rw [Nat.cast_pow, Nat.cast_pow, ← zpow_natCast, ← zpow_natCast, ← zpow_sub₀ hb']
  congr 1
  omega

/-- A quotient in units of a power. -/
theorem scaled_div (hb : b ≠ 0) (n d : Nat) (e : Int) :
    ((n * Nat.pow b (-e).toNat : Nat) : ℚ) / (d * Nat.pow b e.toNat : Nat) = n / d / b ^ e := by
  rw [Nat.cast_mul, Nat.cast_mul, mul_div_mul_comm, ← natPow_toNat_div hb e, div_div_eq_mul_div,
    mul_div_assoc]

theorem Dyadic.den_pos (v : Dyadic) : 0 < v.den := Nat.pow_pos two_pos

theorem Dyadic.num_div_den (v : Dyadic) : (v.num : ℚ) / v.den = v.size := by
  rw [Dyadic.num, Dyadic.den, Dyadic.size, Nat.cast_mul, mul_div_assoc,
    natPow_toNat_div two_ne_zero, Nat.cast_ofNat]

theorem Dyadic.size_nonneg (v : Dyadic) : 0 ≤ v.size := by
  unfold Dyadic.size
  positivity

/-! ## The relation -/

/-- `m` is the whole number that `t` is rounded to: none is nearer, and where another one is as
near, `m` is even. -/
structure RoundsToEven (t : ℚ) (m : Int) : Prop where
  nearest : ∀ k : Int, |m - t| ≤ |k - t|
  even : ∀ k : Int, k ≠ m → |k - t| = |m - t| → Even m

variable {t t' : ℚ} {m m' : Int}

/-- Two whole numbers are at least one apart. -/
theorem one_le_abs_sub {k m : Int} (h : k ≠ m) : (1 : ℚ) ≤ |(k : ℚ) - m| := by
  have hne : k - m ≠ 0 := sub_ne_zero.2 h
  exact_mod_cast Int.one_le_abs hne

/-- Rounding stays within half a unit, and only an even number is half a unit away. -/
theorem roundsToEven_iff :
    RoundsToEven t m ↔ |m - t| ≤ 1 / 2 ∧ (|m - t| = 1 / 2 → Even m) := by
  constructor
  · intro h
    refine ⟨(h.nearest (round t)).trans ?_, fun htie => ?_⟩
    · rw [abs_sub_comm]
      exact abs_sub_round t
    · -- the number on the other side of `t` is as near
      rcases (abs_eq (by norm_num)).1 htie with hm | hm
      · refine h.even (m - 1) (by omega) ?_
        rw [htie, show ((m - 1 : Int) : ℚ) - t = -(1 / 2) by push_cast; linarith, abs_neg]
        norm_num
      · refine h.even (m + 1) (by omega) ?_
        rw [htie, show ((m + 1 : Int) : ℚ) - t = 1 / 2 by push_cast; linarith]
        norm_num
  · rintro ⟨hhalf, heven⟩
    have hfar : ∀ k : Int, k ≠ m → 1 - |(m : ℚ) - t| ≤ |(k : ℚ) - t| := by
      intro k hk
      have hone := one_le_abs_sub hk
      have htriangle := abs_sub_le (k : ℚ) t m
      rw [abs_sub_comm t] at htriangle
      linarith
    refine ⟨fun k => ?_, fun k hk htie => heven ?_⟩
    · by_cases hk : k = m
      · rw [hk]
      · linarith [hfar k hk]
    · linarith [hfar k hk]

/-- A whole number is rounded to itself. -/
theorem roundsToEven_cast (m : Int) : RoundsToEven m m :=
  roundsToEven_iff.2 ⟨by simp, fun h => by norm_num at h⟩

/-- Rounding is monotone. -/
theorem RoundsToEven.mono (h : RoundsToEven t m) (h' : RoundsToEven t' m') (hle : t ≤ t') :
    m ≤ m' := by
  obtain ⟨hhalf, heven⟩ := roundsToEven_iff.1 h
  obtain ⟨hhalf', heven'⟩ := roundsToEven_iff.1 h'
  have hlow := (abs_le.1 hhalf).2
  have hhigh := (abs_le.1 hhalf').1
  by_contra hlt
  have hgap : (m' : ℚ) + 1 ≤ m := by exact_mod_cast Int.lt_of_not_ge hlt
  -- the two numbers are neighbours, each half a unit away, and one of them is odd
  have hnext : m = m' + 1 := by exact_mod_cast (by linarith : (m : ℚ) = m' + 1)
  obtain ⟨a, ha⟩ := heven (by rw [abs_of_nonneg (by linarith)]; linarith)
  obtain ⟨b, hb⟩ := heven' (by rw [abs_of_nonpos (by linarith)]; linarith)
  omega

theorem RoundsToEven.unique (h : RoundsToEven t m) (h' : RoundsToEven t m') : m = m' :=
  le_antisymm (h.mono h' le_rfl) (h'.mono h le_rfl)

/-- Rounding does not look at the sign. -/
theorem RoundsToEven.neg (h : RoundsToEven t m) : RoundsToEven (-t) (-m) := by
  rw [roundsToEven_iff] at h ⊢
  have hdist : |((-m : Int) : ℚ) - -t| = |(m : ℚ) - t| := by
    rw [Int.cast_neg, ← neg_sub', abs_neg]
  rw [hdist]
  exact ⟨h.1, fun htie => (h.2 htie).neg⟩

/-- A number that is as near to `m` as one that is rounded to `m` is rounded to it as well. -/
theorem RoundsToEven.of_abs_sub_le (h : RoundsToEven t m) (hle : |m - t'| ≤ |m - t|) :
    RoundsToEven t' m := by
  rw [roundsToEven_iff] at h ⊢
  obtain ⟨hhalf, heven⟩ := h
  exact ⟨hle.trans hhalf, fun htie => heven (le_antisymm hhalf (htie ▸ hle))⟩

/-! ## Quotients -/

/-- `divHalfEven` rounds the quotient. -/
theorem roundsToEven_divHalfEven (n : Nat) {d : Nat} (hd : 0 < d) :
    RoundsToEven (n / d) (divHalfEven n d) := by
  have hd' : (0 : ℚ) < d := by exact_mod_cast hd
  have hn : (d : ℚ) * (n / d : Nat) + (n % d : Nat) = n := by exact_mod_cast Nat.div_add_mod n d
  have hr : ((n % d : Nat) : ℚ) < d := by exact_mod_cast Nat.mod_lt n hd
  have hquotient : (n : ℚ) / d = (n / d : Nat) + (n % d : Nat) / d := by
    rw [← hn, add_div, mul_div_cancel_left₀ _ hd'.ne']
  rw [roundsToEven_iff, hquotient]
  unfold divHalfEven
  dsimp only
  generalize n / d = q at *
  generalize n % d = r at *
  have hpart : 0 ≤ (r : ℚ) / d := by positivity
  have hpart1 : (r : ℚ) / d < 1 := (div_lt_one hd').2 hr
  split
  · next h =>
    have hhalf : (r : ℚ) / d ≤ 1 / 2 ∧ ((r : ℚ) / d = 1 / 2 → q % 2 = 0) := by
      rw [div_le_div_iff₀ hd' two_pos, div_eq_div_iff hd'.ne' two_ne_zero]
      rcases h with h | ⟨h, heven⟩
      · have : (2 * r : ℚ) < d := by exact_mod_cast h
        exact ⟨by linarith, fun h => by linarith⟩
      · have : (2 * r : ℚ) = d := by exact_mod_cast h
        exact ⟨by linarith, fun _ => heven⟩
    have hdist : |((q : Int) : ℚ) - (q + r / d)| = r / d := by
      rw [abs_sub_comm, Int.cast_natCast, add_sub_cancel_left, abs_of_nonneg hpart]
    rw [hdist]
    exact ⟨hhalf.1, fun h => (Int.even_coe_nat q).2 (Nat.even_iff.2 (hhalf.2 h))⟩
  · next h =>
    have hhalf : 1 / 2 ≤ (r : ℚ) / d ∧ ((r : ℚ) / d = 1 / 2 → q % 2 = 1) := by
      rw [div_le_div_iff₀ two_pos hd', div_eq_div_iff hd'.ne' two_ne_zero]
      have hle : (d : ℚ) ≤ 2 * r := by exact_mod_cast (by omega : d ≤ 2 * r)
      refine ⟨by linarith, fun htie => ?_⟩
      have : 2 * r = d := by exact_mod_cast (by linarith : (2 * r : ℚ) = d)
      omega
    have hdist : |(((q + 1 : Nat) : Int) : ℚ) - (q + r / d)| = 1 - r / d := by
      rw [Int.cast_natCast, Nat.cast_add, Nat.cast_one, add_sub_add_left_eq_sub,
        abs_of_nonneg (by linarith)]
    rw [hdist]
    refine ⟨by linarith, fun h => (Int.even_coe_nat _).2 (Nat.even_iff.2 ?_)⟩
    have := hhalf.2 (by linarith)
    omega

end CopperRoute.Number
