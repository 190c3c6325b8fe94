import CopperRoute.Proofs.Number.Rounding

/-!
# The nearest code

    n d ──nearestCode──▶ c        IsNearestCode (n / d) c

The codes of the doubles count up through mantissa and exponent alike. `codeSize` is the number that
a code stands for, and it grows with the code (`codeSize_strictMono`). `IsNearestCode` says what it
means to round a number to a code without computing one: no code is nearer, and where two are
equally near it is the even one. There is one such code at most (`IsNearestCode.unique`).

`nearestCode` rounds on one grid only, the one on which the number fills the bits of a mantissa. The
codes of a finer grid all lie below those mantissas, and those of a coarser one are on this grid as
well (`codeSize_cases`), so nothing nearer is missed (`codeSize_nearest`). Main statement:
`isNearestCode_nearestCode`.
-/

namespace CopperRoute.Number

/-! ## The sizes of codes -/

/-- The size that the code `c` of an absolute value stands for. The codes go on past that of
infinity, as if there were no greatest exponent, so that infinity counts as `2 ^ 1024`. -/
def codeSize (c : Nat) : ℚ :=
  let scale := c / 2 ^ 52 - 1
  (c - scale * 2 ^ 52 : Nat) * 2 ^ ((scale : Int) - 1074)

/-- Every code is a mantissa, which fills its bits unless the exponent is the least one. -/
theorem exists_mantissa (c : Nat) :
    ∃ k m, c = k * 2 ^ 52 + m ∧ m < 2 ^ 53 ∧ (k = 0 ∨ 2 ^ 52 ≤ m) :=
  ⟨c / 2 ^ 52 - 1, c - (c / 2 ^ 52 - 1) * 2 ^ 52, by omega, by omega, by omega⟩

/-- A mantissa that is one past its last bit carries into the exponent. -/
theorem codeSize_add {k m : Nat} (hm : m ≤ 2 ^ 53) (hk : k = 0 ∨ 2 ^ 52 ≤ m) :
    codeSize (k * 2 ^ 52 + m) = m * 2 ^ ((k : Int) - 1074) := by
  unfold codeSize
  dsimp only
  rcases Nat.lt_or_eq_of_le hm with hlt | rfl
  · have hscale : (k * 2 ^ 52 + m) / 2 ^ 52 - 1 = k := by omega
    rw [hscale, Nat.add_sub_cancel_left]
  · have hscale : (k * 2 ^ 52 + 2 ^ 53) / 2 ^ 52 - 1 = k + 1 := by omega
    have hrest : k * 2 ^ 52 + 2 ^ 53 - (k + 1) * 2 ^ 52 = 2 ^ 52 := by omega
    rw [hscale, hrest, Nat.cast_add_one, add_sub_right_comm, zpow_add_one₀ two_ne_zero]
    push_cast
    ring

theorem codeSize_lt_succ (c : Nat) : codeSize c < codeSize (c + 1) := by
  obtain ⟨k, m, rfl, hm, hk⟩ := exists_mantissa c
  rw [Nat.add_assoc, codeSize_add hm.le hk, codeSize_add (by omega) (by omega)]
  gcongr
  exact Nat.lt_succ_self m

theorem codeSize_strictMono : StrictMono codeSize := strictMono_nat_of_lt_succ codeSize_lt_succ

@[simp] theorem codeSize_zero : codeSize 0 = 0 := by simp [codeSize]

theorem codeSize_infinityCode : codeSize infinityCode = 2 ^ 1024 := by
  show codeSize (2046 * 2 ^ 52 + 2 ^ 52) = _
  rw [codeSize_add (by norm_num) (by norm_num),
    show ((2046 : Nat) : Int) - 1074 = (972 : Nat) by norm_num, zpow_natCast, Nat.cast_pow,
    Nat.cast_ofNat, ← pow_add]

/-! ## The nearest code -/

/-- `c` is the code that `q` is rounded to: no other one up to that of infinity is nearer, and where
another is as near, `c` is even. -/
structure IsNearestCode (q : ℚ) (c : Nat) : Prop where
  le : c ≤ infinityCode
  nearest : ∀ other ≤ infinityCode, |codeSize c - q| ≤ |codeSize other - q|
  even : ∀ other ≤ infinityCode, other ≠ c → |codeSize other - q| = |codeSize c - q| → Even c

/-- What lies between two numbers is nearer than the one that is farther. -/
theorem abs_lt_max_abs {a b c : ℚ} (hab : a < b) (hbc : b < c) : |b| < max |a| |c| := by
  rcases le_total 0 b with hb | hb
  · rw [abs_of_nonneg hb]
    exact lt_max_of_lt_right (hbc.trans_le (le_abs_self c))
  · rw [abs_of_nonpos hb]
    exact lt_max_of_lt_left ((neg_lt_neg hab).trans_le (neg_le_abs a))

/-- Of two nearest codes both would be even, and the code after the lower one would be nearer. -/
theorem IsNearestCode.unique {q : ℚ} {c c' : Nat} (h : IsNearestCode q c)
    (h' : IsNearestCode q c') : c = c' := by
  have hnone : ∀ {a b : Nat}, IsNearestCode q a → IsNearestCode q b → ¬a < b := by
    intro a b ha hb hlt
    have htie := le_antisymm (ha.nearest b hb.le) (hb.nearest a ha.le)
    obtain ⟨i, rfl⟩ := ha.even b hb.le hlt.ne' htie.symm
    obtain ⟨j, rfl⟩ := hb.even _ ha.le hlt.ne htie
    have hlow := codeSize_lt_succ (i + i)
    have hhigh := codeSize_strictMono (show i + i + 1 < j + j by omega)
    have hnear := ha.nearest (i + i + 1) (by have := hb.le; omega)
    have hbetween := abs_lt_max_abs (sub_lt_sub_right hlow q) (sub_lt_sub_right hhigh q)
    rw [← htie, max_self] at hbetween
    exact absurd hbetween (not_lt.2 hnear)
  rcases Nat.lt_trichotomy c c' with hlt | heq | hlt
  · exact (hnone h h' hlt).elim
  · exact heq
  · exact (hnone h' h hlt).elim

/-- The code of a finer grid lies below the mantissas of this one, and the code of any other grid is
a multiple of this one's unit. -/
theorem codeSize_cases (k c : Nat) :
    k ≠ 0 ∧ codeSize c < 2 ^ 52 * 2 ^ ((k : Int) - 1074) ∨
      ∃ j : Int, codeSize c = j * 2 ^ ((k : Int) - 1074) := by
  obtain ⟨k', m, rfl, hm, hk'⟩ := exists_mantissa c
  by_cases hfine : k' < k
  · refine .inl ⟨by omega, ?_⟩
    have hstart : codeSize (k * 2 ^ 52 + 2 ^ 52) = 2 ^ 52 * 2 ^ ((k : Int) - 1074) := by
      rw [codeSize_add (by norm_num) (.inr le_rfl), Nat.cast_pow, Nat.cast_ofNat]
    rw [← hstart]
    exact codeSize_strictMono (by omega)
  · obtain ⟨i, rfl⟩ := Nat.exists_eq_add_of_le (Nat.le_of_not_lt hfine)
    refine .inr ⟨m * 2 ^ i, ?_⟩
    rw [codeSize_add hm.le hk', Nat.cast_add, add_sub_right_comm, zpow_add₀ two_ne_zero,
      zpow_natCast]
    push_cast
    ring

/-- Where a number is rounded on the grid on which it fills the bits of a mantissa, no code is
nearer. -/
theorem codeSize_nearest {q : ℚ} {k m : Nat} (hround : RoundsToEven (q / 2 ^ ((k : Int) - 1074)) m)
    (hlt : q < 2 ^ 53 * 2 ^ ((k : Int) - 1074)) (hge : k = 0 ∨ 2 ^ 52 * 2 ^ ((k : Int) - 1074) ≤ q)
    (other : Nat) :
    |codeSize (k * 2 ^ 52 + m) - q| ≤ |codeSize other - q| ∧
      (other ≠ k * 2 ^ 52 + m → |codeSize other - q| = |codeSize (k * 2 ^ 52 + m) - q| →
        Even (k * 2 ^ 52 + m)) := by
  have hunit : (0 : ℚ) < 2 ^ ((k : Int) - 1074) := by positivity
  have hm : m ≤ 2 ^ 53 := by
    have hle : q / 2 ^ ((k : Int) - 1074) ≤ ((2 ^ 53 : Int) : ℚ) := by
      rw [div_le_iff₀ hunit]
      exact_mod_cast hlt.le
    exact_mod_cast hround.mono (roundsToEven_cast _) hle
  have hk : k = 0 ∨ 2 ^ 52 ≤ m := by
    refine hge.imp_right fun hge => ?_
    have hle : ((2 ^ 52 : Int) : ℚ) ≤ q / 2 ^ ((k : Int) - 1074) := by
      rw [le_div_iff₀ hunit]
      exact_mod_cast hge
    exact_mod_cast (roundsToEven_cast _).mono hround hle
  -- distances from `q` are those on the grid, in units of the grid
  have hdist (j : Int) : |j * 2 ^ ((k : Int) - 1074) - q| =
      |(j : ℚ) - q / 2 ^ ((k : Int) - 1074)| * 2 ^ ((k : Int) - 1074) := by
    rw [← abs_of_pos hunit, ← abs_mul, abs_of_pos hunit, sub_mul, div_mul_cancel₀ _ hunit.ne']
  have hsize : codeSize (k * 2 ^ 52 + m) = (m : Int) * 2 ^ ((k : Int) - 1074) := codeSize_add hm hk
  rcases codeSize_cases k other with ⟨hk0, hlow⟩ | ⟨j, hj⟩
  · have hge : 2 ^ 52 * 2 ^ ((k : Int) - 1074) ≤ q := hge.resolve_left hk0
    have hstrict : |codeSize (k * 2 ^ 52 + m) - q| < |codeSize other - q| := calc
      |codeSize (k * 2 ^ 52 + m) - q|
      _ ≤ |((2 ^ 52 : Int) : ℚ) * 2 ^ ((k : Int) - 1074) - q| := by
        rw [hsize, hdist, hdist]
        exact mul_le_mul_of_nonneg_right (hround.nearest _) hunit.le
      _ = q - 2 ^ 52 * 2 ^ ((k : Int) - 1074) := by
        rw [Int.cast_pow, Int.cast_ofNat, abs_sub_comm, abs_of_nonneg (by linarith)]
      _ < |codeSize other - q| := by
        rw [abs_sub_comm, abs_of_nonneg (by linarith)]
        linarith
    exact ⟨hstrict.le, fun _ htie => absurd htie hstrict.ne'⟩
  · rw [hsize, hj, hdist, hdist]
    refine ⟨mul_le_mul_of_nonneg_right (hround.nearest j) hunit.le, fun hne htie => ?_⟩
    have hjm : j ≠ m := by
      rintro rfl
      exact hne (codeSize_strictMono.injective (hj.trans hsize.symm))
    have heven : Even m := by
      exact_mod_cast hround.even j hjm (mul_right_cancel₀ hunit.ne' htie)
    exact (Even.mul_left (by decide) k).add heven

/-- The logarithms leave a quotient between two powers of two, and a comparison tells on which side
of the middle one it lies. -/
theorem quotient_bounds {n d : Nat} (hn : n ≠ 0) (hd : d ≠ 0) :
    let size : Int := n.log2 - d.log2
    let below := n * Nat.pow 2 (-size).toNat < d * Nat.pow 2 size.toNat
    let top := if below then size - 53 else size - 52
    2 ^ 52 * 2 ^ top ≤ (n / d : ℚ) ∧ (n / d : ℚ) < 2 ^ 53 * 2 ^ top := by
  intro size below top
  have hd' : (0 : ℚ) < d := by exact_mod_cast Nat.pos_of_ne_zero hd
  have hnlow : (2 : ℚ) ^ n.log2 ≤ n := by exact_mod_cast Nat.log2_self_le hn
  have hnhigh : (n : ℚ) < 2 ^ (n.log2 + 1) := by exact_mod_cast Nat.lt_log2_self
  have hdlow : (2 : ℚ) ^ d.log2 ≤ d := by exact_mod_cast Nat.log2_self_le hd
  have hdhigh : (d : ℚ) < 2 ^ (d.log2 + 1) := by exact_mod_cast Nat.lt_log2_self
  have hlow : 2 ^ (size - 1) ≤ (n / d : ℚ) := by
    rw [le_div_iff₀ hd']
    calc (2 : ℚ) ^ (size - 1) * d
      _ ≤ 2 ^ (size - 1) * 2 ^ (d.log2 + 1) := by gcongr
      _ = 2 ^ n.log2 := by
        rw [← zpow_natCast, ← zpow_natCast, ← zpow_add₀ two_ne_zero]
        congr 1
        push_cast
        omega
      _ ≤ n := hnlow
  have hhigh : (n / d : ℚ) < 2 ^ (size + 1) := by
    rw [div_lt_iff₀ hd']
    calc (n : ℚ)
      _ < 2 ^ (n.log2 + 1) := hnhigh
      _ = 2 ^ (size + 1) * 2 ^ d.log2 := by
        rw [← zpow_natCast, ← zpow_natCast, ← zpow_add₀ two_ne_zero]
        congr 1
        push_cast
        omega
      _ ≤ 2 ^ (size + 1) * d := by gcongr
  have hbelow : below ↔ (n / d : ℚ) < 2 ^ size := by
    have hunit : (0 : ℚ) < (2 : Nat) ^ size := by positivity
    have hden : (0 : ℚ) < (d * Nat.pow 2 size.toNat : Nat) := by
      exact_mod_cast Nat.mul_pos (Nat.pos_of_ne_zero hd) (Nat.pow_pos two_pos)
    show n * Nat.pow 2 (-size).toNat < d * Nat.pow 2 size.toNat ↔ _
    rw [← Nat.cast_lt (α := ℚ), ← div_lt_one hden, scaled_div two_ne_zero, div_lt_one hunit,
      Nat.cast_ofNat]
  have hpow (i : Nat) (e : Int) : (2 : ℚ) ^ i * 2 ^ e = 2 ^ (i + e) := by
    rw [← zpow_natCast, ← zpow_add₀ two_ne_zero]
  rw [hpow, hpow]
  by_cases h : below
  · have htop : top = size - 53 := if_pos h
    rw [htop, show ((52 : Nat) : Int) + (size - 53) = size - 1 by omega,
      show ((53 : Nat) : Int) + (size - 53) = size by omega]
    exact ⟨hlow, hbelow.1 h⟩
  · have htop : top = size - 52 := if_neg h
    rw [htop, show ((52 : Nat) : Int) + (size - 52) = size by omega,
      show ((53 : Nat) : Int) + (size - 52) = size + 1 by omega]
    exact ⟨le_of_not_gt fun hlt => h (hbelow.2 hlt), hhigh⟩

/-- A code past that of infinity is cut to it. -/
theorem isNearestCode_min {q : ℚ} {c : Nat}
    (h : ∀ other, |codeSize c - q| ≤ |codeSize other - q| ∧
      (other ≠ c → |codeSize other - q| = |codeSize c - q| → Even c)) :
    IsNearestCode q (min infinityCode c) := by
  rcases Nat.le_total c infinityCode with hle | hle
  · rw [Nat.min_eq_right hle]
    exact ⟨hle, fun other _ => (h other).1, fun other _ => (h other).2⟩
  · rw [Nat.min_eq_left hle]
    refine ⟨le_rfl, fun other hother => ?_, fun _ _ _ _ => by decide⟩
    have hlow := sub_le_sub_right (codeSize_strictMono.monotone hother) q
    have hhigh := sub_le_sub_right (codeSize_strictMono.monotone hle) q
    exact (abs_le_max_abs_abs hlow hhigh).trans_eq (max_eq_left (h other).1)

/-- A quotient is rounded to the nearest code. -/
theorem isNearestCode_nearestCode (n : Nat) {d : Nat} (hd : 0 < d) :
    IsNearestCode (n / d) (nearestCode n d) := by
  unfold nearestCode
  dsimp only
  split
  · next hn =>
    refine ⟨Nat.zero_le _, fun other _ => ?_, fun _ _ _ _ => Even.zero⟩
    simp [hn]
  · next hn =>
    obtain ⟨hlow, hhigh⟩ := quotient_bounds hn hd.ne'
    generalize (if n * Nat.pow 2 (-((n.log2 : Int) - d.log2)).toNat <
      d * Nat.pow 2 ((n.log2 : Int) - d.log2).toNat then (n.log2 : Int) - d.log2 - 53
      else (n.log2 : Int) - d.log2 - 52) = top at hlow hhigh ⊢
    have hexponent : max (-1074) top = (((max (-1074) top + 1074).toNat : Nat) : Int) - 1074 := by
      omega
    have hround := roundsToEven_divHalfEven (n * Nat.pow 2 (-max (-1074) top).toNat)
      (d := d * Nat.pow 2 (max (-1074) top).toNat) (Nat.mul_pos hd (Nat.pow_pos two_pos))
    rw [scaled_div two_ne_zero, Nat.cast_ofNat] at hround
    generalize hk : (max (-1074) top + 1074).toNat = k at hexponent ⊢
    rw [hexponent] at hround ⊢
    apply isNearestCode_min
    refine codeSize_nearest hround (hhigh.trans_le ?_) ?_
    · gcongr
      · norm_num
      · omega
    · by_cases hk0 : k = 0
      · exact .inl hk0
      · have htop : top = k - 1074 := by omega
        exact .inr (htop ▸ hlow)

end CopperRoute.Number
