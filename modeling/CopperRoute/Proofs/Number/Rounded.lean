import CopperRoute.Proofs.Number.Code
import CopperRoute.Proofs.Number.Nearest
import CopperRoute.Proofs.Number.Numeral

/-!
# Correctly rounded doubles

    numeral ──toFloat──▶ x        IsRounded negative size x

`IsRounded` says which double a number with a sign is rounded to: it has the sign, no double is
nearer, and where two are equally near it is the one whose last bit is zero. There is one at most
(`IsRounded.unique`). Numbers past the greatest double are rounded to infinity, which counts as the
power of two behind it; zero, and what is too small for the least double, keep their sign.

Main statements: a numeral becomes the double that it is rounded to (`isRounded_toFloat`), and a
finite double is the one that its own value is rounded to (`isRounded_exact`). `Denotes` puts the
grammar of numerals and rounding together.
-/

namespace CopperRoute.Number

/-! ## Doubles -/

/-- The absolute value of what a double stands for. Infinity counts as the power of two behind the
greatest double, so that a number nearer to that power is rounded to it. -/
def Exact.size? : Exact → Option ℚ
  | .finite v => some v.size
  | .infinite _ => some (2 ^ 1024)
  | .undefined => none

/-- Whether a double has a minus, as zero may have. -/
def Exact.isNegative : Exact → Bool
  | .finite v => v.negative
  | .infinite negative => negative
  | .undefined => false

/-- `x` is the double that `± q` is rounded to: it has the sign, no double is nearer, and where
another one is as near, the last bit of `x` is zero. -/
def IsRounded (negative : Bool) (q : ℚ) (x : Float) : Prop :=
  (exact x).isNegative = negative ∧ ∃ size, (exact x).size? = some size ∧
    ∀ y other, (exact y).size? = some other →
      |size - q| ≤ |other - q| ∧ (other ≠ size → |other - q| = |size - q| → Even x.toBits.toNat)

/-- A double is its bits. -/
theorem eq_of_toBits {x y : Float} (h : x.toBits = y.toBits) : x = y := by
  obtain ⟨⟨b, hb⟩⟩ := x
  obtain ⟨⟨b', hb'⟩⟩ := y
  obtain rfl : b = b' := h
  rfl

/-- The code of the absolute value of a double. -/
def codeOf (x : Float) : Nat := x.toBits.toNat % 2 ^ 63

theorem toNat_toBits_ofCode_of_le (negative : Bool) {c : Nat} (h : c ≤ infinityCode) :
    (ofCode negative c).toBits.toNat = if negative then 2 ^ 63 + c else c := by
  rcases Nat.lt_or_eq_of_le h with hlt | rfl
  · exact toNat_toBits_ofCode negative hlt
  · cases negative <;> decide +kernel

theorem codeOf_ofCode (negative : Bool) {c : Nat} (h : c ≤ infinityCode) :
    codeOf (ofCode negative c) = c := by
  have hlt : c ≤ 2047 * 2 ^ 52 := h
  rw [codeOf, toNat_toBits_ofCode_of_le negative h]
  split <;> omega

/-- The size of a double is that of its code. -/
theorem size?_exact (x : Float) :
    (exact x).size? = if codeOf x ≤ infinityCode then some (codeSize (codeOf x)) else none := by
  have hinfinity : infinityCode = 2047 * 2 ^ 52 := rfl
  unfold exact codeOf
  dsimp only [Nat.pow_eq]
  generalize x.toBits.toNat = n
  by_cases hscale : n / 2 ^ 52 % 2 ^ 11 = 2047
  · rw [if_pos hscale]
    by_cases hfraction : n % 2 ^ 52 = 0
    · have hcode : n % 2 ^ 63 = infinityCode := by omega
      rw [if_pos hfraction, hcode, if_pos le_rfl, codeSize_infinityCode]
      rfl
    · have hcode : ¬n % 2 ^ 63 ≤ infinityCode := by omega
      rw [if_neg hfraction, if_neg hcode]
      rfl
  · have hcode : n % 2 ^ 63 ≤ infinityCode := by omega
    rw [if_neg hscale, if_pos hcode]
    by_cases hzero : n / 2 ^ 52 % 2 ^ 11 = 0
    · have hsplit : n % 2 ^ 63 = 0 * 2 ^ 52 + n % 2 ^ 52 := by omega
      rw [if_pos hzero, hsplit, codeSize_add (by omega) (.inl rfl)]
      rfl
    · have hsplit : n % 2 ^ 63 =
          (n / 2 ^ 52 % 2 ^ 11 - 1) * 2 ^ 52 + (2 ^ 52 + n % 2 ^ 52) := by omega
      rw [if_neg hzero, hsplit, codeSize_add (by omega) (by omega), Nat.cast_sub (by omega),
        sub_sub]
      rfl

theorem isNegative_exact {x : Float} (h : codeOf x ≤ infinityCode) :
    (exact x).isNegative = decide (x.toBits.toNat / 2 ^ 63 = 1) := by
  have hinfinity : infinityCode = 2047 * 2 ^ 52 := rfl
  unfold codeOf at h
  unfold exact
  dsimp only [Nat.pow_eq]
  generalize x.toBits.toNat = n at h ⊢
  by_cases hscale : n / 2 ^ 52 % 2 ^ 11 = 2047
  · have hfraction : n % 2 ^ 52 = 0 := by omega
    rw [if_pos hscale, if_pos hfraction]
    rfl
  · rw [if_neg hscale]
    split <;> rfl

/-- A double that stands for a number or for infinity is made from its sign and its code. -/
theorem ofCode_codeOf {x : Float} (h : codeOf x ≤ infinityCode) :
    ofCode (exact x).isNegative (codeOf x) = x := by
  apply eq_of_toBits
  apply UInt64.toNat_inj.1
  rw [toNat_toBits_ofCode_of_le _ h, isNegative_exact h]
  unfold codeOf
  have := x.toBits.toNat_lt
  simp only [decide_eq_true_eq]
  split <;> omega

theorem isNegative_ofCode (negative : Bool) {c : Nat} (h : c ≤ infinityCode) :
    (exact (ofCode negative c)).isNegative = negative := by
  have hlt : c ≤ 2047 * 2 ^ 52 := h
  rw [isNegative_exact ((codeOf_ofCode negative h).trans_le h),
    toNat_toBits_ofCode_of_le negative h]
  cases negative <;> simp <;> omega

theorem size?_ofCode (negative : Bool) {c : Nat} (h : c ≤ infinityCode) :
    (exact (ofCode negative c)).size? = some (codeSize c) := by
  rw [size?_exact, codeOf_ofCode negative h, if_pos h]

/-- Doubles are rounded to as codes are. -/
theorem isRounded_iff {negative : Bool} {q : ℚ} {x : Float} :
    IsRounded negative q x ↔ ∃ c, IsNearestCode q c ∧ x = ofCode negative c := by
  constructor
  · rintro ⟨hsign, size, hsize, hnear⟩
    rw [size?_exact] at hsize
    split at hsize
    · next hcode =>
      obtain rfl := Option.some.inj hsize
      refine ⟨codeOf x, ⟨hcode, fun other hother => ?_, fun other hother hne htie => ?_⟩, ?_⟩
      · exact (hnear _ _ (size?_ofCode false hother)).1
      · have heven := (hnear _ _ (size?_ofCode false hother)).2
          (fun h => hne (codeSize_strictMono.injective h)) htie
        rw [Nat.even_iff] at heven ⊢
        unfold codeOf
        omega
      · rw [← hsign, ofCode_codeOf hcode]
    · cases hsize
  · rintro ⟨c, hc, rfl⟩
    refine ⟨isNegative_ofCode negative hc.le, codeSize c, size?_ofCode negative hc.le,
      fun y other hother => ?_⟩
    rw [size?_exact] at hother
    split at hother
    · next hcode =>
      obtain rfl := Option.some.inj hother
      refine ⟨hc.nearest _ hcode, fun hne htie => ?_⟩
      have heven := hc.even _ hcode (fun h => hne (congrArg codeSize h)) htie
      rw [toNat_toBits_ofCode_of_le negative hc.le]
      split
      · exact (by decide : Even (2 ^ 63)).add heven
      · exact heven
    · cases hother

theorem IsRounded.unique {negative : Bool} {q : ℚ} {x y : Float} (hx : IsRounded negative q x)
    (hy : IsRounded negative q y) : x = y := by
  obtain ⟨c, hc, rfl⟩ := isRounded_iff.1 hx
  obtain ⟨c', hc', rfl⟩ := isRounded_iff.1 hy
  rw [hc.unique hc']

/-! ## Decimals -/

theorem lt_pow_digitCount (n : Nat) : n < 10 ^ digitCount n :=
  (Nat.length_toDigits_le_iff (by decide) Nat.length_toDigits_pos).1 le_rfl

theorem pow_digitCount_le {n : Nat} (hn : n ≠ 0) : 10 ^ (digitCount n - 1) ≤ n := by
  by_contra hlt
  by_cases hone : digitCount n = 1
  · rw [hone] at hlt
    omega
  · have hpos : 0 < digitCount n := Nat.length_toDigits_pos
    have hle : digitCount n ≤ digitCount n - 1 :=
      (Nat.length_toDigits_le_iff (by decide) (by omega)).2 (Nat.lt_of_not_ge hlt)
    omega

/-- What is below half the least double is rounded to zero. -/
theorem isNearestCode_zero {q : ℚ} (h0 : 0 ≤ q) (h : q < 2 ^ (-1075 : Int)) :
    IsNearestCode q 0 := by
  refine ⟨Nat.zero_le _, fun other _ => ?_, fun _ _ _ _ => Even.zero⟩
  rw [codeSize_zero, zero_sub, abs_neg, abs_of_nonneg h0]
  rcases Nat.eq_zero_or_pos other with rfl | hpos
  · rw [codeSize_zero, zero_sub, abs_neg, abs_of_nonneg h0]
  · have hone : codeSize 1 = 2 * 2 ^ (-1075 : Int) := by
      show codeSize (0 * 2 ^ 52 + 1) = _
      rw [codeSize_add (by norm_num) (.inl rfl), ← zpow_one_add₀ two_ne_zero]
      norm_num
    have hle := codeSize_strictMono.monotone (show 1 ≤ other from hpos)
    rw [abs_of_nonneg (by linarith)]
    linarith

/-- What is past the greatest double and the power of two behind it is rounded to infinity. -/
theorem isNearestCode_infinityCode {q : ℚ} (h : 2 ^ 1024 ≤ q) : IsNearestCode q infinityCode := by
  refine ⟨le_rfl, fun other hother => ?_, fun _ _ _ _ => by decide⟩
  have hle := codeSize_strictMono.monotone hother
  rw [← codeSize_infinityCode] at h
  rw [abs_of_nonpos (by linarith), abs_of_nonpos (by linarith)]
  linarith

/-- The quotient that stands for a decimal is rounded to the nearest code. -/
theorem isNearestCode_decimal (digits : Nat) (exponent : Int) :
    IsNearestCode (digits * 10 ^ exponent)
      (nearestCode (digits * Nat.pow 10 exponent.toNat) (Nat.pow 10 (-exponent).toNat)) := by
  have hnear := isNearestCode_nearestCode (digits * Nat.pow 10 exponent.toNat)
    (d := Nat.pow 10 (-exponent).toNat) (Nat.pow_pos (by decide))
  rwa [Nat.cast_mul, mul_div_assoc, natPow_toNat_div (by decide), Nat.cast_ofNat] at hnear

/-- A decimal becomes the double that it is rounded to. What is decided by the place of the leading
digit is decided as the rounding would decide it. -/
theorem isRounded_ofDecimal (negative : Bool) (digits : Nat) (exponent : Int) :
    IsRounded negative (digits * 10 ^ exponent) (ofDecimal negative digits exponent) := by
  have hpow (i : Nat) : (10 : ℚ) ^ i * 10 ^ exponent = 10 ^ (i + exponent) := by
    rw [← zpow_natCast, ← zpow_add₀ (by norm_num)]
  rw [isRounded_iff]
  unfold ofDecimal
  dsimp only
  split
  · next htop =>
    refine ⟨0, isNearestCode_zero (by positivity) ?_, rfl⟩
    rcases htop with rfl | htop
    · rw [Nat.cast_zero, zero_mul]
      positivity
    · have hdigits : (digits : ℚ) < 10 ^ digitCount digits := by
        exact_mod_cast lt_pow_digitCount digits
      calc (digits : ℚ) * 10 ^ exponent
        _ < 10 ^ digitCount digits * 10 ^ exponent := by gcongr
        _ = 10 ^ (digitCount digits + exponent) := hpow _
        _ ≤ 10 ^ (-330 : Int) := zpow_le_zpow_right₀ (by norm_num) htop.le
        _ ≤ 2 ^ (-1075 : Int) := by
          have hle : 2 ^ 1075 ≤ 10 ^ 330 := by decide +kernel
          rw [zpow_neg, zpow_neg]
          exact inv_anti₀ (by positivity) (by exact_mod_cast hle)
  · next hlow =>
    obtain ⟨hdigits, -⟩ := not_or.1 hlow
    split
    · next htop =>
      refine ⟨infinityCode, isNearestCode_infinityCode ?_, rfl⟩
      have hpos : 0 < digitCount digits := Nat.length_toDigits_pos
      have hdigits : (10 : ℚ) ^ (digitCount digits - 1) ≤ digits := by
        exact_mod_cast pow_digitCount_le hdigits
      have hle : 2 ^ 1024 ≤ 10 ^ 310 := by decide +kernel
      calc (2 : ℚ) ^ 1024
        _ ≤ 10 ^ (310 : Int) := by exact_mod_cast hle
        _ ≤ 10 ^ ((digitCount digits - 1 : Nat) + exponent) :=
          zpow_le_zpow_right₀ (by norm_num) (by omega)
        _ = 10 ^ (digitCount digits - 1) * 10 ^ exponent := (hpow _).symm
        _ ≤ digits * 10 ^ exponent := by gcongr
    · exact ⟨_, isNearestCode_decimal digits exponent, rfl⟩

def Numeral.size (n : Numeral) : ℚ := n.digits * 10 ^ n.exponent

/-- A numeral becomes the double that it is rounded to. -/
theorem isRounded_toFloat (n : Numeral) : IsRounded n.negative n.size n.toFloat :=
  isRounded_ofDecimal n.negative n.digits n.exponent

theorem isRounded_iff_toFloat {n : Numeral} {x : Float} :
    IsRounded n.negative n.size x ↔ n.toFloat = x := by
  refine ⟨(isRounded_toFloat n).unique, ?_⟩
  rintro rfl
  exact isRounded_toFloat n

/-- `cs` is a numeral with a sign of the given kind, and `x` is the double that it is rounded to. -/
def Denotes (Lead : List Char → Bool → Prop) (cs : List Char) (x : Float) : Prop :=
  ∃ n, Writes Lead cs n ∧ IsRounded n.negative n.size x

theorem Denotes.isSign {cs : List Char} {x : Float} (h : Denotes IsMinus cs x) :
    Denotes IsSign cs x := by
  obtain ⟨n, hn, hx⟩ := h
  exact ⟨n, hn.isSign, hx⟩

theorem denotes_iff {cs : List Char} {x : Float} :
    Denotes IsSign cs x ↔ ∃ n, Numeral.ofChars? cs = some n ∧ n.toFloat = x := by
  simp only [Denotes, ofChars?_eq_some_iff, isRounded_iff_toFloat]

/-! ## Finite doubles -/

theorem exists_exact_of_isFinite {x : Float} (h : isFinite x = true) :
    ∃ v, exact x = .finite v := by
  unfold isFinite at h
  split at h
  · next v hv => exact ⟨v, hv⟩
  · cases h

/-- A finite double is the one that its value is rounded to. -/
theorem isRounded_exact {x : Float} {v : Dyadic} (h : exact x = .finite v) :
    IsRounded v.negative v.size x := by
  refine ⟨by rw [h]; rfl, v.size, by rw [h]; rfl, fun y other _ => ?_⟩
  rw [sub_self, abs_zero]
  exact ⟨abs_nonneg _, fun hne htie => absurd (sub_eq_zero.1 (abs_eq_zero.1 htie)) hne⟩

variable {x y : Float} {v : Dyadic} {negative : Bool} {q : ℚ}

/-- The code of a finite double is below that of infinity. -/
theorem exists_code_of_exact (h : exact x = .finite v) :
    ∃ c < infinityCode, v.size = codeSize c := by
  have hsize := size?_exact x
  rw [h] at hsize
  split at hsize
  · next hle =>
    refine ⟨codeOf x, lt_of_le_of_ne hle fun hcode => ?_, Option.some.inj hsize⟩
    have hinfinite : ∀ negative, exact (ofCode negative infinityCode) = .infinite negative := by
      decide +kernel
    have hexact := hinfinite (exact x).isNegative
    rw [← hcode, ofCode_codeOf hle, h] at hexact
    cases hexact
  · cases hsize

/-- The greatest double is farther than one from the power of two behind it. -/
theorem Dyadic.size_add_one_lt (h : exact x = .finite v) : v.size + 1 < 2 ^ 1024 := by
  obtain ⟨c, hc, hsize⟩ := exists_code_of_exact h
  have hlast : c ≤ 2045 * 2 ^ 52 + (2 ^ 53 - 1) := Nat.le_of_lt_succ hc
  have hle := codeSize_strictMono.monotone hlast
  rw [codeSize_add (by norm_num) (by norm_num), ← hsize,
    show ((2045 : Nat) : Int) - 1074 = (971 : Nat) by norm_num, zpow_natCast,
    Nat.cast_sub (by norm_num), Nat.cast_pow, Nat.cast_ofNat, Nat.cast_one, sub_one_mul,
    ← pow_add] at hle
  change v.size ≤ 2 ^ 1024 - 2 ^ 971 at hle
  have hone : (1 : ℚ) < 2 ^ 971 := one_lt_pow₀ one_lt_two (by norm_num)
  -- the powers are only compared, and need not be computed
  generalize (2 : ℚ) ^ 971 = unit at hle hone
  generalize (2 : ℚ) ^ 1024 = limit at hle ⊢
  linarith

/-- What is within a half of a finite double is not rounded to infinity, but to a double that is at
least as near. -/
theorem IsRounded.exists_finite (hy : IsRounded negative q y) (hx : exact x = .finite v)
    (hnear : |v.size - q| ≤ 1 / 2) :
    ∃ w, exact y = .finite w ∧ w.negative = negative ∧ |w.size - q| ≤ |v.size - q| := by
  obtain ⟨hsign, size, hsize, hnearest⟩ := hy
  obtain ⟨hle, -⟩ := hnearest x v.size (by rw [hx]; rfl)
  cases hexact : exact y with
  | finite w =>
    rw [hexact] at hsign hsize
    obtain rfl := Option.some.inj hsize
    exact ⟨w, rfl, hsign, hle⟩
  | infinite negative =>
    rw [hexact] at hsize
    have hlimit := Dyadic.size_add_one_lt hx
    rw [Option.some.inj hsize] at hlimit
    have hhigh := (abs_le.1 (hle.trans hnear)).2
    have hlow := (abs_le.1 hnear).1
    linarith
  | undefined =>
    rw [hexact] at hsize
    cases hsize

end CopperRoute.Number
