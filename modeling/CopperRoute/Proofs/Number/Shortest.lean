import CopperRoute.Number.Shortest
import CopperRoute.Proofs.Number.Digits
import CopperRoute.Proofs.Number.Rounded

/-!
# Shortest decimals read back

    double ──text──▶ characters ──read──▶ the same double

A double is written in the digits of a decimal that is rounded to it: `shortestFrom` takes no other
(`isNearestCode_of_shortestFrom`), and where it takes none the exact value stands in. The digits are
laid out in one of two forms, which differ in the place of the point but not in the value
(`writes_positional`, `writes_scientific`). Main statement: `denotes_text`.
-/

namespace CopperRoute.Number

/-! ## The decimal -/

def Decimal.size (d : Decimal) : ℚ := d.digits * 10 ^ d.exponent

theorem Decimal.size_strip (d : Decimal) : d.strip.size = d.size := by
  fun_induction Decimal.strip d with
  | case1 d h ih =>
    rw [ih, Decimal.size, Decimal.size, zpow_add_one₀ (by norm_num)]
    have hdigits : (d.digits : ℚ) = 10 * (d.digits / 10 : Nat) := by
      exact_mod_cast (Nat.mul_div_cancel' (Nat.dvd_of_mod_eq_zero h.2)).symm
    rw [hdigits]
    ring
  | case2 => rfl

theorem isNearestCode_of_shortestFrom {n d code : Nat} {place : Int} {count grids : Nat}
    {c : Decimal} (h : shortestFrom n d code place count grids = some c) :
    IsNearestCode c.size code := by
  induction grids generalizing count with
  | zero => cases h
  | succ grids ih =>
    rw [shortestFrom] at h
    split at h
    · next found hfound =>
      obtain rfl := Option.some.inj h
      have hcode := List.find?_some hfound
      rw [← beq_iff_eq.1 hcode]
      exact isNearestCode_decimal found.digits found.exponent
    · exact ih h

/-- The shortest decimal is rounded to the code that the value is rounded to. -/
theorem Dyadic.isNearestCode_shortest (v : Dyadic) :
    IsNearestCode v.shortest.size (nearestCode v.num v.den) := by
  unfold Dyadic.shortest
  dsimp only
  rw [Decimal.size_strip]
  cases hfound : shortestFrom v.num v.den (nearestCode v.num v.den)
    (leadingPlace v.num v.den) 1 17 with
  | some c => exact isNearestCode_of_shortestFrom hfound
  | none =>
    have hexactly : Decimal.size ⟨v.num * Nat.pow 5 (-v.exponent).toNat, min 0 v.exponent⟩ =
        v.num / v.den := by
      have hexponent : min 0 v.exponent = -((-v.exponent).toNat : Int) := by omega
      rw [Decimal.size, Dyadic.den, hexponent, zpow_neg, zpow_natCast, Nat.pow_eq, Nat.pow_eq]
      push_cast
      rw [show (10 : ℚ) = 5 * 2 by norm_num, mul_pow]
      field_simp
    rw [Option.getD_none, hexactly]
    exact isNearestCode_nearestCode _ v.den_pos

/-! ## The written form -/

open CopperRoute.Text

variable {sign ds : List Char} {negative : Bool}

theorem isExponent_exponentText (e : Int) : IsExponent (exponentText e) e := by
  have hdigits := isDigits_decimalDigits e.natAbs
  have hvalue := digitsValue_decimalDigits e.natAbs
  have hzero : IsDigits ('0' :: decimalDigits e.natAbs) :=
    ⟨by simp, List.forall_mem_cons.2 ⟨by decide, hdigits.2⟩⟩
  have hzerovalue : digitsValue ('0' :: decimalDigits e.natAbs) = e.natAbs :=
    (digitsValue_zero_cons _).trans hvalue
  unfold exponentText
  dsimp only
  generalize hpadded : (if (decimalDigits e.natAbs).length < 2 then '0' :: decimalDigits e.natAbs
    else decimalDigits e.natAbs) = padded
  obtain ⟨hpad, hpadvalue⟩ : IsDigits padded ∧ digitsValue padded = e.natAbs := by
    split at hpadded
    · exact hpadded ▸ ⟨hzero, hzerovalue⟩
    · exact hpadded ▸ ⟨hdigits, hvalue⟩
  split
  · next hneg =>
    have hminus := IsExponent.written (.inl rfl) .minus hpad
    rwa [if_pos rfl, hpadvalue, Int.ofNat_natAbs_of_nonpos hneg.le, neg_neg] at hminus
  · next hneg =>
    have hplus := IsExponent.written (.inl rfl) .plus hpad
    rwa [if_neg (by decide), hpadvalue, Int.natAbs_of_nonneg (not_lt.1 hneg)] at hplus

theorem writes_positional (hsign : IsMinus sign negative) (hds : IsDigits ds) (place : Int) :
    ∃ n, Writes IsMinus (sign ++ positional ds place) n ∧ n.negative = negative ∧
      n.size = digitsValue ds * 10 ^ (place + 1 - ds.length) := by
  unfold positional
  split
  · next hplace =>
    have hzeros := isDecimal_replicate (-place - 1).toNat
    refine ⟨_, writes_mantissa hsign (.point isDigits_zero
      (List.forall_mem_append.2 ⟨hzeros, hds.2⟩)), rfl, ?_⟩
    simp only [Numeral.size, List.singleton_append, digitsValue_zero_cons,
      digitsValue_replicate_append, List.length_append, List.length_replicate]
    congr 2
    omega
  · next hplace =>
    dsimp only
    rcases Nat.lt_or_ge (place.toNat + 1) ds.length with hlong | hshort
    · -- the point stands among the digits
      have hne : ds.drop (place.toNat + 1) ≠ [] := by simpa using hlong
      rw [Nat.sub_eq_zero_of_le hlong.le, List.replicate_zero, List.append_nil,
        if_neg (by simpa using hne)]
      have hfront : IsDigits (ds.take (place.toNat + 1)) :=
        ⟨by simp [hds.1], fun c hc => hds.2 c (List.mem_of_mem_take hc)⟩
      have hback : ∀ c ∈ ds.drop (place.toNat + 1), isDecimal c = true :=
        fun c hc => hds.2 c (List.mem_of_mem_drop hc)
      refine ⟨_, writes_mantissa hsign (.point hfront hback), rfl, ?_⟩
      simp only [Numeral.size, List.take_append_drop, List.length_drop]
      congr 2
      omega
    · -- the digits end before the point
      rw [List.take_of_length_le hshort, List.drop_of_length_le hshort]
      have hfront : IsDigits (ds ++ List.replicate (place.toNat + 1 - ds.length) '0') :=
        ⟨by simp [hds.1], List.forall_mem_append.2 ⟨hds.2, isDecimal_replicate _⟩⟩
      refine ⟨_, writes_mantissa hsign (.point hfront isDigits_zero.2), rfl, ?_⟩
      have hplaces : place + 1 - ds.length = ((place.toNat + 1 - ds.length : Nat) : Int) := by omega
      have hvalue (bs : List Char) : digitsValue (bs ++ ['0']) = digitsValue bs * 10 :=
        digitsValue_append_replicate bs 1
      simp only [Numeral.size, List.isEmpty_nil, if_true, hvalue, digitsValue_append_replicate]
      rw [hplaces, zpow_natCast]
      push_cast
      simp

theorem writes_scientific (hsign : IsMinus sign negative) (hds : IsDigits ds) (place : Int) :
    ∃ n, Writes IsMinus (sign ++ scientific ds place) n ∧ n.negative = negative ∧
      n.size = digitsValue ds * 10 ^ (place + 1 - ds.length) := by
  have hscale := isExponent_exponentText place
  unfold scientific
  rw [← List.append_assoc]
  match ds, hds with
  | [c], hds =>
    refine ⟨_, .intro hsign (.whole hds) hscale, rfl, ?_⟩
    rw [Numeral.size, List.append_nil]
    simp
  | c :: d :: rest, hds =>
    obtain ⟨hc, hrest⟩ := List.forall_mem_cons.1 hds.2
    refine ⟨_, .intro hsign (.point ⟨List.cons_ne_nil c [], by simpa using hc⟩ hrest) hscale, rfl,
      ?_⟩
    simp only [Numeral.size, List.singleton_append, List.length_cons]
    congr 2
    omega

/-- What is written for a dyadic value is a numeral of its sign, rounded to the same code. -/
theorem Dyadic.writes_text (v : Dyadic) : ∃ n, Writes IsMinus v.text n ∧
    n.negative = v.negative ∧ IsNearestCode n.size (nearestCode v.num v.den) := by
  have hsign := isMinus_sign v.negative
  unfold Dyadic.text
  dsimp only
  generalize (if v.negative then ['-'] else []) = sign at hsign ⊢
  split
  · next hzero =>
    refine ⟨_, writes_mantissa hsign (.point isDigits_zero isDigits_zero.2), rfl, ?_⟩
    have hvalue : digitsValue ['0', '0'] = 0 := digitsValue_replicate 2
    have hnear := isNearestCode_nearestCode v.num v.den_pos
    rw [v.num_div_den, Dyadic.size, hzero, Nat.cast_zero, zero_mul] at hnear
    simpa [Numeral.size, hvalue] using hnear
  · have hds := isDigits_decimalDigits v.shortest.digits
    have hsize : (digitsValue (decimalDigits v.shortest.digits) : ℚ) *
        10 ^ (v.shortest.exponent + (decimalDigits v.shortest.digits).length - 1 + 1 -
          (decimalDigits v.shortest.digits).length) = v.shortest.size := by
      rw [digitsValue_decimalDigits, Decimal.size]
      congr 2
      omega
    split
    · obtain ⟨n, hn, hnegative, hvalue⟩ := writes_positional hsign hds _
      exact ⟨n, hn, hnegative, hvalue ▸ hsize ▸ v.isNearestCode_shortest⟩
    · obtain ⟨n, hn, hnegative, hvalue⟩ := writes_scientific hsign hds _
      exact ⟨n, hn, hnegative, hvalue ▸ hsize ▸ v.isNearestCode_shortest⟩

/-- The written form of a finite double denotes the same double. -/
theorem denotes_text {x : Float} (h : isFinite x = true) : Denotes IsMinus (text x).toList x := by
  obtain ⟨v, hv⟩ := exists_exact_of_isFinite h
  obtain ⟨n, hn, hnegative, hnear⟩ := v.writes_text
  obtain ⟨c, hc, hx⟩ := isRounded_iff.1 (isRounded_exact hv)
  have hcode : c = nearestCode v.num v.den :=
    hc.unique (v.num_div_den ▸ isNearestCode_nearestCode _ v.den_pos)
  rw [text, hv]
  dsimp only
  rw [String.toList_ofList]
  refine ⟨n, hn, isRounded_iff.2 ⟨_, hnear, ?_⟩⟩
  rw [hx, hcode, hnegative]

end CopperRoute.Number
