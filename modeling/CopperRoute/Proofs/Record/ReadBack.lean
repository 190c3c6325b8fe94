import CopperRoute.Proofs.Anchor.Notations
import CopperRoute.Proofs.Record.Coordinate

/-!
# Figures read back

    double ──coordinate──▶ text ──read──▶ nearest double ──coordinate──▶ the same text
    double ──sizeText────▶ text ──read──▶ a double of the same value

A coordinate is rounded when it is written and again when it is read. The second rounding goes to
the double nearest to the text, and the double that was written is one of those it may go to. So
what is read is at least as near to the text as what was written (`exists_nearer`), and whatever is
that near is written in the same text again. Just below the limit of decimals, where nothing is
rounded any more, both have room for their digits or neither has.

Nothing is lost of a size. A whole number is written in full, and its text denotes a number that is
a double, so that reading does not round; any other double is written in its shortest decimal.

Main statements: `coordinates_read_back` and `size_reads_back`.
-/

namespace CopperRoute

open Number Text

variable {x y : Float} {v w : Number.Dyadic}

/-! ## Numbers with a sign -/

namespace Number

theorem abs_signed (negative : Bool) (size : ℚ) : |signed negative size| = |size| := by
  cases negative
  · rfl
  · exact abs_neg size

/-- Of numbers with the same sign the distance is that of their absolute values. -/
theorem abs_signed_sub (negative : Bool) (size size' : ℚ) :
    |signed negative size - signed negative size'| = |size - size'| := by
  cases negative
  · rfl
  · simp only [signed, if_true, neg_sub_neg, abs_sub_comm]

theorem Numeral.size_nonneg (n : Numeral) : 0 ≤ n.size := by
  unfold Numeral.size
  positivity

def Numeral.value (n : Numeral) : ℚ := signed n.negative n.size

/-- A numeral within a half of a finite double becomes a finite double, one that is at least as
near. -/
theorem exists_nearer {n : Numeral} (hx : exact x = .finite v) (h : |v.value - n.value| ≤ 1 / 2) :
    ∃ w, exact n.toFloat = .finite w ∧ |w.value - n.value| ≤ |v.value - n.value| := by
  have hsizes : |v.size - n.size| ≤ |v.value - n.value| := by
    have hle := abs_abs_sub_abs_le_abs_sub v.value n.value
    rwa [Dyadic.value, Numeral.value, abs_signed, abs_signed, abs_of_nonneg v.size_nonneg,
      abs_of_nonneg n.size_nonneg] at hle
  obtain ⟨w, hw, hsign, hnearer⟩ := (isRounded_toFloat n).exists_finite hx (hsizes.trans h)
  refine ⟨w, hw, ?_⟩
  rw [Dyadic.value, hsign, Numeral.value, abs_signed_sub]
  exact hnearer.trans hsizes

/-! ## Whole numbers -/

theorem Dyadic.value_truncate (h : v.isWhole = true) : v.value = v.truncate := by
  have hdvd : v.den ∣ v.num := Nat.dvd_of_mod_eq_zero (by simpa [Dyadic.isWhole] using h)
  have hquotient : (((v.num : Int) / v.den : Int) : ℚ) = v.size := by
    rw [Int.cast_div (by exact_mod_cast hdvd) (by exact_mod_cast v.den_pos.ne'), Int.cast_natCast,
      Int.cast_natCast, v.num_div_den]
  rw [Dyadic.value, Dyadic.truncate, ← hquotient]
  cases v.negative
  · rfl
  · exact (Int.cast_neg _).symm

theorem Dyadic.isWhole_iff : v.isWhole = true ↔ ∃ i : Int, v.value = i := by
  refine ⟨fun h => ⟨v.truncate, Dyadic.value_truncate h⟩, ?_⟩
  rintro ⟨i, hi⟩
  have hden : (v.den : ℚ) ≠ 0 := by exact_mod_cast v.den_pos.ne'
  have hsize : v.size = i.natAbs := by
    rw [← abs_of_nonneg v.size_nonneg, ← abs_signed v.negative, ← Dyadic.value, hi, Nat.cast_natAbs,
      Int.cast_abs]
  rw [← v.num_div_den, div_eq_iff hden] at hsize
  have hnum : v.num = i.natAbs * v.den := by exact_mod_cast hsize
  simp [Dyadic.isWhole, hnum]

end Number

namespace Record

variable {places : Nat} {m : Int} {text : String}

/-! ## Coordinates -/

/-- Doubles of the same value have the same room. -/
theorem hasRoom_of_value_eq (h : v.value = w.value) (places : Nat) :
    hasRoom v places = hasRoom w places := by
  have hsize : v.size = w.size := by
    have habs := congrArg abs h
    rwa [Dyadic.value, Dyadic.value, abs_signed, abs_signed, abs_of_nonneg v.size_nonneg,
      abs_of_nonneg w.size_nonneg] at habs
  have hwhole : v.isWhole = w.isWhole := by
    rw [Bool.eq_iff_iff, Dyadic.isWhole_iff, Dyadic.isWhole_iff, h]
  rw [hasRoom, hasRoom, wholeDigits_eq, wholeDigits_eq, hsize, hwhole]

theorem exponent_of_exact (h : exact x = .finite v) : -1074 ≤ v.exponent := by
  unfold exact at h
  dsimp only at h
  split at h
  · split at h <;> cases h
  · split at h
    · cases h
      exact le_rfl
    · next hscale =>
      cases h
      dsimp only
      omega

/-- A double has no more than 1074 decimals. -/
theorem exists_units (hx : exact x = .finite v) (h : 1074 ≤ places) :
    ∃ i : Int, v.value * 10 ^ places = i := by
  have hexponent := exponent_of_exact hx
  obtain ⟨n, hn⟩ := Int.eq_ofNat_of_zero_le (by omega : 0 ≤ v.exponent + places)
  have hsize : v.size * 10 ^ places = (v.mantissa * 2 ^ n * 5 ^ places : Nat) := by
    have hpow : (2 : ℚ) ^ v.exponent * 2 ^ places = 2 ^ n := by
      rw [← zpow_natCast 2 places, ← zpow_add₀ two_ne_zero, hn, zpow_natCast]
    rw [Dyadic.size, show (10 : ℚ) = 2 * 5 by norm_num, mul_pow]
    push_cast
    rw [← hpow]
    ring
  generalize v.mantissa * 2 ^ n * 5 ^ places = units at hsize
  cases hnegative : v.negative with
  | false => exact ⟨units, by simpa [Dyadic.value, signed, hnegative] using hsize⟩
  | true => exact ⟨-units, by simpa [Dyadic.value, signed, hnegative] using hsize⟩

/-- The text of a coordinate denotes a finite double that is rounded to it as well, and that is at
least as near to it. -/
theorem IsCoordinate.exists_denotes (h : IsCoordinate v.value places m text)
    (hx : exact x = .finite v) : ∃ y w, Denotes IsMinus text.toList y ∧ exact y = .finite w ∧
      IsCoordinate w.value places m text ∧
      |w.value - m / 10 ^ places| ≤ |v.value - m / 10 ^ places| := by
  obtain ⟨k, hk, hcanonical⟩ := h.written
  obtain ⟨n, hn, hvalue⟩ := hcanonical.writes
  have hvalue : n.value = m / 10 ^ places := hvalue
  have hhalf : |v.value - n.value| ≤ 1 / 2 := by
    rw [abs_sub_comm, hvalue]
    refine h.abs_sub_le.trans (div_le_self (by norm_num) ?_)
    exact one_le_pow₀ (by norm_num)
  obtain ⟨w, hw, hnearer⟩ := exists_nearer hx hhalf
  rw [hvalue] at hnearer
  refine ⟨n.toFloat, w, ⟨n, hn, isRounded_toFloat n⟩, hw, ⟨h.rounds.of_abs_sub_le ?_, k, hk,
    hcanonical⟩, hnearer⟩
  rw [abs_sub_units, abs_sub_units, abs_sub_comm _ w.value, abs_sub_comm _ v.value]
  exact mul_le_mul_of_nonneg_right hnearer (by positivity)

/-- A double that is rounded as another one is and is as near has room if the other has. Far from
the limit there is room for any double, and near to it nothing is rounded any more. -/
theorem IsCoordinate.hasRoom (h : IsCoordinate v.value places m text) (hx : exact x = .finite v)
    (hy : exact y = .finite w) (hroom : hasRoom v places = true)
    (hnearer : |w.value - m / 10 ^ places| ≤ |v.value - m / 10 ^ places|) :
    Record.hasRoom w places = true := by
  by_cases hfar : places + 309 ≤ placesLimit
  · exact hasRoom_of_le hy hfar
  · have hplaces : 1074 ≤ places := by
      have hlimit : (1074 : Int) + 309 ≤ placesLimit := by decide
      omega
    obtain ⟨i, hi⟩ := exists_units hx hplaces
    have hunits : m = i := h.rounds.unique (hi ▸ roundsToEven_cast i)
    have hvalue : v.value - m / 10 ^ places = 0 := by
      rw [hunits, ← hi, mul_div_cancel_right₀ _ (by positivity), sub_self]
    rw [hvalue, abs_zero, abs_nonpos_iff, ← hvalue, sub_left_inj] at hnearer
    rwa [hasRoom_of_value_eq hnearer]

theorem exists_denotes_of_hasRoom (hx : exact x = .finite v) (h : places ≤ placesLimit)
    (hroom : hasRoom v places = true) :
    ∃ text y, coordinate x places = .ok text ∧ Denotes IsMinus text.toList y ∧
      isFinite y = true ∧ coordinate y places = .ok text := by
  obtain ⟨text, m, htext, hcoordinate⟩ := coordinate_of_finite hx h hroom
  obtain ⟨y, w, hy, hw, hagain, hnearer⟩ := hcoordinate.exists_denotes hx
  obtain ⟨text', m', htext', hcoordinate'⟩ :=
    coordinate_of_finite hw h (hcoordinate.hasRoom hx hw hroom hnearer)
  obtain rfl := hagain.rounds.unique hcoordinate'.rounds
  obtain rfl := (hagain.text_eq_iff hcoordinate').2 rfl
  exact ⟨text, y, htext, hy, by rw [isFinite, hw], htext'⟩

theorem exact_zero : exact 0 = .finite ⟨false, 0, -1074⟩ := by decide +kernel

theorem hasRoom_zero (places : Nat) : hasRoom ⟨false, 0, -1074⟩ places = true := by
  simp [hasRoom, wholeDigits_eq, Dyadic.size]

theorem coordinate_zero (h : places ≤ placesLimit) : coordinate 0 places = .ok "0" := by
  obtain ⟨text, m, htext, hcoordinate⟩ := coordinate_of_finite exact_zero h (hasRoom_zero places)
  have hvalue : Number.Dyadic.value ⟨false, 0, -1074⟩ = 0 := by
    simp [Dyadic.value, Dyadic.size, signed]
  obtain ⟨k, -, hk⟩ := hcoordinate.written
  obtain ⟨k', -, hk'⟩ := isCanonical_unitsText false 0 0
  have hrounds := hcoordinate.rounds
  rw [hvalue, zero_mul] at hrounds
  obtain rfl : m = 0 := hrounds.unique (roundsToEven_cast 0)
  have hsame : signed false ((0 : Nat) / 10 ^ 0) = ((0 : Int) : ℚ) / 10 ^ places := by simp [signed]
  rw [hsame] at hk'
  rw [htext, hk.unique hk']
  rfl

/-- What is written for a finite double denotes a finite double for which the same is written. Where
there is no room that is zero. -/
theorem exists_denotes_coordinate (hx : isFinite x = true) (h : places ≤ placesLimit) :
    ∃ text y, coordinate x places = .ok text ∧ Denotes IsMinus text.toList y ∧
      isFinite y = true ∧ coordinate y places = .ok text := by
  obtain ⟨v, hv⟩ := exists_exact_of_isFinite hx
  cases hroom : hasRoom v places with
  | true => exact exists_denotes_of_hasRoom hv h hroom
  | false =>
    obtain ⟨text, y, htext, hy⟩ := exists_denotes_of_hasRoom exact_zero h (hasRoom_zero places)
    have hlost : coordinate x places = .ok "0" := by
      rw [coordinate_eq hv h, hroom]
      rfl
    rw [coordinate_zero h, ← hlost] at htext
    exact ⟨text, y, htext, hy⟩

/-- Two finite doubles that are written as coordinates, with a blank between them and parentheses
around, are a position, and the point that is read from it is written in the same two texts. With
more decimals than can be asked for neither double is written. -/
theorem coordinates_read_back (hx : isFinite x = true) (hy : isFinite y = true) (places : Nat)
    (route : Option String) (position : Option Route.Offset) :
    (places ≤ placesLimit → ∃ xs ys p,
      coordinate x places = .ok xs ∧ coordinate y places = .ok ys ∧
      Route.readPosition s!"({xs} {ys})" route position = .ok p ∧
      coordinate p.x places = .ok xs ∧ coordinate p.y places = .ok ys) ∧
      (placesLimit < places →
        coordinate x places = .error .unfitValue ∧ coordinate y places = .error .unfitValue) := by
  refine ⟨fun hlimit => ?_, fun hlimit =>
    ⟨coordinate_of_limit_lt x hlimit, coordinate_of_limit_lt y hlimit⟩⟩
  obtain ⟨xs, x', hxs, hxdenotes, hxfinite, hxagain⟩ := exists_denotes_coordinate hx hlimit
  obtain ⟨ys, y', hys, hydenotes, hyfinite, hyagain⟩ := exists_denotes_coordinate hy hlimit
  have hposition : Route.IsPosition s!"({xs} {ys})".toList ⟨x', y'⟩ := by
    have h := Anchor.isPosition_of_denotes hxdenotes hydenotes hxfinite hyfinite
      (by decide : Route.isSeparator ' ' = true)
    convert h using 1
    simp [toString]
  refine ⟨xs, ys, ⟨x', y'⟩, hxs, hys, ?_, hxagain, hyagain⟩
  rw [Route.readPosition, Route.position?_eq_some_iff.2 hposition]

/-- A tie that goes down, and a number that has no decimals left but its sign. -/
theorem coordinates_read_back_after_tie :
    isFinite 0.125 = true ∧ isFinite (-0.001) = true ∧ ((2 : Nat) : Int) ≤ placesLimit ∧
      coordinate 0.125 (2 : Nat) = .ok "0.12" ∧ coordinate (-0.001) (2 : Nat) = .ok "0" ∧
      ∃ p, Route.readPosition "(0.12 0)" none none = .ok p ∧
        coordinate p.x (2 : Nat) = .ok "0.12" ∧ coordinate p.y (2 : Nat) = .ok "0" := by
  have hx : isFinite 0.125 = true := by decide +kernel
  have hy : isFinite (-0.001) = true := by decide +kernel
  have hlimit : ((2 : Nat) : Int) ≤ placesLimit := by decide
  have hxtext : coordinate 0.125 (2 : Nat) = .ok "0.12" := by decide +kernel
  have hytext : coordinate (-0.001) (2 : Nat) = .ok "0" := by decide +kernel
  obtain ⟨xs, ys, p, hxs, hys, h⟩ := (coordinates_read_back hx hy 2 none none).1 hlimit
  obtain rfl := Except.ok.inj (hxs.symm.trans hxtext)
  obtain rfl := Except.ok.inj (hys.symm.trans hytext)
  exact ⟨hx, hy, hlimit, hxtext, hytext, p, h⟩

/-- With one decimal more than can be asked for, there is no text to read. -/
theorem coordinates_not_read_back : isFinite 0.25 = true ∧
    ¬∃ xs ys p, coordinate 0.25 2147483648 = .ok xs ∧ coordinate 0.25 2147483648 = .ok ys ∧
      Route.readPosition s!"({xs} {ys})" none none = .ok p := by
  refine ⟨by decide +kernel, ?_⟩
  rintro ⟨xs, ys, p, hxs, -⟩
  have herror := coordinate_of_limit_lt 0.25 (by decide : placesLimit < (2147483648 : Nat))
  cases herror.symm.trans hxs

/-! ## Sizes -/

theorem pointText_natAbs (i : Int) :
    pointText (decide (i < 0)) (decimalDigits i.natAbs) [] = toString i := by
  apply String.toList_inj.1
  show _ = i.repr.toList
  rw [Int.repr_eq_if, pointText, String.toList_ofList]
  by_cases hi : 0 ≤ i
  · have hnat : i.toNat = i.natAbs := by omega
    simp [hi, decimalDigits, hnat]
  · have hnat : (-i).toNat = i.natAbs := by omega
    simp [hi, decimalDigits, hnat, not_le.1 hi]

/-- A whole number is written as digits, behind a minus at most. -/
theorem isCanonical_toString (i : Int) : IsCanonical (toString i) 0 i := by
  have hdigits : digitsValue (decimalDigits i.natAbs ++ []) = i.natAbs := by
    rw [List.append_nil, digitsValue_decimalDigits]
  have hzero : decide (i < 0) = true → digitsValue (decimalDigits i.natAbs ++ []) ≠ 0 := by
    rw [hdigits, decide_eq_true_eq]
    omega
  have hsigned : signed (decide (i < 0)) (i.natAbs / 10 ^ 0) = i := by
    rw [pow_zero, div_one, Nat.cast_natAbs]
    by_cases hi : i < 0
    · simp [signed, hi, abs_of_neg hi]
    · simp [signed, hi, abs_of_nonneg (not_lt.1 hi)]
  have h := IsCanonical.intro (isWhole_decimalDigits i.natAbs) ⟨by simp, by simp⟩ hzero
  rw [hdigits, pointText_natAbs, List.length_nil, hsigned] at h
  exact h

/-- What a size of the given value is written as: a text that reads back as a double of this value,
which for a whole number is its plain digits and for any other number its shortest decimal. -/
structure IsSize (x : Float) (value : ℚ) (text : String) : Prop where
  reads : ∃ y w, literal? text = some y ∧ exact y = .finite w ∧ w.value = value
  whole : (∃ i : Int, value = i) → IsCanonical text 0 value
  other : (¬∃ i : Int, value = i) → text = Number.text x

theorem literal?_of_denotes (h : Denotes IsMinus text.toList x) : literal? text = some x := by
  obtain ⟨n, hn, hx⟩ := h
  have hliteral := literal?_of_writes hn.isSign
  rwa [String.ofList_toList, isRounded_iff_toFloat.1 hx] at hliteral

/-- The digits of a whole double read back without rounding. -/
theorem IsCanonical.reads {k : Nat} (h : IsCanonical text k v.value) (hx : exact x = .finite v) :
    ∃ y w, literal? text = some y ∧ exact y = .finite w ∧ w.value = v.value := by
  obtain ⟨n, hn, hvalue⟩ := h.writes
  have hvalue : n.value = v.value := hvalue
  obtain ⟨w, hw, hnearer⟩ := exists_nearer (n := n) hx (by rw [hvalue, sub_self]; norm_num)
  rw [hvalue, sub_self, abs_zero] at hnearer
  exact ⟨n.toFloat, w, literal?_of_denotes ⟨n, hn, isRounded_toFloat n⟩, hw,
    sub_eq_zero.1 (abs_nonpos_iff.1 hnearer)⟩

theorem exists_sizeText (hx : exact x = .finite v) :
    ∃ text, sizeText x = .ok text ∧ IsSize x v.value text := by
  rw [sizeText, hx]
  refine ⟨_, rfl, ?_⟩
  split
  · next hwhole =>
    have hcanonical := isCanonical_toString v.truncate
    rw [← v.value_truncate hwhole] at hcanonical
    exact ⟨hcanonical.reads hx, fun _ => hcanonical,
      fun hnot => absurd (Dyadic.isWhole_iff.1 hwhole) hnot⟩
  · next hwhole =>
    have hdenotes := denotes_text (by rw [isFinite, hx] : isFinite x = true)
    exact ⟨⟨x, v, literal?_of_denotes hdenotes, hx, rfl⟩,
      fun h => absurd (Dyadic.isWhole_iff.2 h) hwhole, fun _ => rfl⟩

/-- Finite doubles of the same value are the same, zero apart. -/
theorem eq_of_value_eq (hx : exact x = .finite v) (hy : exact y = .finite w)
    (h : v.value = w.value) (hzero : v.value ≠ 0) : x = y := by
  have hne {u : Number.Dyadic} (hu : u.value ≠ 0) : u.size ≠ 0 := by
    rwa [← abs_ne_zero, Dyadic.value, abs_signed, abs_ne_zero] at hu
  obtain ⟨hnegative, hsize⟩ := signed_inj h v.size_nonneg w.size_nonneg
    (fun _ => hne hzero) (fun _ => hne (h ▸ hzero))
  have hround := isRounded_exact hx
  rw [hnegative, hsize] at hround
  exact hround.unique (isRounded_exact hy)

/-- Two sizes are written alike exactly if they are equal as numbers. -/
theorem IsSize.eq_iff {text' : String} (h : IsSize x v.value text) (h' : IsSize y w.value text')
    (hx : exact x = .finite v) (hy : exact y = .finite w) : text' = text ↔ w.value = v.value := by
  constructor
  · rintro rfl
    obtain ⟨a, u, ha, hu, hvalue⟩ := h.reads
    obtain ⟨a', u', ha', hu', hvalue'⟩ := h'.reads
    obtain rfl := Option.some.inj (ha.symm.trans ha')
    obtain rfl := Exact.finite.inj (hu.symm.trans hu')
    exact hvalue'.symm.trans hvalue
  · intro hvalue
    by_cases hwhole : ∃ i : Int, v.value = i
    · have hcanonical := h'.whole (hvalue ▸ hwhole)
      rw [hvalue] at hcanonical
      exact hcanonical.unique (h.whole hwhole)
    · have hzero : v.value ≠ 0 := fun hzero => hwhole ⟨0, by simpa using hzero⟩
      rw [h.other hwhole, h'.other (hvalue ▸ hwhole), eq_of_value_eq hx hy hvalue.symm hzero]

/-- Every finite double is written as a size: in a text that reads back as a double of the same
value, which is the plain digits of a whole number and the shortest decimal of any other, and which
only doubles of this value are written in. Infinity and what is no number are not written. -/
theorem size_reads_back (x : Float) :
    match exact x with
    | .finite v => ∃ text, sizeText x = .ok text ∧ IsSize x v.value text ∧
        ∀ y w, exact y = .finite w → (sizeText y = .ok text ↔ w.value = v.value)
    | .infinite _ => sizeText x = .error .outOfRange
    | .undefined => sizeText x = .error .unfitValue := by
  split
  · next v hx =>
    obtain ⟨text, htext, hsize⟩ := exists_sizeText hx
    refine ⟨text, htext, hsize, fun y w hy => ?_⟩
    obtain ⟨text', htext', hsize'⟩ := exists_sizeText hy
    rw [htext', Except.ok.injEq]
    exact hsize.eq_iff hsize' hx hy
  · next hx => rw [sizeText, hx]
  · next hx => rw [sizeText, hx]

example : sizeText 1e22 = .ok "10000000000000000000000" := by decide +kernel

end Record

end CopperRoute
