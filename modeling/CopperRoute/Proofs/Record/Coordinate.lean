import CopperRoute.Proofs.Number.Digits
import CopperRoute.Proofs.Number.Rounded
import CopperRoute.Record.Written

/-!
# Coordinates are rounded and written in one form

    double ──units──▶ m ──unitsText──▶ text        IsCanonical text k (m / 10 ^ places)

A coordinate is rounded to a whole number of units of its last decimal and then written without
needless zeros and without a sign for zero. `IsCanonical` is that form, said of a text and a number
without writing one; a number has one such text at most (`IsCanonical.unique`). So texts are as many
as there are roundings, and stand in the same order. More decimals than `placesLimit` cannot be
asked for, and just below the limit the digits before the point must have room beside them
(`hasRoom`). Main statement: `coordinate_rounds`.
-/

namespace CopperRoute

open Number Text

def Number.signed (negative : Bool) (size : ℚ) : ℚ := if negative then -size else size

def Number.Dyadic.value (v : Dyadic) : ℚ := signed v.negative v.size

namespace Record

/-! ## The form -/

/-- Plain digits without a zero at the end. -/
structure IsFraction (ds : List Char) : Prop where
  digits : ∀ c ∈ ds, c.isDigit = true
  last : ds.getLast? ≠ some '0'

/-- `s` is the number `q` with `k` digits behind the point: no zeros in front of the whole part,
none at the end of the fraction, no point without a fraction, and no sign for zero. -/
inductive IsCanonical : String → Nat → ℚ → Prop
  | intro {negative whole fraction} : IsWhole whole → IsFraction fraction →
      (negative = true → digitsValue (whole ++ fraction) ≠ 0) →
      IsCanonical (pointText negative whole fraction) fraction.length
        (signed negative (digitsValue (whole ++ fraction) / 10 ^ fraction.length))

variable {negative negative' : Bool} {whole fraction : List Char} {s s' : String} {k k' : Nat}
  {q q' : ℚ}

/-- The last digit of a fraction counts. -/
theorem IsFraction.digitsValue_mod_ten (h : IsFraction fraction) (hne : fraction.length ≠ 0)
    (whole : List Char) : digitsValue (whole ++ fraction) % 10 ≠ 0 := by
  rcases List.eq_nil_or_concat' fraction with rfl | ⟨ds, d, rfl⟩
  · exact absurd rfl hne
  · have hlt := digitsValue_singleton_lt d
    have hchar := digitChar_digitsValue (h.digits d (by simp))
    have hd : digitsValue [d] ≠ 0 := by
      intro hzero
      rw [hzero] at hchar
      exact h.last (by rw [List.getLast?_concat, ← hchar]; rfl)
    rw [← List.append_assoc, digitsValue_concat]
    omega

/-- A number is written with as many digits behind the point as it takes for the last one to
count. -/
theorem eq_of_div_pow_eq {n n' : Nat} (h : (n : ℚ) / 10 ^ k = n' / 10 ^ k')
    (hn : k ≠ 0 → n % 10 ≠ 0) (hn' : k' ≠ 0 → n' % 10 ≠ 0) : n = n' ∧ k = k' := by
  have hle : ∀ {n n' k k' : Nat}, k ≤ k' → (n : ℚ) / 10 ^ k = n' / 10 ^ k' →
      (k' ≠ 0 → n' % 10 ≠ 0) → n = n' ∧ k = k' := by
    intro n n' k k' hle h hn'
    obtain ⟨i, rfl⟩ := Nat.exists_eq_add_of_le hle
    have heq : n * 10 ^ i = n' := by
      rw [pow_add, div_eq_div_iff (by positivity) (by positivity), mul_left_comm, mul_comm] at h
      exact_mod_cast mul_right_cancel₀ (by positivity : (10 : ℚ) ^ k ≠ 0) h
    cases i with
    | zero => exact ⟨by simpa using heq, rfl⟩
    | succ i =>
      refine absurd ?_ (hn' (by omega))
      rw [← heq, pow_succ, ← mul_assoc, Nat.mul_mod_left]
  rcases Nat.le_total k k' with h' | h'
  · exact hle h' h hn'
  · obtain ⟨hnum, hk⟩ := hle h' h.symm hn
    exact ⟨hnum.symm, hk.symm⟩

theorem signed_inj (h : signed negative q = signed negative' q') (hq : 0 ≤ q) (hq' : 0 ≤ q')
    (hzero : negative = true → q ≠ 0) (hzero' : negative' = true → q' ≠ 0) :
    negative = negative' ∧ q = q' := by
  cases negative <;> cases negative' <;>
    simp only [signed, if_true, Bool.false_eq_true, if_false] at h
  · exact ⟨rfl, h⟩
  · exact absurd (by linarith) (hzero' rfl)
  · exact absurd (by linarith) (hzero rfl)
  · exact ⟨rfl, neg_inj.1 h⟩

/-- The two parts of a text are told by its digits and the place of its point. -/
theorem pointParts_digitsValue (hwhole : IsWhole whole) (hfraction : IsFraction fraction) :
    pointParts (digitsValue (whole ++ fraction)) fraction.length = (whole, fraction) := by
  have hlt : digitsValue fraction < 10 ^ fraction.length := digitsValue_lt le_rfl
  have hdiv : (digitsValue whole * 10 ^ fraction.length + digitsValue fraction) /
      10 ^ fraction.length = digitsValue whole := by
    rw [Nat.mul_comm, Nat.mul_add_div (by positivity), Nat.div_eq_of_lt hlt, Nat.add_zero]
  have hmod : (digitsValue whole * 10 ^ fraction.length + digitsValue fraction) %
      10 ^ fraction.length = digitsValue fraction := by
    rw [Nat.mul_add_mod_of_lt hlt]
  rw [pointParts, digitsValue_append, Nat.pow_eq, hdiv, hmod, decimalDigits_digitsValue hwhole,
    lastDigits_digitsValue hfraction.digits]

/-- A number has one text. -/
theorem IsCanonical.unique (h : IsCanonical s k q) (h' : IsCanonical s' k' q) : s = s' := by
  cases h with
  | @intro negative whole fraction hwhole hfraction hzero =>
    generalize hq : signed negative (digitsValue (whole ++ fraction) / 10 ^ fraction.length) = q
      at h'
    cases h' with
    | @intro negative' whole' fraction' hwhole' hfraction' hzero' =>
      have hne {n k : Nat} (hn : n ≠ 0) : (n : ℚ) / 10 ^ k ≠ 0 :=
        div_ne_zero (Nat.cast_ne_zero.2 hn) (by positivity)
      obtain ⟨rfl, hsize⟩ := signed_inj hq (by positivity) (by positivity)
        (fun h => hne (hzero h)) (fun h => hne (hzero' h))
      obtain ⟨hvalue, hlength⟩ := eq_of_div_pow_eq hsize
        (fun hk => hfraction.digitsValue_mod_ten hk whole)
        (fun hk => hfraction'.digitsValue_mod_ten hk whole')
      have hparts := pointParts_digitsValue hwhole hfraction
      rw [hvalue, hlength, pointParts_digitsValue hwhole' hfraction'] at hparts
      obtain ⟨rfl, rfl⟩ := Prod.mk.inj hparts
      rfl

/-- A text in this form is a numeral for its number. -/
theorem IsCanonical.writes (h : IsCanonical s k q) :
    ∃ n, Writes IsMinus s.toList n ∧ signed n.negative n.size = q := by
  obtain @⟨negative, whole, fraction, hwhole, hfraction, -⟩ := h
  have hds : IsDigits whole :=
    ⟨hwhole.ne_nil, fun c hc => isDecimal_of_isDigit (hwhole.digits c hc)⟩
  have hmantissa : IsMantissa (whole ++ if fraction.isEmpty then [] else '.' :: fraction)
      whole fraction := by
    cases fraction with
    | nil => simpa using IsMantissa.whole hds
    | cons c tail => exact .point hds fun c hc => isDecimal_of_isDigit (hfraction.digits c hc)
  refine ⟨⟨negative, digitsValue (whole ++ fraction), -fraction.length⟩, ?_, ?_⟩
  · rw [pointText, String.toList_ofList, List.append_assoc]
    exact writes_mantissa (isMinus_sign negative) hmantissa
  · simp [Numeral.size, div_eq_mul_inv]

theorem IsCanonical.value_unique (h : IsCanonical s k q) (h' : IsCanonical s k' q') : q = q' := by
  obtain ⟨n, hn, rfl⟩ := h.writes
  obtain ⟨n', hn', rfl⟩ := h'.writes
  have hread := ofChars?_eq_some_iff.2 hn.isSign
  rw [ofChars?_eq_some_iff.2 hn'.isSign] at hread
  rw [Option.some.inj hread]

/-! ## Writing -/

/-- What is dropped from the end of a fraction is zeros. -/
theorem exists_dropTrailingZeros (fraction : List Char) :
    ∃ k, fraction = dropTrailingZeros fraction ++ List.replicate k '0' := by
  obtain ⟨zeros, hfraction, hzeros⟩ := exists_append_dropWhile (· == '0') fraction.reverse
  refine ⟨zeros.length, ?_⟩
  have hreplicate : zeros = List.replicate zeros.length '0' :=
    List.eq_replicate_of_mem fun c hc => by simpa using hzeros c hc
  rw [dropTrailingZeros, ← List.reverse_replicate, ← hreplicate, ← List.reverse_append, ← hfraction,
    List.reverse_reverse]

theorem isFraction_dropTrailingZeros (h : ∀ c ∈ fraction, c.isDigit = true) :
    IsFraction (dropTrailingZeros fraction) := by
  constructor
  · intro c hc
    obtain ⟨k, hk⟩ := exists_dropTrailingZeros fraction
    exact h c (hk ▸ List.mem_append_left _ hc)
  · intro hlast
    rw [dropTrailingZeros, List.getLast?_reverse] at hlast
    simpa using head?_dropWhile _ hlast

/-- A number of units is written in the form, with the places it needs. -/
theorem isCanonical_unitsText (negative : Bool) (units places : Nat) :
    ∃ k ≤ places, IsCanonical (unitsText negative units places) k
      (signed negative (units / 10 ^ places)) := by
  have hdigits := isDigit_lastDigits (units % 10 ^ places) places
  obtain ⟨zeros, hzeros⟩ := exists_dropTrailingZeros (lastDigits (units % 10 ^ places) places)
  have hfraction := isFraction_dropTrailingZeros hdigits
  have hvalue : digitsValue (decimalDigits (units / 10 ^ places) ++
      lastDigits (units % 10 ^ places) places) = units := by
    rw [digitsValue_append, digitsValue_decimalDigits, digitsValue_lastDigits, length_lastDigits,
      Nat.mod_mod, Nat.div_add_mod']
  have hlength := length_lastDigits (units % 10 ^ places) places
  have hwhole := isWhole_decimalDigits (units / 10 ^ places)
  unfold unitsText pointParts
  dsimp only [Nat.pow_eq]
  generalize dropTrailingZeros (lastDigits (units % 10 ^ places) places) = fraction at *
  generalize decimalDigits (units / 10 ^ places) = whole at *
  rw [hzeros, ← List.append_assoc, digitsValue_append_replicate] at hvalue
  rw [hzeros, List.length_append, List.length_replicate] at hlength
  refine ⟨fraction.length, by omega, ?_⟩
  have hsize : (digitsValue (whole ++ fraction) : ℚ) / 10 ^ fraction.length =
      units / 10 ^ places := by
    have hpow : (10 : ℚ) ^ zeros ≠ 0 := by positivity
    rw [← hvalue, ← hlength, pow_add, Nat.cast_mul, Nat.cast_pow, Nat.cast_ofNat,
      mul_div_mul_right _ _ hpow]
  have hsign : (negative && units != 0) = true → digitsValue (whole ++ fraction) ≠ 0 := by
    intro hsign hzero
    rw [hzero, Nat.zero_mul] at hvalue
    simp [← hvalue] at hsign
  convert IsCanonical.intro hwhole hfraction hsign using 1
  rw [hsize]
  by_cases hzero : units = 0 <;> simp [signed, hzero]

/-! ## Rounding -/

variable {x : Float} {v : Number.Dyadic}

/-- The units of a dyadic value, with its sign, are what it is rounded to. -/
theorem roundsToEven_units (v : Number.Dyadic) (places : Nat) :
    RoundsToEven (v.value * 10 ^ places)
      (if v.negative then -(v.units places : Int) else v.units places) := by
  have hround := roundsToEven_divHalfEven (v.num * Nat.pow 10 places) v.den_pos
  rw [Nat.cast_mul, mul_div_right_comm, v.num_div_den, Nat.pow_eq, Nat.cast_pow,
    Nat.cast_ofNat] at hround
  unfold Dyadic.value signed Dyadic.units
  cases v.negative
  · simpa using hround
  · simpa using hround.neg

/-- `text` is the number `value` with at most `places` decimals: rounded to `m` units of the last of
them, and written in the form. -/
structure IsCoordinate (value : ℚ) (places : Nat) (m : Int) (text : String) : Prop where
  rounds : RoundsToEven (value * 10 ^ places) m
  written : ∃ k ≤ places, IsCanonical text k (m / 10 ^ places)

namespace IsCoordinate

variable {value value' : ℚ} {places : Nat} {m m' : Int} {text text' : String}

/-- Distances in units of the last decimal. -/
theorem abs_sub_units (m : Int) (value : ℚ) (places : Nat) :
    |(m : ℚ) - value * 10 ^ places| = |(m : ℚ) / 10 ^ places - value| * 10 ^ places := by
  have hpow : (0 : ℚ) < 10 ^ places := by positivity
  rw [← abs_of_pos hpow, ← abs_mul, abs_of_pos hpow, sub_mul, div_mul_cancel₀ _ hpow.ne']

/-- A coordinate is at most half a unit off. -/
theorem abs_sub_le (h : IsCoordinate value places m text) :
    |(m : ℚ) / 10 ^ places - value| ≤ 1 / 2 / 10 ^ places := by
  have hhalf := (roundsToEven_iff.1 h.rounds).1
  rwa [abs_sub_units, ← le_div_iff₀ (by positivity)] at hhalf

/-- Coordinates stand in the order of their values. -/
theorem mono (h : IsCoordinate value places m text) (h' : IsCoordinate value' places m' text')
    (hle : value ≤ value') : (m : ℚ) / 10 ^ places ≤ m' / 10 ^ places := by
  have hunits : m ≤ m' := h.rounds.mono h'.rounds (by gcongr)
  gcongr

/-- What is rounded alike is written alike, and nothing else is. -/
theorem text_eq_iff (h : IsCoordinate value places m text)
    (h' : IsCoordinate value' places m' text') : text = text' ↔ m = m' := by
  obtain ⟨k, -, hk⟩ := h.written
  obtain ⟨k', -, hk'⟩ := h'.written
  constructor
  · rintro rfl
    have hpow : (10 : ℚ) ^ places ≠ 0 := by positivity
    exact_mod_cast (div_left_inj' hpow).1 (hk.value_unique hk')
  · rintro rfl
    exact hk.unique hk'

end IsCoordinate

/-! ## Room -/

theorem wholeDigits_eq (v : Number.Dyadic) :
    v.wholeDigits = if ⌊v.size⌋₊ = 0 then 0 else digitCount ⌊v.size⌋₊ := by
  rw [← v.num_div_den, Nat.floor_div_eq_div, Dyadic.wholeDigits]

/-- A finite double has at most 309 digits before the point. -/
theorem wholeDigits_le (hx : exact x = .finite v) : v.wholeDigits ≤ 309 := by
  have hsize : ⌊v.size⌋₊ < 2 ^ 1024 := by
    rw [Nat.floor_lt v.size_nonneg]
    exact_mod_cast (lt_add_one v.size).trans (Dyadic.size_add_one_lt hx)
  rw [wholeDigits_eq]
  split
  · exact Nat.zero_le _
  · next hne =>
    have hpow := (pow_digitCount_le hne).trans_lt (hsize.trans (by decide +kernel : 2 ^ 1024 < 10 ^ 309))
    have hlt := (Nat.pow_lt_pow_iff_right (by norm_num : 1 < 10)).1 hpow
    omega

/-- As long as 309 places are left, there is room for any double. -/
theorem hasRoom_of_le (hx : exact x = .finite v) {places : Nat} (h : places + 309 ≤ placesLimit) :
    hasRoom v places = true := by
  have hdigits := wholeDigits_le hx
  have hfits : (v.wholeDigits : Int) + places ≤ placesLimit := by omega
  simp [hasRoom, hfits]

/-- With fewer decimals there is as much room. -/
theorem hasRoom_mono {places places' : Nat} (hle : places ≤ places')
    (h : hasRoom v places' = true) : hasRoom v places = true := by
  simp only [hasRoom, Bool.or_eq_true, decide_eq_true_eq] at h ⊢
  refine h.imp_left fun h => h.imp_right fun h => ?_
  omega

theorem coordinate_eq (hx : exact x = .finite v) {places : Nat} (h : places ≤ placesLimit) :
    coordinate x places = .ok
      (if hasRoom v places then unitsText v.negative (v.units places) places else "0") := by
  have hplaces : places? places = .ok places := if_pos ⟨Int.natCast_nonneg _, h⟩
  rw [coordinate, hplaces, Except.map, coordinateText, hx]

theorem coordinate_of_limit_lt (x : Float) {places : Nat} (h : placesLimit < places) :
    coordinate x places = .error .unfitValue := by
  rw [coordinate, places?, if_neg fun hfit => absurd hfit.2 (not_le.2 h)]
  rfl

/-! ## Main statement -/

theorem coordinate_of_finite (hx : exact x = .finite v) {places : Nat} (h : places ≤ placesLimit)
    (hroom : hasRoom v places = true) :
    ∃ text m, coordinate x places = .ok text ∧ IsCoordinate v.value places m text := by
  obtain ⟨k, hk, hcanonical⟩ := isCanonical_unitsText v.negative (v.units places) places
  refine ⟨_, _, (coordinate_eq hx h).trans (by rw [if_pos hroom]), roundsToEven_units v places,
    k, hk, ?_⟩
  convert hcanonical using 1
  cases v.negative <;> simp [signed, neg_div]

/-- A finite double is written as a coordinate exactly if so many decimals can be asked for. The
text is the only one of its form for the rounded value, which is at most half a unit off; greater
doubles have no lower texts, and two doubles have the same text exactly if they are rounded
alike. All this holds where there is room for the digits and one more, as there is for any double
unless the decimals come within 310 of their limit. Without room for the digits nothing but a zero
is written. -/
theorem coordinate_rounds (hx : exact x = .finite v) (places : Nat) :
    (placesLimit < places → coordinate x places = .error .unfitValue) ∧
      (places + 310 ≤ placesLimit → hasRoom v (places + 1) = true) ∧
      (places ≤ placesLimit → hasRoom v places = false → coordinate x places = .ok "0") ∧
      (places ≤ placesLimit → hasRoom v (places + 1) = true →
        ∃ text m, coordinate x places = .ok text ∧
          IsCoordinate v.value places m text ∧
          (∀ other k, IsCanonical other k (m / 10 ^ places) → other = text) ∧
          |(m : ℚ) / 10 ^ places - v.value| ≤ 1 / 2 / 10 ^ places ∧
          ∀ y w, exact y = .finite w → hasRoom w (places + 1) = true →
            ∃ text' m', coordinate y places = .ok text' ∧
              IsCoordinate w.value places m' text' ∧
              (v.value ≤ w.value → (m : ℚ) / 10 ^ places ≤ m' / 10 ^ places) ∧
              (text = text' ↔ m = m')) := by
  refine ⟨coordinate_of_limit_lt x, fun hfar => hasRoom_of_le hx (by push_cast; omega),
    fun hlimit hroom => ?_, fun hlimit hroom => ?_⟩
  · rw [coordinate_eq hx hlimit, hroom]
    rfl
  · have hless := Nat.le_succ places
    obtain ⟨text, m, htext, h⟩ := coordinate_of_finite hx hlimit (hasRoom_mono hless hroom)
    obtain ⟨k, -, hk⟩ := h.written
    refine ⟨text, m, htext, h, fun other k hother => hother.unique hk, h.abs_sub_le,
      fun y w hy hroom' => ?_⟩
    obtain ⟨text', m', htext', h'⟩ := coordinate_of_finite hy hlimit (hasRoom_mono hless hroom')
    exact ⟨text', m', htext', h', h.mono h', h.text_eq_iff h'⟩

/-- A half is rounded to the even number of units. -/
theorem coordinate_rounds_half : exact 2.5 = .finite ⟨false, 5629499534213120, -51⟩ ∧
    ((0 : Nat) : Int) ≤ placesLimit ∧ ∃ m, coordinate 2.5 (0 : Nat) = .ok "2" ∧
      IsCoordinate (Number.Dyadic.value ⟨false, 5629499534213120, -51⟩) 0 m "2" := by
  have hx : exact 2.5 = .finite ⟨false, 5629499534213120, -51⟩ := by decide +kernel
  have hlimit : ((0 : Nat) : Int) ≤ placesLimit := by decide
  obtain ⟨-, hroom, -, hrounds⟩ := coordinate_rounds hx 0
  obtain ⟨text, m, htext, h, -⟩ := hrounds hlimit (hroom (by decide))
  have htwo : coordinate 2.5 (0 : Nat) = .ok "2" := by decide +kernel
  obtain rfl := Except.ok.inj (htext.symm.trans htwo)
  exact ⟨hx, hlimit, m, htwo, h⟩

/-- With the most decimals that can be asked for a finite double is written as a zero, and with one
more it is not written. -/
theorem coordinate_not_written :
    isFinite 1.5 = true ∧ coordinate 1.5 2147483647 = .ok "0" ∧
      ¬∃ text, coordinate 1.5 2147483648 = .ok text := by
  refine ⟨by decide +kernel, by decide +kernel, ?_⟩
  rintro ⟨text, h⟩
  rw [coordinate, places?, if_neg (by decide)] at h
  cases h

end Record

end CopperRoute
