import Mathlib
import CopperRoute.Number.Double

/-!
# Doubles and their codes

A double is made from a code by taking the code apart and packing it again. Every code below that of
infinity survives this, so that `toBits` gives back what `ofCode` was given
(`toNat_toBits_ofCode`). What is known of a code is known of its double then: it is finite
(`isFinite_ofCode`), and positive if the code is (`zero_lt_ofCode`). Main statements: only finite
doubles have a finite sum (`isFinite_of_isFinite_add`), and a positive whole number within the range
of doubles becomes a positive finite double (`ofInt?_pos`).
-/

namespace CopperRoute.Number

open Float.Model Float.Model.UnpackedFloat

/-! ## Taking codes apart -/

/-- The sign, the exponent and the fraction of a code make up the whole. -/
theorem packComponents_unpack (b : BitVec 64) :
    packComponents .binary64 (Sign.ofBitVec (@unpackSign .binary64 b))
      (@unpackExponent .binary64 b) (@unpackMantissa .binary64 b) = b := by
  have hsign : ∀ s : BitVec 1, (Sign.ofBitVec s).toBitVec = s := by decide
  unfold packComponents
  rw [hsign]
  show (BitVec.extractLsb' 63 1 b ++ BitVec.extractLsb' 52 11 b) ++ BitVec.extractLsb' 0 52 b = b
  rw [BitVec.extractLsb'_append_extractLsb'_eq_extractLsb' (by decide),
    BitVec.extractLsb'_append_extractLsb'_eq_extractLsb' (by decide)]
  exact BitVec.extractLsb'_eq_self

/-- The leading bit that a code leaves out counts `2 ^ 52`. -/
theorem toNat_one_append (m : BitVec 52) : (1#1 ++ m).toNat = 2 ^ 52 + m.toNat := by
  rw [BitVec.toNat_append, ← Nat.shiftLeft_add_eq_or_of_lt m.isLt]
  rfl

/-- A finite value is packed with its exponent if its mantissa has a leading bit to leave out. -/
theorem pack_finite (s : Sign) {e m : Nat} (hm : 0 < m) (he : e < 2047) :
    UnpackedFloat.pack .binary64 (.finite s m ((e : Int) - 1075) hm) =
      packComponents .binary64 s (if m.log2 = 52 then BitVec.ofNat 11 e else 0#11)
        (BitVec.ofNat 52 m) := by
  have hbiased : ((e : Int) - 1075 + Format.binary64.exponentBias +
      Format.binary64.mantissaBitsWithoutImplicit).toNat = e := by
    show ((e : Int) - 1075 + (1023 : Nat) + (52 : Nat)).toNat = e
    omega
  unfold UnpackedFloat.pack
  simp only [hbiased]
  rw [if_neg (by simpa using he)]
  by_cases h : m.log2 = 52
  · simp [h, Format.mantissaBits]
  · simp [h, Format.mantissaBits]

/-- The code of a finite double is packed as it was. -/
theorem pack_unpack {b : BitVec 64} (h : @unpackExponent .binary64 b ≠ -1#11) :
    UnpackedFloat.pack .binary64 (UnpackedFloat.unpack .binary64 b) = b := by
  have hb := packComponents_unpack b
  generalize hs : Sign.ofBitVec (@unpackSign .binary64 b) = s at hb
  generalize he : @unpackExponent .binary64 b = e at hb h
  generalize hm : @unpackMantissa .binary64 b = m at hb
  refine Eq.trans ?_ hb
  unfold UnpackedFloat.unpack
  simp only [hs, he, hm]
  change BitVec 11 at e
  change BitVec 52 at m
  have hlt : e.toNat < 2047 := by
    have hne : e.toNat ≠ 2047 := fun hall => h (BitVec.eq_of_toNat_eq hall)
    have := e.isLt
    omega
  have hfraction := m.isLt
  rw [if_neg h]
  by_cases h0 : e = 0#11
  · subst h0
    rw [if_pos rfl]
    split
    · next hm0 =>
      rw [hm0]
      rfl
    -- a fraction without a leading bit is packed under the exponent zero
    · next hm0 =>
      have hne : m.toNat ≠ 0 := fun hz => hm0 (BitVec.eq_of_toNat_eq hz)
      have hlog : m.toNat.log2 ≠ 52 := by
        intro hlog
        have := Nat.log2_self_le hne
        rw [hlog] at this
        omega
      have hpack := pack_finite s (Nat.pos_of_ne_zero hne) (show 1 < 2047 by decide)
      rw [if_neg hlog, BitVec.ofNat_toNat, BitVec.setWidth_eq] at hpack
      exact hpack
  · rw [if_neg h0]
    have hlog : (1#1 ++ m).toNat.log2 = 52 := by
      rw [toNat_one_append, Nat.log2_eq_iff (by omega)]
      omega
    have hpack := pack_finite s (m := (1#1 ++ m).toNat) (by rw [toNat_one_append]; omega) hlt
    rw [if_pos hlog, BitVec.ofNat_toNat, BitVec.setWidth_eq] at hpack
    refine hpack.trans (congrArg _ ?_)
    apply BitVec.eq_of_toNat_eq
    rw [BitVec.toNat_ofNat, toNat_one_append]
    omega

/-- A code between those of zero and infinity is taken apart to a positive number. -/
theorem unpack_of_lt {b : BitVec 64} (hpos : 0 < b.toNat) (hlt : b.toNat < 2047 * 2 ^ 52) :
    ∃ m e hm, UnpackedFloat.unpack .binary64 b = .finite .positive m e hm := by
  have hsign : @unpackSign .binary64 b = 0#1 := by
    apply BitVec.eq_of_toNat_eq
    show (b.extractLsb' 63 1).toNat = 0
    rw [BitVec.extractLsb'_toNat, Nat.shiftRight_eq_div_pow]
    omega
  have hexponent : (@unpackExponent .binary64 b).toNat = b.toNat / 2 ^ 52 := by
    show (b.extractLsb' 52 11).toNat = b.toNat / 2 ^ 52
    rw [BitVec.extractLsb'_toNat, Nat.shiftRight_eq_div_pow]
    omega
  have hfraction : (@unpackMantissa .binary64 b).toNat = b.toNat % 2 ^ 52 := by
    show (b.extractLsb' 0 52).toNat = b.toNat % 2 ^ 52
    rw [BitVec.extractLsb'_toNat, Nat.shiftRight_eq_div_pow]
    simp
  unfold UnpackedFloat.unpack
  simp only [hsign]
  split
  · next hones =>
    have hall : b.toNat / 2 ^ 52 = 2047 := hexponent.symm.trans (congrArg BitVec.toNat hones)
    omega
  · split
    · next hzero =>
      have hnone : b.toNat / 2 ^ 52 = 0 := hexponent.symm.trans (congrArg BitVec.toNat hzero)
      have hne : (@unpackMantissa .binary64 b).toNat ≠ 0 := by omega
      split
      · next hempty => exact absurd (congrArg BitVec.toNat hempty) hne
      · exact ⟨_, _, Nat.pos_of_ne_zero hne, rfl⟩
    · refine ⟨_, _, ?_, rfl⟩
      rw [toNat_one_append]
      omega

/-! ## Doubles made from codes -/

theorem toBits_ofBits {n : UInt64} (h : n.toNat / 2 ^ 52 % 2 ^ 11 ≠ 2047) :
    (Float.ofBits n).toBits = n := by
  apply UInt64.eq_of_toBitVec_eq
  apply pack_unpack
  intro hones
  apply h
  have hextract : (n.toBitVec.extractLsb' 52 11).toNat = 2047 := congrArg BitVec.toNat hones
  rw [BitVec.extractLsb'_toNat, Nat.shiftRight_eq_div_pow] at hextract
  exact hextract

/-- A finite double keeps the code that it was made from. -/
theorem toNat_toBits_ofCode (negative : Bool) {code : Nat} (h : code < infinityCode) :
    (ofCode negative code).toBits.toNat = if negative then 2 ^ 63 + code else code := by
  have hlt : code < 2047 * 2 ^ 52 := h
  unfold ofCode
  rw [toBits_ofBits]
  · rw [UInt64.toNat_ofNat']
    show (if negative then 2 ^ 63 + code else code) % 2 ^ 64 = _
    split <;> omega
  · rw [UInt64.toNat_ofNat']
    show (if negative then 2 ^ 63 + code else code) % 2 ^ 64 / 2 ^ 52 % 2 ^ 11 ≠ 2047
    split <;> omega

theorem isFinite_ofCode (negative : Bool) {code : Nat} (h : code < infinityCode) :
    isFinite (ofCode negative code) = true := by
  have hlt : code < 2047 * 2 ^ 52 := h
  have hscale : (ofCode negative code).toBits.toNat / Nat.pow 2 52 % Nat.pow 2 11 ≠ 2047 := by
    rw [toNat_toBits_ofCode negative h]
    show (if negative then 2 ^ 63 + code else code) / 2 ^ 52 % 2 ^ 11 ≠ 2047
    split <;> omega
  unfold isFinite exact
  dsimp only
  rw [if_neg hscale]
  by_cases hzero : (ofCode negative code).toBits.toNat / Nat.pow 2 52 % Nat.pow 2 11 = 0
  · rw [if_pos hzero]
  · rw [if_neg hzero]

theorem zero_lt_ofCode {code : Nat} (h : 0 < code) (h' : code < infinityCode) :
    0 < ofCode false code := by
  have hcode : (ofCode false code).toBits.toBitVec.toNat = code := toNat_toBits_ofCode false h'
  have hlt : code < 2047 * 2 ^ 52 := h'
  obtain ⟨m, e, hm, hunpack⟩ := unpack_of_lt (by rwa [hcode]) (by rwa [hcode])
  have hunpack : (ofCode false code).toModel.unpack = .finite .positive m e hm := hunpack
  have hzero : (0 : Float).toBits = 0 := by decide +kernel
  show Float.lt 0 (ofCode false code) = true
  rw [Float.lt, decide_eq_true_iff]
  show Float.Model.lt _ _ = true
  rw [Float.Model.lt, hunpack, Float.Model.unpack, show (0 : Float).toModel.toBits = 0 from hzero]
  rfl

/-! ## Special values -/

/-- No number: infinity, or an undefined result. -/
def IsSpecial : UnpackedFloat → Prop
  | .infinity _ | .notANumber => True
  | .zero _ | .finite .. => False

/-- A double is finite unless its code is taken apart to a special value. -/
theorem isFinite_iff_not_isSpecial {x : Float} :
    isFinite x = true ↔ ¬IsSpecial x.toModel.unpack := by
  have hexponent : (@unpackExponent .binary64 x.toBits.toBitVec).toNat =
      x.toBits.toNat / 2 ^ 52 % 2 ^ 11 := by
    show (x.toBits.toBitVec.extractLsb' 52 11).toNat = _
    rw [BitVec.extractLsb'_toNat, Nat.shiftRight_eq_div_pow]
    rfl
  rw [show x.toModel.unpack = UnpackedFloat.unpack .binary64 x.toBits.toBitVec from rfl]
  unfold UnpackedFloat.unpack isFinite exact
  dsimp only
  by_cases hones : x.toBits.toNat / Nat.pow 2 52 % Nat.pow 2 11 = 2047
  · have h : @unpackExponent .binary64 x.toBits.toBitVec = -1#11 :=
      BitVec.eq_of_toNat_eq (hexponent.trans hones)
    rw [if_pos hones, if_pos h]
    split_ifs <;> simp [IsSpecial]
  · have h : @unpackExponent .binary64 x.toBits.toBitVec ≠ -1#11 :=
      fun h => hones (hexponent.symm.trans (congrArg BitVec.toNat h))
    rw [if_neg hones, if_neg h]
    split_ifs <;> simp [IsSpecial]

theorem IsSpecial.unpack_pack {u : UnpackedFloat} (h : IsSpecial u) :
    IsSpecial (Float.Model.pack u).unpack := by
  cases u with
  | infinity s => cases s <;> exact trivial
  | notANumber => exact trivial
  | zero | finite => exact h.elim

/-- No special value counts as zero. -/
theorem isFinite_of_beq_zero {x : Float} (h : (x == 0) = true) : isFinite x = true := by
  rw [isFinite_iff_not_isSpecial]
  intro hspecial
  have hzero : (0 : Float).toBits = 0 := by decide +kernel
  have hbeq : Float.Model.beq x.toModel (0 : Float).toModel = true := h
  rw [Float.Model.beq, Float.Model.unpack, Float.Model.unpack,
    show (0 : Float).toModel.toBits = 0 from hzero] at hbeq
  have hspecial : IsSpecial (UnpackedFloat.unpack .binary64 x.toModel.toBits.toBitVec) := hspecial
  cases hunpack : UnpackedFloat.unpack .binary64 x.toModel.toBits.toBitVec with
  | infinity s =>
    rw [hunpack] at hbeq
    cases s <;> cases hbeq
  | notANumber =>
    rw [hunpack] at hbeq
    cases hbeq
  | zero | finite =>
    rw [hunpack] at hspecial
    exact hspecial

/-- A special value is not made up for by what is added to it. -/
theorem IsSpecial.add {u v : UnpackedFloat} (h : IsSpecial u ∨ IsSpecial v) :
    IsSpecial (UnpackedFloat.add .binary64 u v) := by
  cases u with
  | notANumber => cases v <;> exact trivial
  | infinity s =>
    cases v with
    | infinity s' => cases s <;> cases s' <;> exact trivial
    | _ => exact trivial
  | zero | finite =>
    cases v with
    | infinity | notANumber => exact trivial
    | zero | finite => exact (h.elim id id).elim

/-- Only finite doubles have a finite sum. -/
theorem isFinite_of_isFinite_add {x y : Float} (h : isFinite (x + y) = true) :
    isFinite x = true ∧ isFinite y = true := by
  rw [isFinite_iff_not_isSpecial] at h ⊢
  rw [isFinite_iff_not_isSpecial]
  exact ⟨fun hx => h (IsSpecial.add (.inl hx)).unpack_pack,
    fun hy => h (IsSpecial.add (.inr hy)).unpack_pack⟩

/-! ## Whole numbers as doubles -/

theorem nearestCode_pos {n : Nat} (h : n ≠ 0) : 0 < nearestCode n 1 := by
  unfold nearestCode
  rw [if_neg h]
  dsimp only
  have hlog : (1 : Nat).log2 = 0 := by decide
  rw [hlog]
  -- the exponent is far above its least value
  refine Nat.lt_min.2 ⟨by decide, Nat.lt_add_right _ (Nat.mul_pos ?_ (by decide))⟩
  split <;> omega

/-- A positive whole number within the range of doubles becomes a positive finite double. -/
theorem ofInt?_pos {i : Int} {x : Float} (h : ofInt? i = some x) (hi : 0 < i) :
    isFinite x = true ∧ 0 < x := by
  unfold ofInt? at h
  dsimp only at h
  split at h
  · next hcode =>
    obtain rfl := Option.some.inj h
    refine ⟨isFinite_ofCode _ hcode, ?_⟩
    have hsign : decide (i < 0) = false := by simpa using Int.le_of_lt hi
    rw [hsign]
    exact zero_lt_ofCode (nearestCode_pos (by omega)) hcode
  · cases h

end CopperRoute.Number
