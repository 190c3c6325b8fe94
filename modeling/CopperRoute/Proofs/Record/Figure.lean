import Mathlib
import CopperRoute.Proofs.Number.Digits
import CopperRoute.Proofs.Sexp.Reading
import CopperRoute.Record.Written

/-!
# Figures are words

Every figure of a record is made of digits, small letters, points and signs, and never empty. So it
stands as a bare atom and is read back whole, however long it is and whether or not it is a finite
number. Main statements: `isWord_coordinateText`, `isWord_sizeText` and `isWord_toString`.

A coordinate is written also where it is infinite or no number at all; it is a decimal numeral
exactly if it is finite (`isDecimal_coordinateText_iff`).
-/

namespace CopperRoute

open Sexp (IsWord)

namespace Number

/-- The characters of figures, of the words for infinity and for no number among them. -/
def isFigure (c : Char) : Bool := c.isDigit || c.isLower || c == '.' || c == '-' || c == '+'

/-- No character of a figure ends an atom. -/
theorem isDelimiter_of_isFigure {c : Char} (h : isFigure c = true) :
    Sexp.isDelimiter c = false := by
  have hcode : c.toNat = 43 ∨ c.toNat = 45 ∨ c.toNat = 46 ∨ (48 ≤ c.toNat ∧ c.toNat ≤ 57) ∨
      (97 ≤ c.toNat ∧ c.toNat ≤ 122) := by
    simp only [isFigure, Char.isDigit, Char.isLower, Bool.or_eq_true, Bool.and_eq_true,
      decide_eq_true_eq, beq_iff_eq, ge_iff_le, UInt32.le_iff_toNat_le] at h
    rcases h with (((hdigit | hletter) | rfl) | rfl) | rfl
    · exact .inr (.inr (.inr (.inl hdigit)))
    · exact .inr (.inr (.inr (.inr hletter)))
    all_goals decide
  have hne (d : Char) (hd : d.toNat ≠ c.toNat) : (c == d) = false := by
    rw [beq_eq_false_iff_ne]
    rintro rfl
    exact hd rfl
  have hblank : Text.isBlank c = false := by
    simp only [Text.isBlank, Bool.or_eq_false_iff, Bool.and_eq_false_iff, decide_eq_false_iff_not,
      beq_eq_false_iff_ne]
    omega
  rw [Sexp.isDelimiter, hblank, hne '(' (by change 40 ≠ _; omega),
    hne ')' (by change 41 ≠ _; omega), hne '"' (by change 34 ≠ _; omega)]
  rfl

theorem isWord_of_figures {cs : List Char} (hne : cs ≠ []) (h : ∀ c ∈ cs, isFigure c = true) :
    IsWord cs :=
  ⟨hne, fun c hc => isDelimiter_of_isFigure (h c hc)⟩

/-! ## Digits -/

theorem isFigure_of_isDigit {c : Char} (h : c.isDigit = true) : isFigure c = true := by
  simp [isFigure, h]

theorem figures_decimalDigits (n : Nat) : ∀ c ∈ decimalDigits n, isFigure c = true :=
  fun c hc => isFigure_of_isDigit (isDigit_decimalDigits n c hc)

theorem decimalDigits_ne_nil (n : Nat) : decimalDigits n ≠ [] := Nat.toDigits_ne_nil

theorem figures_lastDigits (n places : Nat) : ∀ c ∈ lastDigits n places, isFigure c = true :=
  fun c hc => isFigure_of_isDigit (isDigit_lastDigits n places c hc)

theorem figures_replicate (n : Nat) : ∀ c ∈ List.replicate n '0', isFigure c = true := by
  intro c hc
  rw [List.eq_of_mem_replicate hc]
  decide

/-! ## Numbers -/

theorem figures_sign (negative : Bool) :
    ∀ c ∈ (if negative then ['-'] else []), isFigure c = true := by
  cases negative with
  | false => exact fun c hc => nomatch hc
  | true => exact List.forall_mem_singleton.2 rfl

/-- A sign, digits and a fraction make a word. -/
theorem isWord_pointText (negative : Bool) {whole fraction : List Char} (hne : whole ≠ [])
    (hwhole : ∀ c ∈ whole, isFigure c = true) (hfraction : ∀ c ∈ fraction, isFigure c = true) :
    IsWord (pointText negative whole fraction).toList := by
  have htail : ∀ c ∈ (if fraction.isEmpty then [] else '.' :: fraction), isFigure c = true := by
    split
    · exact fun c hc => nomatch hc
    · exact List.forall_mem_cons.2 ⟨by decide, hfraction⟩
  rw [pointText, String.toList_ofList]
  exact isWord_of_figures (by simp [hne])
    (List.forall_mem_append.2 ⟨List.forall_mem_append.2 ⟨figures_sign negative, hwhole⟩, htail⟩)

theorem isWord_infinityText (negative : Bool) : IsWord (infinityText negative).toList := by
  cases negative <;> exact isWord_of_figures (by decide) (List.all_eq_true.1 (by decide))

/-- A whole number is written as a word. -/
theorem isWord_toString (i : Int) : IsWord (toString i).toList := by
  show IsWord i.repr.toList
  rw [Int.repr_eq_if]
  split
  · rw [Nat.toList_repr]
    exact isWord_of_figures (decimalDigits_ne_nil _) (figures_decimalDigits _)
  · rw [String.toList_append, Nat.toList_repr]
    exact isWord_of_figures (by simp)
      (List.forall_mem_append.2 ⟨List.forall_mem_singleton.2 rfl, figures_decimalDigits _⟩)

/-! ## Shortest decimals -/

variable {ds : List Char} {place : Int}

theorem figures_positional (h : ∀ c ∈ ds, isFigure c = true) :
    ∀ c ∈ positional ds place, isFigure c = true := by
  unfold positional
  split
  · exact List.forall_mem_cons.2 ⟨by decide, List.forall_mem_cons.2 ⟨by decide,
      List.forall_mem_append.2 ⟨figures_replicate _, h⟩⟩⟩
  · refine List.forall_mem_append.2 ⟨List.forall_mem_append.2 ⟨?_, figures_replicate _⟩,
      List.forall_mem_cons.2 ⟨by decide, ?_⟩⟩
    · exact fun c hc => h c (List.mem_of_mem_take hc)
    · split
      · exact List.forall_mem_singleton.2 rfl
      · exact fun c hc => h c (List.mem_of_mem_drop hc)

theorem figures_exponentText (e : Int) : ∀ c ∈ exponentText e, isFigure c = true := by
  refine List.forall_mem_cons.2 ⟨by decide, List.forall_mem_cons.2 ⟨?_, ?_⟩⟩
  · split <;> decide
  · split
    · exact List.forall_mem_cons.2 ⟨by decide, figures_decimalDigits _⟩
    · exact figures_decimalDigits _

theorem figures_scientific (h : ∀ c ∈ ds, isFigure c = true) :
    ∀ c ∈ scientific ds place, isFigure c = true := by
  refine List.forall_mem_append.2 ⟨?_, figures_exponentText place⟩
  split
  · exact h
  · exact h
  · obtain ⟨hfirst, hrest⟩ := List.forall_mem_cons.1 h
    exact List.forall_mem_cons.2 ⟨hfirst, List.forall_mem_cons.2 ⟨by decide, hrest⟩⟩

theorem Dyadic.isWord_text (v : Dyadic) : IsWord v.text := by
  have hsign := figures_sign v.negative
  have hdigits := figures_decimalDigits v.shortest.digits
  unfold Dyadic.text
  dsimp only
  generalize (if v.negative then ['-'] else []) = sign at hsign ⊢
  split
  · exact isWord_of_figures (by simp) (List.forall_mem_append.2 ⟨hsign, List.all_eq_true.1 (by decide)⟩)
  · split
    · refine isWord_of_figures ?_ (List.forall_mem_append.2 ⟨hsign, figures_positional hdigits⟩)
      unfold positional
      split <;> simp
    · refine isWord_of_figures ?_ (List.forall_mem_append.2 ⟨hsign, figures_scientific hdigits⟩)
      simp [scientific, exponentText]

theorem isWord_text (x : Float) : IsWord (text x).toList := by
  unfold text
  split
  · rw [String.toList_ofList]
    exact Dyadic.isWord_text _
  · exact isWord_infinityText _
  · exact isWord_of_figures (by decide) (List.all_eq_true.1 (by decide))

end Number

namespace Record

open Number

/-- A coordinate is written as a word, whatever the double and the number of decimals. -/
theorem isWord_coordinateText (x : Float) (places : Nat) :
    IsWord (coordinateText x places).toList := by
  unfold coordinateText
  split
  · next v _ =>
    split
    · refine isWord_pointText _ (decimalDigits_ne_nil _) (figures_decimalDigits _) fun c hc => ?_
      have hmem := List.dropWhile_subset _ (List.mem_reverse.1 hc)
      exact figures_lastDigits _ _ c (List.mem_reverse.1 hmem)
    · exact isWord_of_figures (by decide) (List.all_eq_true.1 (by decide))
  · exact isWord_infinityText _
  · exact isWord_of_figures (by decide) (List.all_eq_true.1 (by decide))

/-- A decimal numeral: digits, maybe with a minus before them, and maybe with a point and more digits
behind them. -/
def IsDecimal (s : String) : Prop :=
  ∃ negative whole fraction, s = pointText negative whole fraction ∧ whole ≠ [] ∧
    (∀ c ∈ whole, c.isDigit = true) ∧ ∀ c ∈ fraction, c.isDigit = true

/-- There are no letters in a decimal numeral. -/
theorem IsDecimal.plain {s : String} (h : IsDecimal s) :
    ∀ c ∈ s.toList, c.isDigit = true ∨ c = '-' ∨ c = '.' := by
  obtain ⟨negative, whole, fraction, rfl, -, hwhole, hfraction⟩ := h
  intro c hc
  rw [pointText, String.toList_ofList, List.mem_append, List.mem_append] at hc
  rcases hc with (hsign | hc) | htail
  · cases negative with
    | false => cases hsign
    | true => exact .inr (.inl (List.mem_singleton.1 hsign))
  · exact .inl (hwhole c hc)
  · split at htail
    · cases htail
    · rcases List.mem_cons.1 htail with rfl | hc
      · exact .inr (.inr rfl)
      · exact .inl (hfraction c hc)

theorem isDecimal_unitsText (negative : Bool) (units places : Nat) :
    IsDecimal (unitsText negative units places) := by
  refine ⟨_, _, _, rfl, decimalDigits_ne_nil _, isDigit_decimalDigits _, fun c hc => ?_⟩
  have hmem := List.dropWhile_subset _ (List.mem_reverse.1 hc)
  exact isDigit_lastDigits _ _ c (List.mem_reverse.1 hmem)

/-- The coordinates that are written as decimal numerals are the finite ones. -/
theorem isDecimal_coordinateText_iff {x : Float} {places : Nat} :
    IsDecimal (coordinateText x places) ↔ isFinite x = true := by
  unfold coordinateText isFinite
  cases exact x with
  | finite v =>
    simp only [iff_true]
    split
    · exact isDecimal_unitsText _ _ _
    · exact ⟨false, ['0'], [], rfl, by decide, List.forall_mem_singleton.2 rfl, by simp⟩
  | infinite negative =>
    simp only [Bool.false_eq_true, iff_false]
    intro h
    have hletter := h.plain 'n' (by cases negative <;> decide)
    revert hletter
    decide
  | undefined =>
    simp only [Bool.false_eq_true, iff_false]
    intro h
    have hletter := h.plain 'n' (by decide)
    revert hletter
    decide

/-- A size that has a written form is written as a word. -/
theorem isWord_sizeText {x : Float} {text : String} (h : sizeText x = .ok text) :
    IsWord text.toList := by
  unfold sizeText at h
  split at h
  · obtain rfl := Except.ok.inj h
    split
    · exact isWord_toString _
    · exact isWord_text x
  · cases h
  · cases h

/-- Every finite size has a written form. -/
theorem sizeText_of_isFinite {x : Float} (h : isFinite x = true) :
    ∃ text, sizeText x = .ok text := by
  unfold isFinite at h
  split at h
  · next v hv =>
    rw [sizeText, hv]
    exact ⟨_, rfl⟩
  · cases h

end Record

end CopperRoute
