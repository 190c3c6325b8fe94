import CopperRoute.Number.Double
import CopperRoute.Proofs.Number.Numeral
import Mathlib

/-!
# The numbers that digits write

    n ──decimalDigits──▶ digits ──digitsValue──▶ n

`digitsValue` is the number that a run of digits writes, of whatever script. For the plain digits
that this library writes itself it gives back what was written: `digitsValue_decimalDigits` for
whole numbers, `digitsValue_lastDigits` for the decimals behind a point. Written again, plain digits
come out as they were (`lastDigits_digitsValue`), for a whole number if there is no zero in front of
them (`decimalDigits_digitsValue`).
-/

namespace CopperRoute.Number

open CopperRoute.Text

variable {cs : List Char}

/-! ## Plain digits -/

theorem digitValue?_of_isDigit {c : Char} (h : c.isDigit = true) :
    digitValue? c = some (c.toNat - 48) := by
  have hcode : 48 ≤ c.toNat ∧ c.toNat < 48 + 10 := by
    simp only [Char.isDigit, Bool.and_eq_true, decide_eq_true_eq, ge_iff_le,
      UInt32.le_iff_toNat_le] at h
    exact ⟨h.1, Nat.lt_succ_of_le h.2⟩
  rw [digitValue?, digitZeros, List.find?_cons_of_pos (by simpa using hcode)]
  rfl

theorem isDecimal_of_isDigit {c : Char} (h : c.isDigit = true) : isDecimal c = true := by
  rw [isDecimal, digitValue?_of_isDigit h]
  rfl

theorem digitsValue_eq_ofDigitChars (h : ∀ c ∈ cs, c.isDigit = true) :
    digitsValue cs = Nat.ofDigitChars 10 cs 0 := by
  rw [digitsValue, Nat.ofDigitChars_eq_foldl]
  refine List.foldl_ext _ _ 0 fun n c hc => ?_
  rw [digitValue?_of_isDigit (h c hc)]
  rfl

theorem isDecimal_replicate (k : Nat) : ∀ c ∈ List.replicate k '0', isDecimal c = true := by
  intro c hc
  rw [List.eq_of_mem_replicate hc]
  exact isDecimal_of_isDigit rfl

theorem isDigits_zero : IsDigits ['0'] := ⟨List.cons_ne_nil _ _, isDecimal_replicate 1⟩

/-! ## Runs of digits put together -/

theorem digitsValue_concat (ds : List Char) (d : Char) :
    digitsValue (ds ++ [d]) = 10 * digitsValue ds + digitsValue [d] := by
  simp [digitsValue]

theorem digitsValue_append (cs ds : List Char) :
    digitsValue (cs ++ ds) = digitsValue cs * 10 ^ ds.length + digitsValue ds := by
  induction ds using List.reverseRecOn with
  | nil => simp [digitsValue]
  | append_singleton ds d ih =>
    rw [← List.append_assoc, digitsValue_concat, digitsValue_concat, ih, List.length_append,
      List.length_singleton]
    ring

theorem digitValue_lt {c : Char} : (digitValue? c).getD 0 < 10 := by
  unfold digitValue?
  cases hzero : digitZeros.find? fun z => z ≤ c.toNat && c.toNat < z + 10 with
  | none => simp
  | some start =>
    have hrange := List.find?_some hzero
    simp only [Bool.and_eq_true, decide_eq_true_eq] at hrange
    simp only [Option.map_some, Option.getD_some]
    omega

theorem digitsValue_singleton_lt (c : Char) : digitsValue [c] < 10 := by
  simpa [digitsValue] using digitValue_lt

/-- A number has no more digits than it is written with. -/
theorem digitsValue_lt {limit : Nat} (h : cs.length ≤ limit) :
    digitsValue cs < Nat.pow 10 limit := by
  induction cs using List.reverseRecOn generalizing limit with
  | nil => exact Nat.pow_pos (by decide)
  | append_singleton cs c ih =>
    cases limit with
    | zero => simp at h
    | succ limit =>
      have hbefore : digitsValue cs < Nat.pow 10 limit := ih (by simpa using h)
      have hdigit := digitsValue_singleton_lt c
      have hpow : Nat.pow 10 (limit + 1) = 10 * Nat.pow 10 limit := Nat.mul_comm ..
      rw [digitsValue_concat]
      omega

@[simp] theorem digitsValue_replicate (k : Nat) : digitsValue (List.replicate k '0') = 0 := by
  induction k with
  | zero => rfl
  | succ k ih =>
    rw [List.replicate_succ', digitsValue_append, ih, Nat.zero_mul, Nat.zero_add]
    decide

/-- Zeros in front do not count. -/
theorem digitsValue_replicate_append (k : Nat) (ds : List Char) :
    digitsValue (List.replicate k '0' ++ ds) = digitsValue ds := by
  rw [digitsValue_append, digitsValue_replicate, Nat.zero_mul, Nat.zero_add]

theorem digitsValue_zero_cons (ds : List Char) : digitsValue ('0' :: ds) = digitsValue ds :=
  digitsValue_replicate_append 1 ds

/-- Each zero behind counts ten times. -/
theorem digitsValue_append_replicate (ds : List Char) (k : Nat) :
    digitsValue (ds ++ List.replicate k '0') = digitsValue ds * 10 ^ k := by
  rw [digitsValue_append, digitsValue_replicate, List.length_replicate, Nat.add_zero]

/-! ## Written numbers -/

theorem isDigit_decimalDigits (n : Nat) : ∀ c ∈ decimalDigits n, c.isDigit = true :=
  fun _ h => Nat.isDigit_of_mem_toDigits (by decide) (by decide) h

theorem isDigits_decimalDigits (n : Nat) : IsDigits (decimalDigits n) :=
  ⟨Nat.toDigits_ne_nil, fun c hc => isDecimal_of_isDigit (isDigit_decimalDigits n c hc)⟩

theorem digitsValue_decimalDigits (n : Nat) : digitsValue (decimalDigits n) = n := by
  rw [digitsValue_eq_ofDigitChars (isDigit_decimalDigits n)]
  exact Nat.ofDigitChars_toDigits (by decide) (by decide)

theorem isDigit_lastDigits (n places : Nat) : ∀ c ∈ lastDigits n places, c.isDigit = true := by
  induction places generalizing n with
  | zero => exact fun c h => nomatch h
  | succ places ih =>
    have hdigit : ∀ d < 10, (Nat.digitChar d).isDigit = true := by decide
    refine List.forall_mem_append.2 ⟨ih (n / 10), ?_⟩
    rw [List.forall_mem_singleton]
    exact hdigit (n % 10) (by omega)

@[simp] theorem length_lastDigits (n places : Nat) : (lastDigits n places).length = places := by
  induction places generalizing n with
  | zero => rfl
  | succ places ih => rw [lastDigits, List.length_append, ih, List.length_singleton]

theorem digitsValue_lastDigits (n places : Nat) :
    digitsValue (lastDigits n places) = n % 10 ^ places := by
  induction places generalizing n with
  | zero => simp [lastDigits, digitsValue, Nat.mod_one]
  | succ places ih =>
    have hdigit : ∀ d < 10, digitsValue [Nat.digitChar d] = d := by decide
    rw [lastDigits, digitsValue_concat, ih, hdigit _ (Nat.mod_lt n (by decide)),
      pow_succ' 10 places, Nat.mod_mul]
    ring

/-! ## Digits that are read and written again -/

theorem digitChar_digitsValue {c : Char} (h : c.isDigit = true) :
    Nat.digitChar (digitsValue [c]) = c := by
  have hvalue : digitsValue [c] = c.toNat - 48 := by
    rw [digitsValue, List.foldl_cons, digitValue?_of_isDigit h]
    simp
  have hcode : 48 ≤ c.toNat ∧ c.toNat ≤ 57 := by
    simpa [Char.isDigit, UInt32.le_iff_toNat_le] using h
  rw [hvalue]
  apply Char.toNat_inj.1
  rw [Nat.toNat_digitChar_of_lt_ten (by omega)]
  omega

theorem lastDigits_digitsValue {ds : List Char} (h : ∀ c ∈ ds, c.isDigit = true) :
    lastDigits (digitsValue ds) ds.length = ds := by
  induction ds using List.reverseRecOn with
  | nil => rfl
  | append_singleton ds d ih =>
    obtain ⟨hds, hd⟩ := List.forall_mem_append.1 h
    have hlt := digitsValue_singleton_lt d
    have hchar := digitChar_digitsValue (hd d List.mem_cons_self)
    have hdiv : (10 * digitsValue ds + digitsValue [d]) / 10 = digitsValue ds := by omega
    have hmod : (10 * digitsValue ds + digitsValue [d]) % 10 = digitsValue [d] := by omega
    rw [List.length_append, List.length_singleton, lastDigits, digitsValue_concat, hdiv, hmod,
      hchar, ih hds]

/-- Plain digits without a zero in front, unless zero is all there is. -/
structure IsWhole (ds : List Char) : Prop where
  ne_nil : ds ≠ []
  digits : ∀ c ∈ ds, c.isDigit = true
  head : ds = ['0'] ∨ ds.head? ≠ some '0'

theorem isWhole_decimalDigits (n : Nat) : IsWhole (decimalDigits n) := by
  refine ⟨(isDigits_decimalDigits n).1, isDigit_decimalDigits n, ?_⟩
  induction n using Nat.strong_induction_on with
  | _ n ih =>
    rw [decimalDigits, Nat.toDigits_eq_if (by decide)]
    split
    · next hlt =>
      have hdigit : ∀ d < 10, [Nat.digitChar d] = ['0'] ∨ [Nat.digitChar d].head? ≠ some '0' := by
        decide
      exact hdigit n hlt
    · next hge =>
      have hvalue := digitsValue_decimalDigits (n / 10)
      rcases ih (n / 10) (by omega) with hzero | hhead
      · rw [hzero, digitsValue_zero_cons] at hvalue
        have : n / 10 = 0 := hvalue.symm
        omega
      · right
        rw [List.head?_append_of_ne_nil _ Nat.toDigits_ne_nil]
        exact hhead

/-- A whole number has one such run of digits. -/
theorem decimalDigits_digitsValue {ds : List Char} (h : IsWhole ds) :
    decimalDigits (digitsValue ds) = ds := by
  induction ds using List.reverseRecOn with
  | nil => exact absurd rfl h.ne_nil
  | append_singleton ds d ih =>
    obtain ⟨hds, hd⟩ := List.forall_mem_append.1 h.digits
    have hlt := digitsValue_singleton_lt d
    have hchar := digitChar_digitsValue (hd d List.mem_cons_self)
    rw [digitsValue_concat]
    by_cases hnil : ds = []
    · subst hnil
      have hzero : digitsValue [] = 0 := rfl
      rw [hzero, Nat.mul_zero, Nat.zero_add, decimalDigits, Nat.toDigits_of_lt_base hlt, hchar]
      rfl
    · -- the digits before the last have no zero in front either, and so do not write zero
      have hhead : ds.head? ≠ some '0' := by
        rcases h.head with hone | hhead
        · cases ds with
          | nil => exact absurd rfl hnil
          | cons c ds => simp at hone
        · rwa [List.head?_append_of_ne_nil _ hnil] at hhead
      have hwritten := ih ⟨hnil, hds, .inr hhead⟩
      have hpos : 0 < digitsValue ds := by
        rw [Nat.pos_iff_ne_zero]
        intro hzero
        rw [hzero] at hwritten
        rw [← hwritten] at hhead
        exact hhead rfl
      rw [decimalDigits, ← Nat.toDigits_append_toDigits (by decide) hpos hlt,
        Nat.toDigits_of_lt_base hlt, hchar]
      exact congrArg (· ++ [d]) hwritten

end CopperRoute.Number
