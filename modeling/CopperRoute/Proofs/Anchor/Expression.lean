import CopperRoute.Anchor
import CopperRoute.Proofs.Number.Rounded
import CopperRoute.Proofs.Text.Runs

/-!
# Which texts are placement expressions

    text ──ofExpression──▶ anchor        IsExpression text anchor

A placement expression is two or three numerals behind the word `at`, between parentheses. Its
numbers are read in two steps, first for their outline and then as numerals. The outline is looser
in the places of points and stricter in the signs; what passes both is a numeral that has no sign
but a minus (`isNumberOutline_and_numeral_iff`). Main statement: `ofExpression_accepts_expressions`.
-/

namespace CopperRoute.Anchor

open Number Text

variable {cs inner : List Char} {x : Float} {n : Numeral} {a : Anchor}

/-- `cs` is a placement expression for the anchor `a`. -/
inductive IsExpression : List Char → Anchor → Prop
  | plain {left inner right xs ys x y} : (∀ c ∈ left, isBlank c = true) →
      (∀ c ∈ right, isBlank c = true) → Runs isBlank [['a', 't'], xs, ys] inner →
      Denotes IsMinus xs x → Denotes IsMinus ys y →
      IsExpression (left ++ ('(' :: (inner ++ [')'])) ++ right) ⟨x, y, 0⟩
  | turned {left inner right xs ys rs x y angle} : (∀ c ∈ left, isBlank c = true) →
      (∀ c ∈ right, isBlank c = true) → Runs isBlank [['a', 't'], xs, ys, rs] inner →
      Denotes IsMinus xs x → Denotes IsMinus ys y → Denotes IsMinus rs angle →
      IsExpression (left ++ ('(' :: (inner ++ [')'])) ++ right) ⟨x, y, angle⟩

/-! ## Numbers -/

def inMantissa (c : Char) : Bool := isDecimal c || c == '.'

/-- The outline of a text is looked at behind its minus. -/
theorem isNumberOutline_append {sign rest : List Char} {negative : Bool}
    (hsign : IsMinus sign negative) (hrest : ∀ c ∈ rest.head?, c ≠ '-') :
    isNumberOutline (sign ++ rest) = (!(rest.takeWhile inMantissa).isEmpty &&
      (exponent? (rest.dropWhile inMantissa)).isSome) := by
  cases hsign with
  | minus => rfl
  | none =>
    rw [List.nil_append]
    unfold isNumberOutline
    split
    · exact absurd rfl (hrest '-' rfl)
    · rfl

theorem isNumberOutline_of_writes (h : Writes IsMinus cs n) : isNumberOutline cs = true := by
  obtain @⟨sign, negative, mantissa, whole, fraction, scale, e, hsign, hmantissa, hscale⟩ := h
  have hinside : ∀ c ∈ mantissa, inMantissa c = true := fun c hc => by
    rcases hmantissa.forall_mem c hc with hc | rfl
    · simp [inMantissa, hc]
    · rfl
  have houtside : ∀ c ∈ scale.head?, inMantissa c = false := fun c hc => by
    rcases hscale.head c hc with rfl | rfl <;> decide
  obtain ⟨c, tail, heq, hc⟩ := hmantissa.head scale
  obtain ⟨d, ds, hcons, -⟩ := hmantissa.head []
  rw [List.append_nil] at hcons
  rw [List.append_assoc, isNumberOutline_append hsign, takeWhile_append_of_head? hinside houtside,
    dropWhile_append_of_head? hinside houtside, exponent?_eq_some_iff.2 hscale, hcons]
  · rfl
  · rw [heq]
    rintro _ ⟨⟩ rfl
    rcases hc with hc | hc
    · exact absurd hc (by decide)
    · exact absurd hc (by decide)

/-- An outline has no plus. -/
theorem isMinus_of_isNumberOutline {sign rest : List Char} {negative : Bool}
    (hsign : IsSign sign negative) (h : isNumberOutline (sign ++ rest) = true) :
    IsMinus sign negative := by
  cases hsign with
  | none => exact .none
  | minus => exact .minus
  | plus =>
    have hplus := @isNumberOutline_append [] ('+' :: rest) _ .none (by simp)
    rw [List.takeWhile_cons_of_neg (by decide)] at hplus
    cases hplus.symm.trans h

/-- What has an outline and is a numeral is a numeral without a plus. -/
theorem isNumberOutline_and_numeral_iff :
    isNumberOutline cs = true ∧ Numeral.ofChars? cs = some n ↔ Writes IsMinus cs n := by
  rw [ofChars?_eq_some_iff]
  constructor
  · rintro ⟨houtline, hsign, hmantissa, hscale⟩
    rw [List.append_assoc] at houtline
    exact .intro (isMinus_of_isNumberOutline hsign houtline) hmantissa hscale
  · exact fun h => ⟨isNumberOutline_of_writes h, h.isSign⟩

/-- The numbers are read one by one. -/
theorem numbers_iff {numbers : List (List Char)} {xs : List Float} :
    numbers.all isNumberOutline = true ∧
        numbers.mapM (fun cs => (Numeral.ofChars? cs).map Numeral.toFloat) = some xs ↔
      List.Forall₂ (Denotes IsMinus) numbers xs := by
  induction numbers generalizing xs with
  | nil => simp [eq_comm]
  | cons cs numbers ih =>
    have hfirst {x : Float} : Denotes IsMinus cs x ↔ isNumberOutline cs = true ∧
        (Numeral.ofChars? cs).map Numeral.toFloat = some x := by
      simp only [Denotes, ← isNumberOutline_and_numeral_iff, isRounded_iff_toFloat,
        Option.map_eq_some_iff]
      simp only [and_assoc, exists_and_left]
    simp only [List.all_cons, Bool.and_eq_true, List.mapM_cons, Option.bind_eq_bind,
      Option.bind_eq_some_iff, Option.pure_def, Option.some.injEq]
    constructor
    · rintro ⟨⟨houtline, houtlines⟩, x, hx, xs, hxs, rfl⟩
      exact .cons (hfirst.2 ⟨houtline, hx⟩) (ih.1 ⟨houtlines, hxs⟩)
    · rintro (_ | ⟨hx, hxs⟩)
      obtain ⟨houtline, hx⟩ := hfirst.1 hx
      obtain ⟨houtlines, hxs⟩ := ih.2 hxs
      exact ⟨⟨houtline, houtlines⟩, _, hx, _, hxs, rfl⟩

/-! ## Expressions -/

theorem innerWords?_eq_some_iff {ws : List (List Char)} : innerWords? cs = some ws ↔
    ∃ left inner right, (∀ c ∈ left, isBlank c = true) ∧ (∀ c ∈ right, isBlank c = true) ∧
      Runs isBlank ws inner ∧ cs = left ++ ('(' :: (inner ++ [')'])) ++ right := by
  constructor
  · intro h
    obtain ⟨⟨left, right, hcs, hleft, hright⟩, -, -⟩ := stripped_trim cs
    unfold innerWords? at h
    split at h
    · next rest htrim =>
      split at h
      · next hlast =>
        have hlast : ')' ∈ rest.getLast? := by simpa using hlast
        rw [htrim, ← List.dropLast_append_getLast? _ hlast] at hcs
        exact ⟨left, _, right, hleft, hright, splitRuns_eq_iff.1 (Option.some.inj h), hcs⟩
      · cases h
    · cases h
  · rintro ⟨left, inner, right, hleft, hright, hruns, rfl⟩
    have htrim : trim (left ++ ('(' :: (inner ++ [')'])) ++ right) = '(' :: (inner ++ [')']) := by
      refine trim_eq_of_stripped ⟨⟨left, right, rfl, hleft, hright⟩, ?_, ?_⟩
      · rintro _ ⟨⟩
        decide
      · rw [← List.cons_append, List.getLast?_concat]
        rintro _ ⟨⟩
        decide
    rw [innerWords?, htrim]
    simp [words, splitRuns_eq_iff.2 hruns]

theorem isExpression_iff : IsExpression cs a ↔ ∃ numbers xs,
    innerWords? cs = some (['a', 't'] :: numbers) ∧ List.Forall₂ (Denotes IsMinus) numbers xs ∧
      ofNumbers? xs = some a := by
  constructor
  · rintro (⟨hleft, hright, hruns, hx, hy⟩ | ⟨hleft, hright, hruns, hx, hy, hangle⟩)
    · exact ⟨_, _, innerWords?_eq_some_iff.2 ⟨_, _, _, hleft, hright, hruns, rfl⟩,
        .cons hx (.cons hy .nil), rfl⟩
    · exact ⟨_, _, innerWords?_eq_some_iff.2 ⟨_, _, _, hleft, hright, hruns, rfl⟩,
        .cons hx (.cons hy (.cons hangle .nil)), rfl⟩
  · rintro ⟨numbers, xs, hwords, hnumbers, ha⟩
    obtain ⟨left, inner, right, hleft, hright, hruns, rfl⟩ := innerWords?_eq_some_iff.1 hwords
    unfold ofNumbers? at ha
    split at ha
    · obtain rfl := Option.some.inj ha
      obtain _ | ⟨hx, _ | ⟨hy, _ | _⟩⟩ := hnumbers
      exact .plain hleft hright hruns hx hy
    · obtain rfl := Option.some.inj ha
      obtain _ | ⟨hx, _ | ⟨hy, _ | ⟨hangle, _ | _⟩⟩⟩ := hnumbers
      exact .turned hleft hright hruns hx hy hangle
    · cases ha

theorem outlines?_eq_some_iff {numbers : List (List Char)} : outlines? cs = some numbers ↔
    innerWords? cs = some (['a', 't'] :: numbers) ∧ (numbers.length = 2 ∨ numbers.length = 3) ∧
      numbers.all isNumberOutline = true := by
  unfold outlines?
  split
  · next ws hwords =>
    rw [hwords, Option.some.injEq, List.cons.injEq, Option.ite_none_right_eq_some]
    simp only [Bool.and_eq_true, Bool.or_eq_true, beq_iff_eq, true_and, Option.some.injEq]
    constructor
    · rintro ⟨⟨hlength, houtlines⟩, rfl⟩
      exact ⟨rfl, hlength, houtlines⟩
    · rintro ⟨rfl, hlength, houtlines⟩
      exact ⟨⟨hlength, houtlines⟩, rfl⟩
  · next hother =>
    constructor
    · rintro ⟨⟩
    · exact fun h => absurd h.1 (hother numbers)

theorem length_of_ofNumbers? {xs : List Float} (h : ofNumbers? xs = some a) :
    xs.length = 2 ∨ xs.length = 3 := by
  unfold ofNumbers? at h
  split at h
  · exact .inl rfl
  · exact .inr rfl
  · cases h

theorem ofExpression_eq_ok_iff {text : String} :
    ofExpression text = .ok a ↔ IsExpression text.toList a := by
  rw [isExpression_iff]
  constructor
  · intro h
    unfold ofExpression at h
    split at h
    · cases h
    · next numbers houtlines =>
      obtain ⟨hwords, -, hall⟩ := outlines?_eq_some_iff.1 houtlines
      dsimp only at h
      split at h
      · next hanchor =>
        obtain rfl := Except.ok.inj h
        obtain ⟨xs, hxs, ha⟩ := Option.bind_eq_some_iff.1 hanchor
        exact ⟨numbers, xs, hwords, numbers_iff.1 ⟨hall, hxs⟩, ha⟩
      · cases h
  · rintro ⟨numbers, xs, hwords, hnumbers, ha⟩
    obtain ⟨hall, hxs⟩ := numbers_iff.2 hnumbers
    have hlength := hnumbers.length_eq ▸ length_of_ofNumbers? ha
    rw [ofExpression, outlines?_eq_some_iff.2 ⟨hwords, hlength, hall⟩]
    dsimp only
    rw [hxs, Option.bind_eq_bind, Option.bind_some, ha]

theorem error_of_ofExpression {text : String} {cause : AnchorCause}
    (h : ofExpression text = .error cause) : cause = .badForm text ∨ cause = .badNumber text := by
  unfold ofExpression at h
  split at h
  · exact .inl (Except.error.inj h).symm
  · dsimp only at h
    split at h
    · cases h
    · exact .inr (Except.error.inj h).symm

/-- A text gives an anchor exactly if it is a placement expression, and the anchor that it is one
for. Any other text is reported as an unfit value, with the text as it was given. -/
theorem ofExpression_accepts_expressions (text : String) :
    (∀ a, ofExpression text = .ok a ↔ IsExpression text.toList a) ∧
      ((∀ a, ¬IsExpression text.toList a) → ∃ cause, ofExpression text = .error cause ∧
        cause.report.kind = .badValue ∧ cause.report.context = [("text", .text text)]) := by
  refine ⟨fun a => ofExpression_eq_ok_iff, fun hnone => ?_⟩
  cases h : ofExpression text with
  | ok a => exact absurd (ofExpression_eq_ok_iff.1 h) (hnone a)
  | error cause =>
    refine ⟨cause, rfl, ?_⟩
    rcases error_of_ofExpression h with rfl | rfl <;> exact ⟨rfl, rfl⟩

end CopperRoute.Anchor
