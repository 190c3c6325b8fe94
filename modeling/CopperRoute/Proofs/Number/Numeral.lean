import CopperRoute.Number.Numeral
import CopperRoute.Proofs.Text.Trim

/-!
# The grammar of numerals

    characters ──Numeral.ofChars?──▶ numeral        Writes IsSign cs n

`Writes` says which text is which numeral, one relation for each of its parts: a sign, a mantissa
with at most one point in it, an exponent. The digits may be of any script, and places that allow
no sign but a minus take `IsMinus` for `IsSign`. Reading takes a text apart from the left, each part
as long as it goes, and no part starts with what the one before it may go on with.

Main statements: the numerals that are read are those of the grammar (`ofChars?_eq_some_iff`), and a
numeral is a literal as well (`literal?_of_writes`).
-/

namespace CopperRoute.Number

open CopperRoute.Text

/-! ## The relations -/

/-- A run of digits of any script, at least one. -/
def IsDigits (ds : List Char) : Prop := ds ≠ [] ∧ ∀ c ∈ ds, isDecimal c = true

/-- A sign, which may be missing, and whether it is a minus. -/
inductive IsSign : List Char → Bool → Prop
  | none : IsSign [] false
  | plus : IsSign ['+'] false
  | minus : IsSign ['-'] true

/-- A minus, which may be missing. -/
inductive IsMinus : List Char → Bool → Prop
  | none : IsMinus [] false
  | minus : IsMinus ['-'] true

/-- Digits with at most one point among them, and the digits before and behind it. -/
inductive IsMantissa : List Char → List Char → List Char → Prop
  | whole {ds} : IsDigits ds → IsMantissa ds ds []
  | point {ds fs} : IsDigits ds → (∀ c ∈ fs, isDecimal c = true) →
      IsMantissa (ds ++ '.' :: fs) ds fs
  | fraction {fs} : IsDigits fs → IsMantissa ('.' :: fs) [] fs

inductive IsExponent : List Char → Int → Prop
  | none : IsExponent [] 0
  | written {e sign negative ds} : e = 'e' ∨ e = 'E' → IsSign sign negative → IsDigits ds →
      IsExponent (e :: (sign ++ ds)) (if negative then -(digitsValue ds : Int) else digitsValue ds)

/-- A text that is a numeral with a sign of the given kind, and the numeral that it is. -/
inductive Writes (Lead : List Char → Bool → Prop) : List Char → Numeral → Prop
  | intro {sign negative mantissa whole fraction scale e} : Lead sign negative →
      IsMantissa mantissa whole fraction → IsExponent scale e →
      Writes Lead (sign ++ mantissa ++ scale)
        ⟨negative, digitsValue (whole ++ fraction), e - fraction.length⟩

/-! ## Digits -/

/-- Whether something holds of the ten digits of every script. -/
def holdsOfDigits (p : Char → Bool) : Bool :=
  digitZeros.all fun z => (List.range 10).all fun i => p (Char.ofNat (z + i))

theorem of_isDecimal {p : Char → Bool} (h : holdsOfDigits p = true) {c : Char}
    (hc : isDecimal c = true) : p c = true := by
  unfold isDecimal digitValue? at hc
  rw [Option.isSome_map, List.find?_isSome] at hc
  obtain ⟨z, hz, hrange⟩ := hc
  simp only [Bool.and_eq_true, decide_eq_true_eq] at hrange
  have hi : c.toNat - z ∈ List.range 10 := List.mem_range.2 (by omega)
  have hp := List.all_eq_true.1 (List.all_eq_true.1 h z hz) _ hi
  rwa [show z + (c.toNat - z) = c.toNat by omega, Char.ofNat_toNat] at hp

variable {cs ds rest sign mantissa whole fraction scale : List Char} {negative : Bool} {e : Int}

theorem splitDigits_append (h : ∀ c ∈ ds, isDecimal c = true)
    (hrest : ∀ c ∈ rest.head?, isDecimal c = false) : splitDigits (ds ++ rest) = (ds, rest) := by
  rw [splitDigits, takeWhile_append_of_head? h hrest, dropWhile_append_of_head? h hrest]

theorem splitDigits_spec (cs : List Char) :
    ∃ ds rest, splitDigits cs = (ds, rest) ∧ cs = ds ++ rest ∧ ∀ c ∈ ds, isDecimal c = true :=
  ⟨_, _, rfl, List.takeWhile_append_dropWhile.symm, List.all_eq_true.1 List.all_takeWhile⟩

theorem isDigits_iff : IsDigits ds ↔ (!ds.isEmpty && ds.all isDecimal) = true := by
  simp [IsDigits]

/-! ## Signs -/

/-- A sign is split off, as long as what follows has none. -/
theorem IsSign.splitSign_append (h : IsSign sign negative)
    (hrest : ∀ c ∈ rest.head?, c ≠ '-' ∧ c ≠ '+') :
    splitSign (sign ++ rest) = (negative, rest) := by
  cases h with
  | plus | minus => rfl
  | none =>
    cases rest with
    | nil => rfl
    | cons c tail =>
      obtain ⟨hminus, hplus⟩ := hrest c rfl
      simp [splitSign, hminus, hplus]

theorem splitSign_spec (cs : List Char) :
    ∃ sign negative rest, splitSign cs = (negative, rest) ∧ IsSign sign negative ∧
      cs = sign ++ rest := by
  unfold splitSign
  split
  · exact ⟨['-'], true, _, rfl, .minus, rfl⟩
  · exact ⟨['+'], false, _, rfl, .plus, rfl⟩
  · exact ⟨[], false, _, rfl, .none, rfl⟩

/-! ## Exponents -/

theorem isDecimal_ne {c d : Char} (hc : isDecimal c = true) (hd : isDecimal d = false) : c ≠ d := by
  rintro rfl
  rw [hc] at hd
  cases hd

theorem exponent?_eq_some_iff : exponent? cs = some e ↔ IsExponent cs e := by
  constructor
  · intro h
    cases cs with
    | nil =>
      obtain rfl := Option.some.inj h
      exact .none
    | cons c rest =>
      rw [exponent?] at h
      split at h
      · next hc =>
        obtain ⟨sign, negative, ds, hsplit, hsign, rfl⟩ := splitSign_spec rest
        rw [hsplit] at h
        obtain ⟨n, hn, rfl⟩ := Option.map_eq_some_iff.1 h
        unfold digitRun? at hn
        split at hn
        · next hds =>
          obtain rfl := Option.some.inj hn
          exact .written (by simpa using hc) hsign (isDigits_iff.2 hds)
        · cases hn
      · cases h
  · rintro (_ | @⟨c, sign, negative, ds, hc, hsign, hds⟩)
    · rfl
    · have hsplit : splitSign (sign ++ ds) = (negative, ds) := by
        refine hsign.splitSign_append fun c hc => ?_
        have hdigit := hds.2 c (List.mem_of_mem_head? hc)
        exact ⟨isDecimal_ne hdigit (by decide), isDecimal_ne hdigit (by decide)⟩
      rw [exponent?, if_pos (by simpa using hc), hsplit]
      dsimp only
      rw [digitRun?, if_pos (isDigits_iff.1 hds)]
      rfl

/-- An exponent starts with its letter. -/
theorem IsExponent.head (h : IsExponent scale e) : ∀ c ∈ scale.head?, c = 'e' ∨ c = 'E' := by
  rintro c hc
  cases h with
  | none => cases hc
  | written hletter => exact Option.some.inj hc ▸ hletter

/-! ## Numerals -/

theorem IsMantissa.forall_mem (h : IsMantissa mantissa whole fraction) :
    ∀ c ∈ mantissa, isDecimal c = true ∨ c = '.' := by
  cases h with
  | whole hds => exact fun c hc => .inl (hds.2 c hc)
  | point hds hfs =>
    rw [List.forall_mem_append, List.forall_mem_cons]
    exact ⟨fun c hc => .inl (hds.2 c hc), .inr rfl, fun c hc => .inl (hfs c hc)⟩
  | fraction hfs =>
    rw [List.forall_mem_cons]
    exact ⟨.inr rfl, fun c hc => .inl (hfs.2 c hc)⟩

theorem IsMantissa.head (h : IsMantissa mantissa whole fraction) (rest : List Char) :
    ∃ c tail, mantissa ++ rest = c :: tail ∧ (isDecimal c = true ∨ c = '.') := by
  have hne : mantissa ≠ [] := by
    cases h with
    | whole hds => exact hds.1
    | point | fraction => simp
  obtain ⟨c, tail, rfl⟩ := List.exists_cons_of_ne_nil hne
  exact ⟨c, _, rfl, h.forall_mem c List.mem_cons_self⟩

/-- A mantissa is split off before what starts with neither a digit nor a point. -/
theorem IsMantissa.split (h : IsMantissa mantissa whole fraction)
    (hrest : ∀ c ∈ rest.head?, isDecimal c = false ∧ c ≠ '.') :
    ∃ behind, splitDigits (mantissa ++ rest) = (whole, behind) ∧
      splitFraction behind = (fraction, rest) := by
  have hdigit : ∀ c ∈ rest.head?, isDecimal c = false := fun c hc => (hrest c hc).1
  have hpoint : splitFraction rest = ([], rest) := by
    cases rest with
    | nil => rfl
    | cons c tail => simp [splitFraction, (hrest c rfl).2]
  cases h with
  | whole hds => exact ⟨rest, splitDigits_append hds.2 hdigit, hpoint⟩
  | point hds hfs =>
    refine ⟨'.' :: (fraction ++ rest), ?_, splitDigits_append hfs hdigit⟩
    rw [List.append_assoc]
    refine splitDigits_append hds.2 fun c hc => ?_
    obtain rfl := Option.some.inj hc
    decide
  | fraction hfs =>
    exact ⟨'.' :: (fraction ++ rest), rfl, splitDigits_append hfs.2 hdigit⟩

theorem mantissa_of_split {unsigned behind tail : List Char}
    (h : splitDigits unsigned = (whole, behind)) (h' : splitFraction behind = (fraction, tail))
    (hne : ¬(whole.isEmpty && fraction.isEmpty) = true) :
    ∃ mantissa, unsigned = mantissa ++ tail ∧ IsMantissa mantissa whole fraction := by
  obtain ⟨ds, rest, hsplit, rfl, hds⟩ := splitDigits_spec unsigned
  obtain ⟨rfl, rfl⟩ := Prod.mk.inj (hsplit.symm.trans h)
  unfold splitFraction at h'
  split at h'
  · next cs =>
    obtain ⟨fs, rest, hsplit', rfl, hfs⟩ := splitDigits_spec cs
    obtain ⟨rfl, rfl⟩ := Prod.mk.inj (hsplit'.symm.trans h')
    refine ⟨ds ++ '.' :: fs, by simp, ?_⟩
    cases ds with
    | nil => exact .fraction ⟨by simpa using hne, hfs⟩
    | cons c tail => exact .point ⟨by simp, hds⟩ hfs
  · obtain ⟨rfl, rfl⟩ := Prod.mk.inj h'
    exact ⟨ds, rfl, .whole ⟨by simpa using hne, hds⟩⟩

/-- The numerals that are read are those of the grammar. -/
theorem ofChars?_eq_some_iff {n : Numeral} : Numeral.ofChars? cs = some n ↔ Writes IsSign cs n := by
  constructor
  · intro h
    unfold Numeral.ofChars? at h
    obtain ⟨sign, negative, unsigned, hsplit, hsign, rfl⟩ := splitSign_spec cs
    rw [hsplit] at h
    dsimp only at h
    obtain ⟨whole, behind, hwhole, -⟩ := splitDigits_spec unsigned
    rw [hwhole] at h
    dsimp only at h
    cases hfraction : splitFraction behind with
    | mk fraction tail =>
      rw [hfraction] at h
      dsimp only at h
      split at h
      · cases h
      · next hne =>
        obtain ⟨e, he, rfl⟩ := Option.map_eq_some_iff.1 h
        obtain ⟨mantissa, rfl, hmantissa⟩ := mantissa_of_split hwhole hfraction hne
        rw [← List.append_assoc]
        exact .intro hsign hmantissa (exponent?_eq_some_iff.1 he)
  · rintro @⟨sign, negative, mantissa, whole, fraction, scale, e, hsign, hmantissa, hscale⟩
    have hsplit : splitSign (sign ++ (mantissa ++ scale)) = (negative, mantissa ++ scale) := by
      refine hsign.splitSign_append fun c hc => ?_
      obtain ⟨a, tail, heq, ha⟩ := hmantissa.head scale
      rw [heq] at hc
      obtain rfl := Option.some.inj hc
      rcases ha with ha | rfl
      · exact ⟨isDecimal_ne ha (by decide), isDecimal_ne ha (by decide)⟩
      · decide
    have hend : ∀ c ∈ scale.head?, isDecimal c = false ∧ c ≠ '.' := fun c hc => by
      rcases hscale.head c hc with rfl | rfl <;> decide
    obtain ⟨behind, hwhole, hfraction⟩ := hmantissa.split hend
    have hne : ¬(whole.isEmpty && fraction.isEmpty) = true := by
      cases hmantissa with
      | whole h | point h _ | fraction h => simp [h.1]
    unfold Numeral.ofChars?
    rw [List.append_assoc, hsplit]
    dsimp only
    rw [hwhole]
    dsimp only
    rw [hfraction]
    dsimp only
    rw [if_neg hne, exponent?_eq_some_iff.2 hscale]
    rfl

/-- A sign and a mantissa are a numeral. -/
theorem writes_mantissa (hsign : IsMinus sign negative)
    (hmantissa : IsMantissa mantissa whole fraction) : Writes IsMinus (sign ++ mantissa)
      ⟨negative, digitsValue (whole ++ fraction), -(fraction.length : Int)⟩ := by
  simpa using Writes.intro hsign hmantissa .none

theorem isMinus_sign (negative : Bool) : IsMinus (if negative then ['-'] else []) negative := by
  cases negative
  · exact .none
  · exact .minus

/-! ## Literals -/

variable {n : Numeral}

theorem IsMinus.isSign (h : IsMinus sign negative) : IsSign sign negative := by
  cases h
  · exact .none
  · exact .minus

/-- A numeral that has no plus is a numeral. -/
theorem Writes.isSign (h : Writes IsMinus cs n) : Writes IsSign cs n := by
  obtain ⟨hsign, hmantissa, hscale⟩ := h
  exact ⟨hsign.isSign, hmantissa, hscale⟩

/-- What holds of all digits and of the five other characters holds throughout a numeral. -/
theorem Writes.forall_mem (h : Writes IsSign cs n) {p : Char → Bool}
    (hdigits : holdsOfDigits p = true) (hother : ['+', '-', '.', 'e', 'E'].all p = true) :
    ∀ c ∈ cs, p c = true := by
  have hdigit : ∀ c, isDecimal c = true → p c = true := fun _ => of_isDecimal hdigits
  have hother := List.all_eq_true.1 hother
  obtain ⟨hsign, hmantissa, hscale⟩ := h
  have hsigns : ∀ {sign negative}, IsSign sign negative → ∀ c ∈ sign, p c = true := by
    rintro _ _ (_ | _ | _) <;> simp [hother]
  refine List.forall_mem_append.2 ⟨List.forall_mem_append.2 ⟨hsigns hsign, ?_⟩, ?_⟩
  · intro c hc
    rcases hmantissa.forall_mem c hc with hc | rfl
    · exact hdigit c hc
    · exact hother _ (by simp)
  · cases hscale with
    | none => simp
    | written hletter hsign hds =>
      refine List.forall_mem_cons.2 ⟨?_, List.forall_mem_append.2 ⟨hsigns hsign, ?_⟩⟩
      · rcases hletter with rfl | rfl <;> exact hother _ (by simp)
      · exact fun c hc => hdigit c (hds.2 c hc)

theorem Writes.ne_nil (h : Writes IsSign cs n) : cs ≠ [] := by
  obtain ⟨hsign, hmantissa, hscale⟩ := h
  obtain ⟨c, tail, heq, -⟩ := hmantissa.head _
  rw [List.append_assoc, heq]
  simp

theorem ungroup_of_notMem (h : '_' ∉ cs) (afterDigit : Bool) : ungroup afterDigit cs = some cs := by
  induction cs generalizing afterDigit with
  | nil => rfl
  | cons c rest ih =>
    obtain ⟨hc, hrest⟩ := not_or.1 (mt List.mem_cons.2 h)
    rw [ungroup, if_neg (by simpa using Ne.symm hc), ih hrest]
    rfl

/-- The words for special values start with a letter, and numerals do not. -/
theorem special?_eq_none (h : Writes IsSign cs n) : special? cs = none := by
  obtain ⟨hsign, hmantissa, hscale⟩ := h
  obtain ⟨c, tail, heq, hc⟩ := hmantissa.head _
  let starts (c : Char) : Bool := c != '-' && c != '+' && c.toLower != 'i' && c.toLower != 'n'
  have hfirst : starts c = true := by
    rcases hc with hc | rfl
    · exact of_isDecimal (p := starts) (by decide +kernel) hc
    · decide
  simp only [starts, Bool.and_eq_true, bne_iff_ne] at hfirst
  obtain ⟨⟨⟨hminus, hplus⟩, hi⟩, hn⟩ := hfirst
  rw [List.append_assoc, heq, special?, hsign.splitSign_append (by simp [hminus, hplus])]
  have hword (w : String) (hw : w.toList.head? = some 'i' ∨ w.toList.head? = some 'n') :
      (String.ofList ((c :: tail).map Char.toLower) == w) = false := by
    rw [beq_eq_false_iff_ne]
    rintro rfl
    rw [String.toList_ofList, List.map_cons, List.head?_cons] at hw
    simp [hi, hn] at hw
  dsimp only
  rw [hword "inf" (.inl rfl), hword "infinity" (.inl rfl), hword "nan" (.inr rfl)]
  rfl

/-- A numeral is a literal, and it stands for the same double as one. -/
theorem literal?_of_writes (h : Writes IsSign cs n) :
    literal? (String.ofList cs) = some n.toFloat := by
  have hspacing : ∀ c ∈ cs, (!isSpacing c) = true :=
    h.forall_mem (by decide +kernel) (by decide)
  have hunderscore : ∀ c ∈ cs, (c != '_') = true :=
    h.forall_mem (by decide +kernel) (by decide)
  have htrim : trimWith isSpacing cs = cs := trimWith_of_forall (by simpa using hspacing)
  rw [literal?, String.toList_ofList, htrim, special?_eq_none h]
  dsimp only
  rw [ungroup_of_notMem fun hmem => by simpa using hunderscore '_' hmem, Option.bind_some,
    ofChars?_eq_some_iff.2 h]
  rfl

end CopperRoute.Number
