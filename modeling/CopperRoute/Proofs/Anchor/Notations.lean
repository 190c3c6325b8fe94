import CopperRoute.Proofs.Anchor.Expression
import CopperRoute.Proofs.Number.Shortest
import CopperRoute.Proofs.Route.Position

/-!
# Notations of the same coordinates

    x, y, angle ──text──▶ list, table, expression, option, position ──read──▶ x, y, angle

An anchor can be given as a list, as a table, as a placement expression or as bare numbers, and a
position between parentheses. The lists and tables hold doubles as they are; everywhere else the
numbers are written, and the written form of a double is a numeral that denotes it and has no blank
and no comma in it. Main statement: `notations_agree`.
-/

namespace CopperRoute

open Number Text

/-! ## Tables -/

/-- No two entries of a table have the same text for a key. -/
def Table.Distinct (t : Table) : Prop :=
  t.Pairwise fun a b => ∀ s, ¬(a.1.isText s = true ∧ b.1.isText s = true)

/-- Where no key comes twice, a table is looked up in any order of its entries. -/
theorem Table.get?_perm {t t' : Table} (h : t.Perm t') (hkeys : t.Distinct) (s : String) :
    Table.get? t s = Table.get? t' s := by
  unfold Table.get?
  congr 1
  induction h with
  | nil => rfl
  | cons e _ ih =>
    rw [List.find?_cons, List.find?_cons, ih (List.pairwise_cons.1 hkeys).2]
  | swap a b t =>
    have hnot := (List.pairwise_cons.1 hkeys).1 a List.mem_cons_self s
    cases ha : a.1.isText s with
    | false => simp [List.find?_cons, ha]
    | true =>
      cases hb : b.1.isText s with
      | false => simp [ha, hb]
      | true => exact absurd ⟨hb, ha⟩ hnot
  | trans h _ ih ih' =>
    have hsymm : ∀ {a b : Key × Value}, (∀ s, ¬(a.1.isText s = true ∧ b.1.isText s = true)) →
        ∀ s, ¬(b.1.isText s = true ∧ a.1.isText s = true) := fun h s hab => h s hab.symm
    exact (ih hkeys).trans (ih' ((h.pairwise_iff hsymm).1 hkeys))

namespace Anchor

variable {x y angle : Float}

/-- A table of three entries is read in any order of them. -/
theorem ofValue_table {k : String} (hk : k ∈ angleNames) {t : Table}
    (ht : t.Perm [(.text "x", .float x), (.text "y", .float y), (.text k, .float angle)])
    (footprint : String) : ofValue (.table t) footprint = .ok ⟨x, y, angle⟩ := by
  have hk : k = "r" ∨ k = "rotation" ∨ k = "angle" := by simpa [angleNames] using hk
  have hkeys : Table.Distinct
      [(.text "x", .float x), (.text "y", .float y), (.text k, .float angle)] := by
    rcases hk with rfl | rfl | rfl <;> simp [Table.Distinct, Key.isText]
  have hget := funext (Table.get?_perm ht.symm hkeys)
  have hshape : shape? (.table t) = some [.float x, .float y, .float angle] := by
    unfold shape? Value.bare
    dsimp only
    rw [← hget]
    rcases hk with rfl | rfl | rfl <;> rfl
  unfold ofValue
  dsimp only
  rw [hshape]
  rfl

/-! ## Text -/

/-- A numeral is a word, and starts no placement expression. -/
theorem word_of_denotes {cs : List Char} (h : Denotes IsMinus cs x) : cs ≠ [] ∧
    (∀ c ∈ cs, isBlank c = false) ∧ (∀ c ∈ cs, Route.isSeparator c = false) ∧ '(' ∉ cs := by
  obtain ⟨n, hn, -⟩ := h
  refine ⟨hn.isSign.ne_nil, ?_, ?_, ?_⟩
  · have hall : ∀ c ∈ cs, (!isBlank c) = true :=
      hn.isSign.forall_mem (by decide +kernel) (by decide)
    simpa using hall
  · have hall : ∀ c ∈ cs, (!Route.isSeparator c) = true :=
      hn.isSign.forall_mem (by decide +kernel) (by decide)
    simpa using hall
  · have hall : ∀ c ∈ cs, (c != '(') = true :=
      hn.isSign.forall_mem (by decide +kernel) (by decide)
    exact fun hmem => absurd (hall _ hmem) (by decide)

theorem isExpression_text (hx : isFinite x = true) (hy : isFinite y = true)
    (hangle : isFinite angle = true) :
    IsExpression s!"(at {text x} {text y} {text angle})".toList ⟨x, y, angle⟩ := by
  obtain ⟨hxne, hxblank, -, -⟩ := word_of_denotes (denotes_text hx)
  obtain ⟨hyne, hyblank, -, -⟩ := word_of_denotes (denotes_text hy)
  obtain ⟨hane, hablank, -, -⟩ := word_of_denotes (denotes_text hangle)
  have hspace : isBlank ' ' = true := by decide
  have hat : ∀ c ∈ ['a', 't'], isBlank c = false :=
    List.forall_mem_cons.2 ⟨by decide, List.forall_mem_singleton.2 (by decide)⟩
  have hruns : Runs isBlank [['a', 't'], (text x).toList, (text y).toList, (text angle).toList] _ :=
    .before (by simp) hat hspace (.before hxne hxblank hspace
      (.before hyne hyblank hspace (.single hane hablank)))
  have h := @IsExpression.turned [] _ [] _ _ _ _ _ _ (by simp) (by simp) hruns (denotes_text hx)
    (denotes_text hy) (denotes_text hangle)
  convert h using 1
  simp [toString]

/-- Numerals of two finite doubles between parentheses, a separator apart, are a position. -/
theorem isPosition_of_denotes {xs ys : List Char} {separator : Char} (hx : Denotes IsMinus xs x)
    (hy : Denotes IsMinus ys y) (hxfinite : isFinite x = true) (hyfinite : isFinite y = true)
    (hseparator : Route.isSeparator separator = true) :
    Route.IsPosition ('(' :: (xs ++ separator :: (ys ++ [')']))) ⟨x, y⟩ := by
  obtain ⟨hxne, -, hxword, -⟩ := word_of_denotes hx
  obtain ⟨hyne, -, hyword, -⟩ := word_of_denotes hy
  have hruns : Runs Route.isSeparator [xs, ys] _ :=
    .before hxne hxword hseparator (.single hyne hyword)
  have h := Route.IsPosition.intro (.inr rfl) (.inr rfl) hruns hx.isSign hy.isSign hxfinite hyfinite
  simpa using h

theorem isPosition_text (hx : isFinite x = true) (hy : isFinite y = true) :
    Route.IsPosition s!"({text x},{text y})".toList ⟨x, y⟩ := by
  have h := isPosition_of_denotes (denotes_text hx) (denotes_text hy) hx hy
    (by decide : Route.isSeparator ',' = true)
  convert h using 1
  simp [toString]

/-- Bare numbers are put into an expression. -/
theorem ofOption_text (hx : isFinite x = true) :
    ofOption s!"{text x} {text y} {text angle}" =
      ofExpression s!"(at {text x} {text y} {text angle})" := by
  obtain ⟨hne, hblank, -, hopen⟩ := word_of_denotes (denotes_text hx)
  obtain ⟨c, rest, hcs⟩ := List.exists_cons_of_ne_nil hne
  rw [hcs] at hblank hopen
  have hhead : (trim s!"{text x} {text y} {text angle}".toList).head? = some c := by
    have hlist : s!"{text x} {text y} {text angle}".toList =
        c :: (rest ++ ' ' :: ((text y).toList ++ ' ' :: (text angle).toList)) := by
      simp [toString, hcs]
    rw [hlist, head?_trim (hblank c List.mem_cons_self)]
  have hc : c ≠ '(' := fun h => hopen (h ▸ List.mem_cons_self)
  rw [ofOption, hhead, if_neg (by simpa using hc)]
  exact congrArg ofExpression (String.toList_inj.1 (by simp [toString]))

/-- Every notation of finite doubles gives back the same doubles: a list, a table with the angle
under any of its names, a placement expression, bare numbers, and a position for the first two. -/
theorem notations_agree (hx : isFinite x = true) (hy : isFinite y = true)
    (hangle : isFinite angle = true) (footprint : String) (route : Option String)
    (position : Option Route.Offset) :
    ofValue (.list [.float x, .float y, .float angle]) footprint = .ok ⟨x, y, angle⟩ ∧
      (∀ k ∈ angleNames, ∀ t : Table,
        t.Perm [(.text "x", .float x), (.text "y", .float y), (.text k, .float angle)] →
          ofValue (.table t) footprint = .ok ⟨x, y, angle⟩) ∧
      ofValue (.text s!"(at {text x} {text y} {text angle})") footprint = .ok ⟨x, y, angle⟩ ∧
      ofOption s!"{text x} {text y} {text angle}" = .ok ⟨x, y, angle⟩ ∧
      Route.readPosition s!"({text x},{text y})" route position = .ok ⟨x, y⟩ := by
  have hexpression := ofExpression_eq_ok_iff.2 (isExpression_text hx hy hangle)
  refine ⟨rfl, fun k hk t ht => ofValue_table hk ht footprint, ?_, ?_, ?_⟩
  · unfold ofValue
    dsimp only
    rw [hexpression]
    rfl
  · rw [ofOption_text hx, hexpression]
  · rw [Route.readPosition, Route.position?_eq_some_iff.2 (isPosition_text hx hy)]

/-- A negative zero, the least positive double and the greatest one. -/
theorem notations_agree_at_extremes :
    let x := ofCode true 0
    let y := ofCode false 1
    let angle := ofCode false (infinityCode - 1)
    isFinite x = true ∧ isFinite y = true ∧ isFinite angle = true ∧
      ofOption s!"{text x} {text y} {text angle}" = .ok ⟨x, y, angle⟩ :=
  have hx : isFinite (ofCode true 0) = true := isFinite_ofCode true (by decide)
  have hy : isFinite (ofCode false 1) = true := isFinite_ofCode false (by decide)
  have hangle : isFinite (ofCode false (infinityCode - 1)) = true :=
    isFinite_ofCode false (by decide)
  ⟨hx, hy, hangle, (notations_agree hx hy hangle "" none none).2.2.2.1⟩

end Anchor

end CopperRoute
