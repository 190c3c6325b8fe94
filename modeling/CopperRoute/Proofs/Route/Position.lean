import CopperRoute.Proofs.Number.Rounded
import CopperRoute.Proofs.Text.Runs
import CopperRoute.Route.Scan

/-!
# Which texts are positions

    text ──readPosition──▶ point        IsPosition text point

`IsPosition` says it without reading: two numerals in the grammar, for the two finite doubles that
they are rounded to, with commas and blanks between and around them, and a parenthesis on either
side or none. No part of this has a parenthesis in it, so that the reader takes off what was put on
(`dropClosing_dropOpening`). Main statement: `readPosition_accepts_positions`.
-/

namespace CopperRoute.Route

open Number Text

variable {cs opening body closing : List Char} {x : Float} {p : Point}

/-- `cs` is a text for the position `p`. -/
inductive IsPosition : List Char → Point → Prop
  | intro {opening body closing xs ys x y} : opening = [] ∨ opening = ['('] →
      closing = [] ∨ closing = [')'] → Runs isSeparator [xs, ys] body →
      Denotes IsSign xs x → Denotes IsSign ys y → isFinite x = true → isFinite y = true →
      IsPosition (opening ++ (body ++ closing)) ⟨x, y⟩

/-! ## Parentheses -/

theorem exists_opening (cs : List Char) :
    ∃ opening, cs = opening ++ dropOpening cs ∧ (opening = [] ∨ opening = ['(']) := by
  unfold dropOpening
  split
  · exact ⟨['('], rfl, .inr rfl⟩
  · exact ⟨[], rfl, .inl rfl⟩

theorem exists_closing (cs : List Char) :
    ∃ closing, cs = dropClosing cs ++ closing ∧ (closing = [] ∨ closing = [')']) := by
  unfold dropClosing
  split
  · next h =>
    have hlast : ')' ∈ cs.getLast? := by simpa using h
    exact ⟨[')'], (List.dropLast_append_getLast? _ hlast).symm, .inr rfl⟩
  · exact ⟨[], (List.append_nil cs).symm, .inl rfl⟩

/-- The parentheses around a text without parentheses are taken off. -/
theorem dropClosing_dropOpening (hopening : opening = [] ∨ opening = ['('])
    (hclosing : closing = [] ∨ closing = [')']) (hbody : ∀ c ∈ body, c ≠ '(' ∧ c ≠ ')') :
    dropClosing (dropOpening (opening ++ (body ++ closing))) = body := by
  have hfront : dropOpening (opening ++ (body ++ closing)) = body ++ closing := by
    rcases hopening with rfl | rfl
    · have hnone : '(' ∉ body ++ closing := by
        rcases hclosing with rfl | rfl <;> simpa using fun h => (hbody _ h).1 rfl
      rw [List.nil_append, dropOpening.eq_2]
      rintro rest heq
      exact hnone (heq ▸ List.mem_cons_self)
    · rfl
  rw [hfront]
  rcases hclosing with rfl | rfl
  · have hlast : body.getLast? ≠ some ')' := fun h => (hbody _ (List.mem_of_getLast? h)).2 rfl
    rw [List.append_nil, dropClosing, if_neg (by simpa using hlast)]
  · simp [dropClosing]

/-! ## Numbers -/

theorem finite?_eq_some_iff :
    finite? cs = some x ↔ Denotes IsSign cs x ∧ isFinite x = true := by
  rw [denotes_iff, finite?, Option.bind_eq_some_iff]
  constructor
  · rintro ⟨n, hn, hx⟩
    dsimp only at hx
    split at hx
    · next hfinite =>
      obtain rfl := Option.some.inj hx
      exact ⟨⟨n, hn, rfl⟩, hfinite⟩
    · cases hx
  · rintro ⟨⟨n, hn, rfl⟩, hfinite⟩
    exact ⟨n, hn, if_pos hfinite⟩

/-- No numeral has a parenthesis in it. -/
theorem no_parenthesis_of_denotes (h : Denotes IsSign cs x) : ∀ c ∈ cs, c ≠ '(' ∧ c ≠ ')' := by
  obtain ⟨n, hn, -⟩ := h
  have hall : ∀ c ∈ cs, (c != '(' && c != ')') = true :=
    hn.forall_mem (by decide +kernel) (by decide)
  simpa using hall

/-! ## Positions -/

theorem position?_eq_some_iff : position? cs = some p ↔ IsPosition cs p := by
  constructor
  · intro h
    unfold position? at h
    obtain ⟨opening, hcs, hopening⟩ := exists_opening cs
    obtain ⟨closing, hinner, hclosing⟩ := exists_closing (dropOpening cs)
    split at h
    · next xs ys hruns =>
      obtain ⟨x, hx, h⟩ := Option.bind_eq_some_iff.1 h
      obtain ⟨y, hy, h⟩ := Option.bind_eq_some_iff.1 h
      obtain rfl := Option.some.inj h
      rw [hcs, hinner]
      obtain ⟨hx, hxfinite⟩ := finite?_eq_some_iff.1 hx
      obtain ⟨hy, hyfinite⟩ := finite?_eq_some_iff.1 hy
      exact .intro hopening hclosing (splitRuns_eq_iff.1 hruns) hx hy hxfinite hyfinite
    · cases h
  · rintro @⟨opening, body, closing, xs, ys, x, y, hopening, hclosing, hruns, hx, hy, hxf, hyf⟩
    have hbody : ∀ c ∈ body, c ≠ '(' ∧ c ≠ ')' := by
      refine hruns.forall_mem (fun c hc => ?_) ?_
      · constructor <;> rintro rfl <;> exact absurd hc (by decide)
      · simpa using ⟨no_parenthesis_of_denotes hx, no_parenthesis_of_denotes hy⟩
    rw [position?, dropClosing_dropOpening hopening hclosing hbody, splitRuns_eq_iff.2 hruns]
    dsimp only
    rw [finite?_eq_some_iff.2 ⟨hx, hxf⟩, finite?_eq_some_iff.2 ⟨hy, hyf⟩]
    rfl

/-! ## Reports -/

variable (text : String) (route : Option String) (position : Option Offset)

theorem context_noPosition :
    (noPosition text route position).context =
      ("text", .text text) :: ((route.map fun r => ("route", .text r)).toList ++
        (position.map fun i => ("position", .int i.1)).toList) := by
  cases route <;> cases position <;> rfl

/-- All that the report holds can be written. -/
theorem told_noPosition :
    (noPosition text route position).told = .ok (noPosition text route position).fullText := by
  rw [Report.told, if_pos]
  rw [context_noPosition, Context.isWritable, List.all_cons, List.all_append]
  cases position with
  | none => cases route <;> rfl
  | some i => cases route <;> simpa [Value.isWritable, Value.isWritableIn] using i.2

/-- A text is read as a position exactly if it is one, and as the point that it is one for. Any
other text is reported as an unfit value, with the text, the route and the place as they were given,
and the report can be told. What is a numeral in the grammar is always convertible: as a literal it
stands for its double. -/
theorem readPosition_accepts_positions :
    (∀ p, readPosition text route position = .ok p ↔ IsPosition text.toList p) ∧
      ((∀ p, ¬IsPosition text.toList p) → ∃ report,
        readPosition text route position = .error report ∧ report.kind = .badValue ∧
        report.context = ("text", .text text) :: ((route.map fun r => ("route", .text r)).toList ++
          (position.map fun i => ("position", .int i.1)).toList) ∧
        report.told = .ok report.fullText) ∧
      ∀ cs n, Writes IsSign cs n → literal? (String.ofList cs) = some n.toFloat := by
  refine ⟨fun p => ?_, fun hnone => ?_, fun cs n => literal?_of_writes⟩
  · rw [← position?_eq_some_iff, readPosition]
    cases position? text.toList <;> simp
  · have hposition : position? text.toList = none :=
      Option.eq_none_iff_forall_ne_some.2 fun p hp => hnone p (position?_eq_some_iff.1 hp)
    rw [readPosition, hposition]
    exact ⟨_, rfl, rfl, context_noPosition text route position, told_noPosition text route position⟩

end CopperRoute.Route
