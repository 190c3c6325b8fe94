import CopperRoute.Text.Character

/-!
# What trimming leaves

`trim` is computed by dropping blanks from both ends. `Stripped` says the same without computing: a
text is its stripped form between blanks, and the stripped form neither starts nor ends with one.
Main statement: `trim_eq_iff`.
-/

namespace CopperRoute.Text

/-- `name` is `body` without the blanks at its two ends. -/
structure Stripped (body name : List Char) : Prop where
  between : ∃ left right, body = left ++ name ++ right ∧
    (∀ c ∈ left, isBlank c = true) ∧ ∀ c ∈ right, isBlank c = true
  first : ∀ c ∈ name.head?, isBlank c = false
  last : ∀ c ∈ name.getLast?, isBlank c = false

/-- What dropping leaves does not start with a dropped character. -/
theorem head?_dropWhile {p : Char → Bool} {cs : List Char} :
    ∀ c ∈ (cs.dropWhile p).head?, p c = false := by
  intro c hc
  obtain ⟨rest, h⟩ := List.head?_eq_some_iff.1 (Option.mem_def.1 hc)
  exact not_head_dropWhile h

/-- Dropping stops at once before a text that does not start with a dropped character. -/
theorem dropWhile_append_of_head? {p : Char → Bool} {left cs : List Char}
    (hl : ∀ c ∈ left, p c = true) (hcs : ∀ c ∈ cs.head?, p c = false) :
    (left ++ cs).dropWhile p = cs := by
  rw [List.dropWhile_append_of_pos hl]
  cases cs with
  | nil => rfl
  | cons c rest => rw [List.dropWhile_cons_of_neg (by simp [hcs c rfl])]

/-- Taking stops there, too. -/
theorem takeWhile_append_of_head? {p : Char → Bool} {left cs : List Char}
    (hl : ∀ c ∈ left, p c = true) (hcs : ∀ c ∈ cs.head?, p c = false) :
    (left ++ cs).takeWhile p = left := by
  -- what is taken and what dropping leaves make up the whole
  have hwhole := List.takeWhile_append_dropWhile (p := p) (l := left ++ cs)
  rw [dropWhile_append_of_head? hl hcs] at hwhole
  exact List.append_cancel_right hwhole

/-- Trimming stops at once where there is nothing to trim. -/
theorem trimWith_of_forall {p : Char → Bool} {cs : List Char} (h : ∀ c ∈ cs, p c = false) :
    trimWith p cs = cs := by
  have hstop : ∀ {ds : List Char}, (∀ c ∈ ds, p c = false) → ds.dropWhile p = ds := fun hds =>
    @dropWhile_append_of_head? p [] _ (by simp) fun c hc => hds c (List.mem_of_mem_head? hc)
  rw [trimWith, hstop h, hstop (by simpa using h), List.reverse_reverse]

/-- A text is a dropped run and what dropping leaves. -/
theorem exists_append_dropWhile (p : Char → Bool) (cs : List Char) :
    ∃ left, cs = left ++ cs.dropWhile p ∧ ∀ c ∈ left, p c = true :=
  ⟨cs.takeWhile p, List.takeWhile_append_dropWhile.symm, List.all_eq_true.1 List.all_takeWhile⟩

theorem trim_eq_of_stripped {body name : List Char} (h : Stripped body name) :
    trim body = name := by
  obtain ⟨left, right, rfl, hl, hr⟩ := h.between
  rw [trim, trimWith, List.append_assoc]
  cases name with
  | nil =>
    have hall : (left ++ ([] ++ right)).dropWhile isBlank = [] := by
      rw [dropWhile_eq_nil_iff_all, List.all_eq_true]
      intro c hc
      rcases List.mem_append.1 hc with hc | hc
      · exact hl c hc
      · exact hr c hc
    rw [hall]
    rfl
  | cons c rest =>
    have hc : isBlank c = false := h.first c rfl
    rw [dropWhile_append_of_head? hl (by simp [hc]), List.reverse_append,
      dropWhile_append_of_head? (by simpa using hr)
        (by rw [List.head?_reverse]; exact h.last), List.reverse_reverse]

theorem stripped_trim (cs : List Char) : Stripped cs (trim cs) := by
  obtain ⟨left, hcs, hl⟩ := exists_append_dropWhile isBlank cs
  obtain ⟨right, hrest, hr⟩ := exists_append_dropWhile isBlank (cs.dropWhile isBlank).reverse
  -- the second drop works on the reversed text, so its run is the reversed right end
  have hback : cs.dropWhile isBlank = trim cs ++ right.reverse := by
    rw [trim, trimWith, ← List.reverse_append, ← hrest, List.reverse_reverse]
  refine ⟨⟨left, right.reverse, ?_, hl, by simpa using hr⟩, ?_, ?_⟩
  · rw [List.append_assoc, ← hback]
    exact hcs
  · intro c hc
    have hhead : ∀ c ∈ (cs.dropWhile isBlank).head?, isBlank c = false := head?_dropWhile
    apply hhead
    rw [hback]
    cases ht : trim cs with
    | nil => simp [ht] at hc
    | cons a rest => simpa [ht] using hc
  · intro c hc
    rw [trim, trimWith, List.getLast?_reverse] at hc
    exact head?_dropWhile c hc

/-- Trimming gives the stripped form and nothing else. -/
theorem trim_eq_iff {body name : List Char} : trim body = name ↔ Stripped body name :=
  ⟨fun h => h ▸ stripped_trim body, trim_eq_of_stripped⟩

/-- Trimming leaves a text that does not start with a blank its first character. -/
theorem head?_trim {c : Char} {rest : List Char} (hc : isBlank c = false) :
    (trim (c :: rest)).head? = some c := by
  obtain ⟨⟨left, right, hcs, hleft, hright⟩, -, -⟩ := stripped_trim (c :: rest)
  cases left with
  | cons a left =>
    obtain ⟨rfl, -⟩ := List.cons.inj hcs
    simp [hc] at hleft
  | nil =>
    cases htrim : trim (c :: rest) with
    | nil =>
      rw [htrim] at hcs
      obtain rfl : c :: rest = right := hcs
      simp [hc] at hright
    | cons a tail =>
      rw [htrim] at hcs
      rw [(List.cons.inj hcs).1, List.head?_cons]

/-- What trimming leaves of a text is something exactly if the text is not blank all over. -/
theorem trim_ne_nil_iff {cs : List Char} : trim cs ≠ [] ↔ ∃ c ∈ cs, isBlank c = false := by
  rw [Ne, trim_eq_nil_iff, List.all_eq_true]
  simp

/-- Blanks around a text do not count. -/
theorem trim_between {left right : List Char} (hl : ∀ c ∈ left, isBlank c = true)
    (hr : ∀ c ∈ right, isBlank c = true) (cs : List Char) : trim (left ++ cs ++ right) = trim cs := by
  obtain ⟨⟨before, behind, hcs, hbefore, hbehind⟩, hfirst, hlast⟩ := stripped_trim cs
  have hbetween : left ++ cs ++ right = (left ++ before) ++ trim cs ++ (behind ++ right) := calc
    left ++ cs ++ right = left ++ (before ++ trim cs ++ behind) ++ right := by rw [← hcs]
    _ = (left ++ before) ++ trim cs ++ (behind ++ right) := by simp only [List.append_assoc]
  refine trim_eq_of_stripped ⟨⟨_, _, hbetween, ?_, ?_⟩, hfirst, hlast⟩
  · exact List.forall_mem_append.2 ⟨hl, hbefore⟩
  · exact List.forall_mem_append.2 ⟨hbehind, hr⟩

end CopperRoute.Text
