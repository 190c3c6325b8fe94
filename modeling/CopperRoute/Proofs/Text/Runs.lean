import CopperRoute.Proofs.Text.Trim

/-!
# Cutting a text into its runs

`splitRuns` is computed by dropping separators and then taking what is none. Two laws say what
it does with a text that is put together: separators in front are passed over
(`splitRuns_append_of_all`), and a word that ends at a separator, or with the text, is the first run
(`splitRuns_word_append`). `Runs` is what they amount to, a relation between a text and its words.
Main statement: `splitRuns_eq_iff`.
-/

namespace CopperRoute.Text

variable {p : Char → Bool} {cs : List Char}

theorem splitRuns_of_dropWhile_eq_nil (h : cs.dropWhile p = []) : splitRuns p cs = [] := by
  rw [splitRuns.eq_def]
  split
  · rfl
  · next hcons => rw [h] at hcons; cases hcons

theorem splitRuns_of_dropWhile_eq_cons {c : Char} {rest : List Char}
    (h : cs.dropWhile p = c :: rest) :
    splitRuns p cs = (c :: rest).takeWhile (fun a => !p a) ::
      splitRuns p ((c :: rest).dropWhile fun a => !p a) := by
  rw [splitRuns.eq_def]
  split
  · next hnil => rw [h] at hnil; cases hnil
  · next hcons =>
    obtain ⟨rfl, rfl⟩ := List.cons.inj (h.symm.trans hcons)
    rfl

/-- Separators in front of a text do not count. -/
theorem splitRuns_append_of_all {left : List Char} (hl : ∀ c ∈ left, p c = true)
    (cs : List Char) : splitRuns p (left ++ cs) = splitRuns p cs := by
  have hskip : (left ++ cs).dropWhile p = cs.dropWhile p := List.dropWhile_append_of_pos hl
  cases hdrop : cs.dropWhile p with
  | nil =>
    rw [splitRuns_of_dropWhile_eq_nil hdrop, splitRuns_of_dropWhile_eq_nil (hskip.trans hdrop)]
  | cons c rest =>
    rw [splitRuns_of_dropWhile_eq_cons hdrop, splitRuns_of_dropWhile_eq_cons (hskip.trans hdrop)]

/-- A text of separators only has no runs. -/
theorem splitRuns_eq_nil_of_all (h : ∀ c ∈ cs, p c = true) : splitRuns p cs = [] :=
  splitRuns_of_dropWhile_eq_nil (dropWhile_eq_nil_iff_all.2 (List.all_eq_true.2 h))

/-- A word is the first run of a text that goes on with a separator, or not at all. -/
theorem splitRuns_word_append {word rest : List Char} (hne : word ≠ [])
    (hword : ∀ c ∈ word, p c = false) (hrest : ∀ c ∈ rest.head?, p c = true) :
    splitRuns p (word ++ rest) = word :: splitRuns p rest := by
  have hinside : ∀ c ∈ word, (!p c) = true := fun c hc => by simp [hword c hc]
  have houtside : ∀ c ∈ rest.head?, (!p c) = false := fun c hc => by simp [hrest c hc]
  have hdrop : (word ++ rest).dropWhile (fun c => !p c) = rest :=
    dropWhile_append_of_head? hinside houtside
  have htake : (word ++ rest).takeWhile (fun c => !p c) = word :=
    takeWhile_append_of_head? hinside houtside
  obtain ⟨c, tail, rfl⟩ := List.exists_cons_of_ne_nil hne
  have hstart : (c :: tail ++ rest).dropWhile p = c :: (tail ++ rest) :=
    List.dropWhile_cons_of_neg (by simp [hword c])
  rw [splitRuns_of_dropWhile_eq_cons hstart, ← List.cons_append, htake, hdrop]

/-- The words of a text in order: none of them is empty or has a separator in it, and what stands
around and between them is separators. -/
inductive Runs (p : Char → Bool) : List (List Char) → List Char → Prop
  | nil {gap} : (∀ c ∈ gap, p c = true) → Runs p [] gap
  | cons {gap word words rest} : (∀ c ∈ gap, p c = true) → word ≠ [] →
      (∀ c ∈ word, p c = false) → (∀ c ∈ rest.head?, p c = true) → Runs p words rest →
      Runs p (word :: words) (gap ++ (word ++ rest))

/-- What holds of separators and throughout the words holds throughout the text. -/
theorem Runs.forall_mem {words : List (List Char)} (h : Runs p words cs) {q : Char → Prop}
    (hgaps : ∀ c, p c = true → q c) (hwords : ∀ word ∈ words, ∀ c ∈ word, q c) :
    ∀ c ∈ cs, q c := by
  induction h with
  | nil hgap => exact fun c hc => hgaps c (hgap c hc)
  | cons hgap _ _ _ _ ih =>
    obtain ⟨hword, hrest⟩ := List.forall_mem_cons.1 hwords
    rw [List.forall_mem_append, List.forall_mem_append]
    exact ⟨fun c hc => hgaps c (hgap c hc), hword, ih hrest⟩

theorem splitRuns_of_runs {words : List (List Char)} (h : Runs p words cs) :
    splitRuns p cs = words := by
  induction h with
  | nil hgap => exact splitRuns_eq_nil_of_all hgap
  | cons hgap hne hword hrest _ ih =>
    rw [splitRuns_append_of_all hgap, splitRuns_word_append hne hword hrest, ih]

theorem runs_splitRuns (p : Char → Bool) (cs : List Char) : Runs p (splitRuns p cs) cs := by
  obtain ⟨gap, hcs, hgap⟩ := exists_append_dropWhile p cs
  cases hdrop : cs.dropWhile p with
  | nil =>
    rw [splitRuns_of_dropWhile_eq_nil hdrop]
    exact .nil (List.all_eq_true.1 (dropWhile_eq_nil_iff_all.1 hdrop))
  | cons c tail =>
    obtain ⟨word, hsplit, hword⟩ := exists_append_dropWhile (fun a => !p a) (c :: tail)
    have htake : (c :: tail).takeWhile (fun a => !p a) = word := by
      have hwhole := List.takeWhile_append_dropWhile (p := fun a => !p a) (l := c :: tail)
      exact List.append_cancel_right (hwhole.trans hsplit)
    have hlength : ((c :: tail).dropWhile fun a => !p a).length < cs.length :=
      length_afterRun_lt hdrop
    rw [splitRuns_of_dropWhile_eq_cons hdrop, htake]
    rw [hdrop, hsplit] at hcs
    rw [hcs]
    refine .cons hgap ?_ (by simpa using hword) ?_ (runs_splitRuns p _)
    · rintro rfl
      have hc : p c = false := not_head_dropWhile hdrop
      simp [hc] at htake
    · have hend : ∀ a ∈ ((c :: tail).dropWhile fun a => !p a).head?, (!p a) = false :=
        head?_dropWhile
      simpa using hend
termination_by cs.length

/-- Cutting gives the words of a text and nothing else. -/
theorem splitRuns_eq_iff {words : List (List Char)} :
    splitRuns p cs = words ↔ Runs p words cs :=
  ⟨fun h => h ▸ runs_splitRuns p cs, splitRuns_of_runs⟩

/-- A text without separators is its only word. -/
theorem Runs.single {word : List Char} (hne : word ≠ []) (hword : ∀ c ∈ word, p c = false) :
    Runs p [word] word := by
  have hrun := @splitRuns_word_append p word [] hne hword (by simp)
  have hnil : splitRuns p [] = [] := splitRuns_eq_nil_of_all (by simp)
  rw [List.append_nil, hnil] at hrun
  exact splitRuns_eq_iff.1 hrun

/-- A word before a separator. -/
theorem Runs.before {sep : Char} {word rest : List Char} {words : List (List Char)}
    (hne : word ≠ []) (hword : ∀ c ∈ word, p c = false) (hsep : p sep = true)
    (h : Runs p words rest) : Runs p (word :: words) (word ++ sep :: rest) := by
  have hskip : splitRuns p (sep :: rest) = splitRuns p rest :=
    splitRuns_append_of_all (List.forall_mem_singleton.2 hsep) rest
  rw [← splitRuns_eq_iff, splitRuns_word_append hne hword (by simpa using hsep), hskip,
    splitRuns_of_runs h]

end CopperRoute.Text
