import CopperRoute.Proofs.Footprint.Validation
import CopperRoute.Settings.Files

/-!
# What a merge takes over

A table defines a setting if its section `router` has an entry of that name (`defined?`). A merge
that meets no fault takes over exactly what its table defines. Which values a setting takes (`Fits`)
and which it can have (`Keeps`) differ: the values are kept in a normal form (`normal`), with whole
sizes as doubles and format names in plain form, so what the settings say is told up to that form.

Main statements: every setting and its source after a merge (`merge_spec`), and that what the table
holds besides the settings has no part in it (`merge_known`).
-/

namespace CopperRoute

/-- The format found under a name is called by the plain form of that name. -/
theorem RecordFormat.plainName_of_ofName? {s : String} {format : RecordFormat}
    (h : ofName? s = some format) : plainName s = format.name := by
  have hname := List.find?_some h
  exact (beq_iff_eq.1 hname).symm

namespace Setting

theorem name_inj {k other : Setting} : k.name = other.name ↔ k = other := by
  cases k <;> cases other <;> decide

/-- The values that a setting takes from a file. -/
def Fits : Setting → Value → Prop
  | width, v | viaSize, v | viaDrill, v => v.IsSize ∧ ¬v.IsPastRange
  | locked, v => ∃ b, v = .bool b
  | precision, v => ∃ i, v = .int i ∧ 0 ≤ i
  | format, v => ∃ name, v = .text name ∧ (RecordFormat.ofName? name).isSome

/-- The values that a setting can have, whatever is merged. -/
def Keeps : Setting → Value → Prop
  | width, v | viaSize, v | viaDrill, v => ∃ x, v = .float x ∧ Number.isFinite x = true ∧ 0 < x
  | locked, v => ∃ b, v = .bool b
  | precision, v => v = .null ∨ ∃ i, v = .int i ∧ 0 ≤ i
  | format, v => ∃ format : RecordFormat, v = .text format.name

end Setting

namespace Settings

/-! ## Normal forms -/

/-- A size as it is kept: a whole number as the double nearest to it. -/
def normalSize : Value → Value
  | .int i => ((Number.ofInt? i).map .float).getD (.int i)
  | v => v

def normalFormat : Value → Value
  | .text s => .text (RecordFormat.plainName s)
  | v => v

def normal : Setting → Value → Value
  | .width | .viaSize | .viaDrill => normalSize
  | .locked | .precision => id
  | .format => normalFormat

theorem normalSize_int {i : Int} {x : Float} (h : Number.ofInt? i = some x) :
    normalSize (.int i) = .float x := by
  rw [normalSize, h]
  rfl

theorem normalFormat_text {s : String} {format : RecordFormat}
    (h : RecordFormat.ofName? s = some format) : normalFormat (.text s) = .text format.name := by
  rw [normalFormat, RecordFormat.plainName_of_ofName? h]

/-! ## Fitting values -/

variable {k : Setting} {v kept : Value}

theorem normal_of_keeps (h : k.Keeps v) : normal k v = v := by
  cases k with
  | width | viaSize | viaDrill =>
    obtain ⟨x, rfl, -⟩ := h
    rfl
  | locked | precision => rfl
  | format =>
    obtain ⟨format, rfl⟩ := h
    exact normalFormat_text format.ofName?_name

/-- A value that fits is taken over in its normal form. -/
theorem accept_of_fits (h : k.Fits v) : accept k v = .ok (normal k v) := by
  cases k with
  | width | viaSize | viaDrill =>
    obtain ⟨⟨i, rfl, hi⟩ | ⟨x, rfl, hx⟩, hrange⟩ := h
    · cases hdouble : Number.ofInt? i with
      | none => exact absurd ⟨i, rfl, hdouble⟩ hrange
      | some x => simp [accept, normal, normalSize, hdouble, hi]
    · simp [accept, normal, normalSize, hx]
  | locked =>
    obtain ⟨b, rfl⟩ := h
    rfl
  | precision =>
    obtain ⟨i, rfl, hi⟩ := h
    simp [accept, normal, hi]
  | format =>
    obtain ⟨name, rfl, hname⟩ := h
    obtain ⟨format, hformat⟩ := Option.isSome_iff_exists.1 hname
    simp [accept, normal, normalFormat_text hformat, hformat]

/-- What is taken over fits, and is a value that the setting can have. -/
theorem accept_eq_ok (h : accept k v = .ok kept) : k.Fits v ∧ k.Keeps kept := by
  cases k with
  | width | viaSize | viaDrill =>
    cases v with
    | int i =>
      simp only [accept] at h
      split at h
      · cases h
      · next x hx =>
        split at h
        · next hi =>
          have hrange : ¬(Value.int i).IsPastRange := by simp [Value.IsPastRange, hx]
          have hkept : Value.float x = kept := Except.ok.inj h
          exact ⟨⟨.inl ⟨i, rfl, hi⟩, hrange⟩, x, hkept.symm, Number.ofInt?_pos hx hi⟩
        · cases h
    | float x =>
      simp only [accept] at h
      split at h
      · next hx =>
        have hrange : ¬(Value.float x).IsPastRange := by simp [Value.IsPastRange]
        have hkept : Value.float x = kept := Except.ok.inj h
        rw [Bool.and_eq_true, decide_eq_true_eq] at hx
        exact ⟨⟨.inr ⟨x, rfl, hx⟩, hrange⟩, x, hkept.symm, hx⟩
      · cases h
    | _ => cases h
  | locked =>
    cases v with
    | bool b => exact ⟨⟨b, rfl⟩, b, (Except.ok.inj h).symm⟩
    | _ => cases h
  | precision =>
    cases v with
    | int i =>
      simp only [accept] at h
      split at h
      · next hi => exact ⟨⟨i, rfl, hi⟩, .inr ⟨i, (Except.ok.inj h).symm, hi⟩⟩
      · cases h
    | _ => cases h
  | format =>
    cases v with
    | text name =>
      simp only [accept] at h
      split at h
      · next format hformat =>
        exact ⟨⟨name, rfl, by rw [hformat]; rfl⟩, format, (Except.ok.inj h).symm⟩
      · cases h
    | _ => cases h

/-- What is kept of a value is its normal form, and keeps it. -/
theorem normal_of_accept (h : accept k v = .ok kept) : normal k v = kept ∧ normal k kept = kept := by
  obtain ⟨hfits, hkeeps⟩ := accept_eq_ok h
  have hnormal : normal k v = kept := Except.ok.inj ((accept_of_fits hfits).symm.trans h)
  exact ⟨hnormal, normal_of_keeps hkeeps⟩

/-! ## Sources -/

theorem fullName_inj {k other : Setting} : fullName k = fullName other ↔ k = other := by
  cases k <;> cases other <;> decide

/-- A value that is put notes its source for its setting and for no other. -/
theorem Merged.source?_put (m : Merged) (k other : Setting) (value : Value) (source : String) :
    (m.put k value source).source? other = if other = k then some source else m.source? other := by
  have hkept : other ≠ k → ∀ e : String × String, e.1 = fullName other → e.1 ≠ fullName k :=
    fun hk e he hsame => hk (fullName_inj.1 (he.symm.trans hsame))
  unfold put source?
  dsimp only
  split
  · next hnoted =>
    -- the replaced entry is found where the old one was, by the same name
    have hname : ((·.1 == fullName other) ∘ fun e : String × String =>
        if e.1 == fullName k then (fullName k, source) else e) = (·.1 == fullName other) := by
      funext e
      by_cases he : e.1 = fullName k <;> simp [he]
    rw [List.find?_map, hname, Option.map_map]
    by_cases hk : other = k
    · subst hk
      obtain ⟨e, hfound⟩ := Option.isSome_iff_exists.1 (List.find?_isSome.2 (List.any_eq_true.1 hnoted))
      have he := List.find?_some hfound
      rw [if_pos rfl, hfound, Option.map_some, Function.comp_apply, if_pos he]
    · rw [if_neg hk]
      cases hfound : m.sources.find? (·.1 == fullName other) with
      | none => rfl
      | some e =>
        have hfound := List.find?_some hfound
        have he := hkept hk e (beq_iff_eq.1 hfound)
        simp [he]
  · next hnew =>
    rw [List.find?_append]
    by_cases hk : other = k
    · subst hk
      have hnone : m.sources.find? (·.1 == fullName other) = none :=
        List.find?_eq_none.2 fun e he hsame => hnew (List.any_eq_true.2 ⟨e, he, hsame⟩)
      simp [hnone]
    · have hname := hkept hk (fullName other, source) rfl
      simp [hk, Ne.symm hname]

/-! ## Entries -/

variable {m merged : Merged} {t : Table} {source : String}

theorem accept_of_acceptFrom (h : acceptFrom source k v = .ok kept) :
    accept k v = .ok kept := by
  unfold acceptFrom at h
  cases haccept : accept k v with
  | error cause =>
    rw [haccept] at h
    cases h
  | ok value =>
    rw [haccept] at h
    rw [← Except.ok.inj h]

/-- The value that a table has for a setting, if that is one of `ks`. -/
def entryOf? (t : Table) (ks : List Setting) (k : Setting) : Option Value :=
  if k ∈ ks then t.get? k.name else none

theorem entryOf?_cons_self (k : Setting) (ks : List Setting) :
    entryOf? t (k :: ks) k = t.get? k.name := if_pos List.mem_cons_self

theorem entryOf?_cons_of_ne {k first : Setting} (h : k ≠ first) (ks : List Setting) :
    entryOf? t (first :: ks) k = entryOf? t ks k := by
  simp [entryOf?, h]

/-- Entries that are taken over without a fault win over what was there, and leave alone the settings
that have none. The induction is on the settings; one that comes twice is given the same value
again. -/
theorem mergeEntries_spec {ks : List Setting} (h : mergeEntries source t m ks = (merged, none))
    (k : Setting) :
    normal k (merged.settings.get k) =
        normal k ((entryOf? t ks k).getD (m.settings.get k)) ∧
      merged.source? k = if (entryOf? t ks k).isSome then some source else m.source? k := by
  induction ks generalizing m with
  | nil =>
    obtain ⟨rfl, -⟩ := Prod.mk.inj h
    exact ⟨rfl, rfl⟩
  | cons first ks ih =>
    unfold mergeEntries at h
    cases hentry : t.get? first.name with
    | none =>
      rw [hentry] at h
      have hsame : entryOf? t (first :: ks) k = entryOf? t ks k := by
        by_cases hk : k = first
        · subst hk
          rw [entryOf?_cons_self, entryOf?, hentry, ite_self]
        · exact entryOf?_cons_of_ne hk ks
      rw [hsame]
      exact ih h
    | some value =>
      simp only [hentry] at h
      cases hkept : acceptFrom source first value with
      | error fault =>
        simp only [hkept] at h
        cases h
      | ok kept =>
        simp only [hkept] at h
        obtain ⟨hget, hsource⟩ := ih h
        have hput : (m.put first kept source).settings.get k = _ := Settings.get_put _ _ _ _
        rw [hget, hsource, hput, Merged.source?_put]
        by_cases hk : k = first
        · subst hk
          obtain ⟨hvalue, hagain⟩ := normal_of_accept (accept_of_acceptFrom hkept)
          rw [if_pos rfl, if_pos rfl, entryOf?_cons_self, hentry]
          by_cases hmem : k ∈ ks
          · simp [entryOf?, hmem, hentry]
          · simp [entryOf?, hmem, hvalue, hagain]
        · rw [if_neg hk, if_neg hk, entryOf?_cons_of_ne hk]
          exact ⟨rfl, rfl⟩

/-- What entries are taken over depends on what the table has under the names of the settings. -/
theorem mergeEntries_congr {t' : Table} {ks : List Setting}
    (h : ∀ k ∈ ks, t.get? k.name = t'.get? k.name) (source : String) (m : Merged) :
    mergeEntries source t m ks = mergeEntries source t' m ks := by
  induction ks generalizing m with
  | nil => rfl
  | cons first ks ih =>
    obtain ⟨hfirst, hks⟩ := List.forall_mem_cons.1 h
    simp only [mergeEntries, hfirst, ih hks]

/-! ## Merges -/

/-- All names of a table and of its section that are warned of can be written. -/
def NamesTold (t : Table) : Prop :=
  (∀ key ∈ otherSections t, key.isWritable = true) ∧
    ∀ entries, sectionOf? t = some (.table entries) →
      ∀ key ∈ otherNames entries, key.isWritable = true

/-- Behind its warnings a merge comes to its section. -/
theorem merge_of_namesTold (h : NamesTold t) (m : Merged) (source : String) :
    ((merge m t source).merged, (merge m t source).fault) =
      match sectionOf? t with
      | none => (m, none)
      | some (.table entries) => mergeEntries source entries m Setting.all
      | some _ => (m, some (.settings .notTable source)) := by
  have houter : (otherSections t).all Key.isWritable = true := List.all_eq_true.2 h.1
  unfold merge
  rw [if_pos houter]
  cases hsection : sectionOf? t with
  | none => rfl
  | some content =>
    cases content with
    | table entries =>
      have hinner : (otherNames entries).all Key.isWritable = true :=
        List.all_eq_true.2 (h.2 entries hsection)
      simp only [if_pos hinner]
    | _ => rfl

/-- A merge that cannot tell a name does nothing. -/
theorem merge_of_not_namesTold (h : ¬NamesTold t) (m : Merged) (source : String) :
    (merge m t source).merged = m ∧ (merge m t source).fault = some (.breakdown .unfitValue) := by
  unfold merge
  split
  · next houter =>
    -- so the name that cannot be written stands in the section
    have hinner : ∃ entries, sectionOf? t = some (.table entries) ∧
        ¬(otherNames entries).all Key.isWritable = true := by
      by_contra hnone
      refine h ⟨List.all_eq_true.1 houter, fun entries hsection => List.all_eq_true.1 ?_⟩
      by_contra hnot
      exact hnone ⟨entries, hsection, hnot⟩
    obtain ⟨entries, hsection, hnot⟩ := hinner
    simp only [hsection, if_neg hnot, and_self]
  · exact ⟨rfl, rfl⟩

/-- A merge comes to the entries of its table if its names can be told and its section is a table. -/
def Opens (t : Table) (entries : Table) : Prop := NamesTold t ∧ sectionOf? t = some (.table entries)

theorem merge_of_opens {entries : Table} (m : Merged) (source : String) (h : Opens t entries) :
    (merge m t source).merged = (mergeEntries source entries m Setting.all).1 ∧
      (merge m t source).fault = (mergeEntries source entries m Setting.all).2 := by
  have hmerge := merge_of_namesTold h.1 m source
  rw [h.2] at hmerge
  exact Prod.ext_iff.1 hmerge

/-- A merge that does not come to its entries changes nothing, and is at fault unless there is no
section. -/
theorem merge_of_not_opens (m : Merged) (source : String) (h : ∀ entries, ¬Opens t entries) :
    (merge m t source).merged = m ∧
      ((merge m t source).fault = none → NamesTold t ∧ sectionOf? t = none) := by
  by_cases htold : NamesTold t
  · have hmerge := merge_of_namesTold htold m source
    cases hsection : sectionOf? t with
    | none =>
      rw [hsection] at hmerge
      exact ⟨(Prod.mk.inj hmerge).1, fun _ => ⟨htold, rfl⟩⟩
    | some content =>
      rw [hsection] at hmerge
      cases content with
      | table entries => exact absurd ⟨htold, hsection⟩ (h entries)
      | _ =>
        obtain ⟨hmerged, hfault⟩ := Prod.mk.inj hmerge
        exact ⟨hmerged, fun hnone => absurd (hfault.symm.trans hnone) (Option.some_ne_none _)⟩
  · obtain ⟨hmerged, hfault⟩ := merge_of_not_namesTold htold m source
    exact ⟨hmerged, fun hnone => absurd (hfault.symm.trans hnone) (Option.some_ne_none _)⟩

/-- The value that a table defines for a setting. -/
def defined? (t : Table) (k : Setting) : Option Value :=
  match sectionOf? t with
  | some (.table entries) => Table.get? entries k.name
  | _ => none

/-- A merge without a fault takes over all that its table defines and nothing else, and notes where it
came from. -/
theorem merge_spec (m : Merged) (t : Table) (source : String)
    (h : (merge m t source).fault = none) (k : Setting) :
    normal k ((merge m t source).merged.settings.get k) =
        normal k ((defined? t k).getD (m.settings.get k)) ∧
      (merge m t source).merged.source? k =
        if (defined? t k).isSome then some source else m.source? k := by
  unfold defined?
  by_cases hopens : ∃ entries, Opens t entries
  · obtain ⟨entries, hopens⟩ := hopens
    obtain ⟨hmerged, hfault⟩ := merge_of_opens m source hopens
    have htaken : mergeEntries source entries m Setting.all = ((merge m t source).merged, none) :=
      Prod.ext hmerged.symm (hfault.symm.trans h)
    have hspec := mergeEntries_spec htaken k
    have hmem : k ∈ Setting.all := by cases k <;> decide
    rw [entryOf?, if_pos hmem] at hspec
    rw [hopens.2]
    exact hspec
  · obtain ⟨hmerged, hfault⟩ := merge_of_not_opens m source (not_exists.1 hopens)
    rw [hmerged, (hfault h).2]
    exact ⟨rfl, rfl⟩

/-! ## What has no part in a merge -/

/-- A section with nothing but its entries under the keys `keep`. -/
def keepEntries (keep : Key → Bool) (content : Value) : Value :=
  match content.bare with
  | .table entries => .table (entries.filter (keep ·.1))
  | other => other

theorem bare_keepEntries (keep : Key → Bool) (content : Value) :
    (keepEntries keep content).bare = keepEntries keep content.bare := by
  unfold keepEntries
  rw [Value.bare_bare]
  split
  · rfl
  · exact content.bare_bare

/-- A table without its other sections, and without the entries that are no settings. -/
def known (t : Table) : Table :=
  (t.filter (·.1.isText sectionName)).map fun e => (e.1, keepEntries isKnownKey e.2)

theorem get?_known (t : Table) :
    (known t).get? sectionName = (t.get? sectionName).map (keepEntries isKnownKey) := by
  unfold known Table.get?
  rw [List.find?_map, List.find?_filter]
  simp [Function.comp_def]

theorem isKnownKey_of_isText {key : Key} {k : Setting} (h : key.isText k.name = true) :
    isKnownKey key = true := by
  cases key with
  | text s =>
    obtain rfl : s = k.name := beq_iff_eq.1 h
    cases k <;> decide
  | _ => cases h

theorem get?_filter_isKnownKey (entries : Table) (k : Setting) :
    Table.get? (entries.filter (isKnownKey ·.1)) k.name = Table.get? entries k.name := by
  unfold Table.get?
  rw [List.find?_filter]
  congr 2
  funext e
  cases hkey : e.1.isText k.name with
  | false => simp
  | true => simp [isKnownKey_of_isText hkey]

theorem sectionOf?_known (t : Table) :
    sectionOf? (known t) = (sectionOf? t).map (keepEntries isKnownKey) := by
  rw [sectionOf?, sectionOf?, get?_known, Option.map_map, Option.map_map]
  congr 1
  funext content
  exact bare_keepEntries isKnownKey content

theorem otherSections_known (t : Table) : otherSections (known t) = [] := by
  simp [otherSections, known, Table.keys, List.filter_eq_nil_iff]

theorem otherNames_filter_isKnownKey (entries : Table) :
    otherNames (entries.filter (isKnownKey ·.1)) = [] := by
  simp [otherNames, Table.keys, List.filter_eq_nil_iff]

/-- A table with nothing but settings has no names to warn of. -/
theorem namesTold_known (t : Table) : NamesTold (known t) := by
  constructor
  · rw [otherSections_known]
    exact List.forall_mem_nil _
  · intro entries hsection
    rw [sectionOf?_known] at hsection
    obtain ⟨content, -, hcontent⟩ := Option.map_eq_some_iff.1 hsection
    unfold keepEntries at hcontent
    split at hcontent
    · cases hcontent
      rw [otherNames_filter_isKnownKey]
      exact List.forall_mem_nil _
    · next hother => exact absurd hcontent (hother entries)

/-- What is neither the section nor a setting in it has no part in a merge, if it can be told. -/
theorem merge_known (h : NamesTold t) (m : Merged) (source : String) :
    (merge m (known t) source).merged = (merge m t source).merged ∧
      (merge m (known t) source).fault = (merge m t source).fault := by
  have hknown := merge_of_namesTold (namesTold_known t) m source
  have hmerge := merge_of_namesTold h m source
  rw [sectionOf?_known] at hknown
  cases hsection : sectionOf? t with
  | none =>
    rw [hsection] at hknown hmerge
    exact Prod.mk.inj (hknown.trans hmerge.symm)
  | some content =>
    obtain ⟨whole, -, rfl⟩ := Option.map_eq_some_iff.1 hsection
    rw [hsection] at hknown hmerge
    unfold keepEntries at hknown
    rw [Option.map_some, whole.bare_bare] at hknown
    cases hbare : whole.bare with
    | table entries =>
      rw [hbare] at hknown hmerge
      have hsame := mergeEntries_congr
        (fun k (_ : k ∈ Setting.all) => get?_filter_isKnownKey entries k) source m
      exact Prod.mk.inj (hknown.trans (hsame.trans hmerge.symm))
    | _ =>
      rw [hbare] at hknown hmerge
      exact Prod.mk.inj (hknown.trans hmerge.symm)

/-- Tables that differ only in what has no part in a merge come to the same but for the warnings. -/
theorem merge_congr_known {t t' : Table} (m : Merged) (source : String)
    (hmerge : (merge m t source).fault = none) (htold : NamesTold t') (h : known t' = known t) :
    ∃ warnings, merge m t' source = ⟨(merge m t source).merged, warnings, none⟩ := by
  have ht : NamesTold t := by
    by_contra hnot
    cases hmerge.symm.trans (merge_of_not_namesTold hnot m source).2
  obtain ⟨hmerged, hfault⟩ := merge_known ht m source
  obtain ⟨hmerged', hfault'⟩ := merge_known htold m source
  rw [h] at hmerged' hfault'
  refine ⟨(merge m t' source).warnings, ?_⟩
  rw [← hmerged, hmerged', ← hmerge, ← hfault, hfault']

end Settings

end CopperRoute
