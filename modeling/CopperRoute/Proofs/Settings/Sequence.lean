import CopperRoute.Proofs.Settings.Merge

/-!
# Merges one after another

Layers of settings are merged one after another, and a merge that fails leaves what it had taken over
to the next. What a layer takes over is told by its table alone (`Assigns`): of its entries in the
order of the settings, those in front of the first that does not fit.

    layer        width  via size  via drill  locked  precision  format
    entry          fits   fits       -        unfit     fits       -
    taken over      ×      ×

One merge gives a setting the value that its table assigns, with the source beside it, or leaves both
alone (`merge_step`). A sequence of merges therefore shows the last layer that assigned a setting, or
what is built in (`mergeAll_of_last`, `mergeAll_of_none`).
-/

namespace CopperRoute

/-! ## The order of the settings -/

namespace Setting

/-- If there is an entry for the setting, it fits. -/
def FitsIn (k : Setting) (entries : Table) : Prop := ∀ v ∈ entries.get? k.name, k.Fits v

/-- The settings that are read before this one. -/
def before (k : Setting) : List Setting := all.takeWhile (· ≠ k)

/-- The entries up to that of the setting fit, as far as they are there. -/
def Passes (k : Setting) (entries : Table) : Prop :=
  (∀ other ∈ k.before, other.FitsIn entries) ∧ k.FitsIn entries

theorem mem_all (k : Setting) : k ∈ all := by
  cases k <;> decide

theorem mem_before_or (k other : Setting) : k ∈ other.before ∨ k = other ∨ other ∈ k.before := by
  cases k <;> cases other <;> decide

theorem before_trans {k other third : Setting} (h : k ∈ other.before) (h' : third ∈ k.before) :
    third ∈ other.before := by
  revert h h'
  cases k <;> cases other <;> cases third <;> decide

theorem before_of_split {k : Setting} {ks rest : List Setting} (h : all = ks ++ k :: rest) :
    ks = k.before := by
  have hnodup : (ks ++ k :: rest).Nodup := h ▸ (by decide : all.Nodup)
  have hks : ∀ j ∈ ks, decide (j ≠ k) = true := by
    intro j hj
    have hne := (List.nodup_append.1 hnodup).2.2 j hj k List.mem_cons_self
    simpa using hne
  rw [before, h, List.takeWhile_append_of_pos hks]
  simp

theorem all_eq_before (k : Setting) : ∃ rest, all = k.before ++ k :: rest := by
  obtain ⟨ks, rest, h⟩ := List.append_of_mem k.mem_all
  exact ⟨rest, before_of_split h ▸ h⟩

theorem keeps_default (k : Setting) : k.Keeps (({} : Settings).get k) := by
  cases k with
  | width | viaSize | viaDrill => exact ⟨_, rfl, by decide +kernel⟩
  | locked => exact ⟨false, rfl⟩
  | precision => exact .inl rfl
  | format => exact ⟨.kicad8, rfl⟩

end Setting

namespace Settings

/-- Every setting has a value that it can have. -/
def Sound (s : Settings) : Prop := ∀ k : Setting, k.Keeps (s.get k)

variable {k : Setting} {v kept : Value} {entries t : Table} {m : Merged} {source : String}

theorem acceptFrom_of_fits (source : String) (h : k.Fits v) :
    acceptFrom source k v = .ok (normal k v) := by
  rw [acceptFrom, accept_of_fits h]
  rfl

theorem acceptFrom_of_not_fits (source : String) (h : ¬k.Fits v) :
    ∃ fault, acceptFrom source k v = .error fault := by
  cases hkept : acceptFrom source k v with
  | error fault => exact ⟨fault, rfl⟩
  | ok kept => exact absurd (accept_eq_ok (accept_of_acceptFrom hkept)).1 h

/-! ## Entries up to the first that does not fit -/

/-- Entries that all fit are taken over, and what follows them goes on from there. -/
theorem mergeEntries_append (source : String) (m : Merged) (rest : List Setting)
    {ks : List Setting} (h : ∀ k ∈ ks, k.FitsIn entries) :
    (mergeEntries source entries m ks).2 = none ∧
      mergeEntries source entries m (ks ++ rest) =
        mergeEntries source entries (mergeEntries source entries m ks).1 rest := by
  induction ks generalizing m with
  | nil => exact ⟨rfl, rfl⟩
  | cons first ks ih =>
    obtain ⟨hfirst, hks⟩ := List.forall_mem_cons.1 h
    rw [List.cons_append]
    simp only [mergeEntries]
    cases hentry : entries.get? first.name with
    | none => exact ih _ hks
    | some v =>
      have hkept := acceptFrom_of_fits source (hfirst v hentry)
      simp only [hkept]
      exact ih _ hks

theorem mergeEntries_of_not_fitsIn (source : String) (m : Merged) (rest : List Setting)
    (h : ¬k.FitsIn entries) :
    ∃ fault, mergeEntries source entries m (k :: rest) = (m, some fault) := by
  obtain ⟨v, hentry, hunfit⟩ : ∃ v ∈ entries.get? k.name, ¬k.Fits v := by
    simpa [Setting.FitsIn] using h
  obtain ⟨fault, hfault⟩ := acceptFrom_of_not_fits source hunfit
  refine ⟨fault, ?_⟩
  rw [mergeEntries, Option.mem_def.1 hentry]
  simp only [hfault]

theorem mergeEntries_of_missing {ks : List Setting} (h : ∀ k ∈ ks, entries.get? k.name = none) :
    mergeEntries source entries m ks = (m, none) := by
  induction ks with
  | nil => rfl
  | cons first ks ih =>
    obtain ⟨hfirst, hks⟩ := List.forall_mem_cons.1 h
    rw [mergeEntries, hfirst]
    exact ih hks

/-- Of the settings one is the first whose entry does not fit, unless all fit. -/
theorem exists_first_unfit (entries : Table) :
    (∀ k : Setting, k.FitsIn entries) ∨
      ∃ bad : Setting, (∀ k ∈ bad.before, k.FitsIn entries) ∧ ¬bad.FitsIn entries := by
  classical
  cases hfound : Setting.all.find? (fun k => decide ¬k.FitsIn entries) with
  | none =>
    left
    intro k
    have hk := List.find?_eq_none.1 hfound k k.mem_all
    simpa using hk
  | some bad =>
    obtain ⟨hbad, ks, rest, hsplit, hks⟩ := List.find?_eq_some_iff_append.1 hfound
    right
    refine ⟨bad, ?_, by simpa using hbad⟩
    rw [← Setting.before_of_split hsplit]
    intro k hk
    simpa using hks k hk

/-- The entries that are taken over are those of the settings that the merge passes. -/
theorem exists_taken (source : String) (entries : Table) (m : Merged) :
    ∃ ks, (∀ k : Setting, k ∈ ks ↔ k.Passes entries) ∧
      mergeEntries source entries m ks =
        ((mergeEntries source entries m Setting.all).1, none) := by
  rcases exists_first_unfit entries with hfits | ⟨bad, hbefore, hbad⟩
  · have hnone := (mergeEntries_append source m [] fun k (_ : k ∈ Setting.all) => hfits k).1
    exact ⟨Setting.all, fun k => iff_of_true k.mem_all ⟨fun j _ => hfits j, hfits k⟩,
      Prod.ext rfl hnone⟩
  · obtain ⟨rest, hall⟩ := bad.all_eq_before
    obtain ⟨hnone, happend⟩ := mergeEntries_append source m (bad :: rest) hbefore
    obtain ⟨fault, hfault⟩ := mergeEntries_of_not_fitsIn source
      (mergeEntries source entries m bad.before).1 rest hbad
    refine ⟨bad.before, fun k => ⟨fun hk => ?_, fun hk => ?_⟩, ?_⟩
    · exact ⟨fun other hother => hbefore other (Setting.before_trans hk hother), hbefore k hk⟩
    · rcases Setting.mem_before_or k bad with h | rfl | h
      · exact h
      · exact absurd hk.2 hbad
      · exact absurd (hk.1 bad h) hbad
    · rw [hall, happend, hfault]
      exact Prod.ext rfl hnone

theorem Sound.put (hm : m.settings.Sound) (h : k.Keeps v) (source : String) :
    (m.put k v source).settings.Sound := by
  intro other
  have hget : (m.put k v source).settings.get other = _ := Settings.get_put _ _ _ _
  rw [hget]
  split
  · next hother => exact hother ▸ h
  · exact hm other

theorem mergeEntries_sound (hm : m.settings.Sound) (source : String) (entries : Table)
    (ks : List Setting) : (mergeEntries source entries m ks).1.settings.Sound := by
  induction ks generalizing m with
  | nil => exact hm
  | cons first ks ih =>
    simp only [mergeEntries]
    cases entries.get? first.name with
    | none => exact ih hm
    | some v =>
      dsimp only
      cases hkept : acceptFrom source first v with
      | error fault => exact hm
      | ok kept =>
        have hkeeps : first.Keeps kept := (accept_eq_ok (accept_of_acceptFrom hkept)).2
        exact ih (hm.put hkeeps source)

/-! ## One merge -/

/-- A table assigns a value to a setting: a merge comes to its entries, and one of them is for the
setting such that neither it nor one before it ends the merge. -/
def Assigns (t : Table) (k : Setting) (kept : Value) : Prop :=
  ∃ entries, Opens t entries ∧ k.Passes entries ∧ ∃ v ∈ Table.get? entries k.name, normal k v = kept

theorem Opens.unique {entries' : Table} (h : Opens t entries) (h' : Opens t entries') :
    entries = entries' :=
  Value.table.inj (Option.some.inj (h.2.symm.trans h'.2))

theorem merge_sound (hm : m.settings.Sound) (t : Table) (source : String) :
    (merge m t source).merged.settings.Sound := by
  by_cases hopens : ∃ entries, Opens t entries
  · obtain ⟨entries, hopens⟩ := hopens
    rw [(merge_of_opens m source hopens).1]
    exact mergeEntries_sound hm source entries Setting.all
  · rw [(merge_of_not_opens m source (not_exists.1 hopens)).1]
    exact hm

/-- A merge gives a setting the value that its table assigns, and notes the source; what it does not
assign stays. -/
theorem merge_step (hm : m.settings.Sound) (t : Table) (source : String) (k : Setting) :
    let next := (merge m t source).merged
    (∀ kept, Assigns t k kept → next.settings.get k = kept ∧ next.source? k = some source) ∧
      ((∀ kept, ¬Assigns t k kept) →
        next.settings.get k = m.settings.get k ∧ next.source? k = m.source? k) := by
  intro next
  by_cases hopens : ∃ entries, Opens t entries
  · obtain ⟨entries, hopens⟩ := hopens
    obtain ⟨ks, hks, htaken⟩ := exists_taken source entries m
    have hnext : next = (mergeEntries source entries m Setting.all).1 :=
      (merge_of_opens m source hopens).1
    rw [← hnext] at htaken
    have hsound : next.settings.Sound := merge_sound hm t source
    obtain ⟨hget, hsource⟩ := mergeEntries_spec htaken k
    rw [normal_of_keeps (hsound k)] at hget
    constructor
    · rintro kept ⟨entries', hopens', hpasses, v, hentry, rfl⟩
      obtain rfl := hopens.unique hopens'
      have hentry : entryOf? entries ks k = some v := (if_pos ((hks k).2 hpasses)).trans hentry
      rw [hentry] at hget hsource
      exact ⟨hget, hsource⟩
    · intro hnot
      have hentry : entryOf? entries ks k = none := by
        rw [entryOf?, ite_eq_right_iff]
        intro hk
        rw [Option.eq_none_iff_forall_not_mem]
        exact fun v hv => hnot _ ⟨entries, hopens, (hks k).1 hk, v, hv, rfl⟩
      rw [hentry] at hget hsource
      exact ⟨hget.trans (normal_of_keeps (hm k)), hsource⟩
  · have hnext : next = m := (merge_of_not_opens m source (not_exists.1 hopens)).1
    refine ⟨?_, fun _ => by rw [hnext]; exact ⟨rfl, rfl⟩⟩
    rintro kept ⟨entries, hentries, -⟩
    exact absurd ⟨entries, hentries⟩ hopens

/-! ## Failing merges -/

def isNameOf (ks : List Setting) (key : Key) : Bool := ks.any fun k => key.isText k.name

/-- A table whose section has entries for the settings `ks` alone. -/
def cut (ks : List Setting) (t : Table) : Table :=
  t.map fun e => if e.1.isText sectionName then (e.1, keepEntries (isNameOf ks) e.2) else e

theorem get?_cut (ks : List Setting) (t : Table) :
    (cut ks t).get? sectionName = (t.get? sectionName).map (keepEntries (isNameOf ks)) := by
  have hkey : ((·.1.isText sectionName) ∘ fun e : Key × Value =>
      if e.1.isText sectionName then (e.1, keepEntries (isNameOf ks) e.2) else e) =
        (·.1.isText sectionName) := by
    funext e
    by_cases he : e.1.isText sectionName = true <;> simp [he]
  unfold cut Table.get?
  rw [List.find?_map, hkey, Option.map_map, Option.map_map]
  cases hfound : t.find? (·.1.isText sectionName) with
  | none => rfl
  | some e =>
    have he := List.find?_some hfound
    simp [he]

theorem keys_cut (ks : List Setting) (t : Table) : (cut ks t).keys = t.keys := by
  unfold cut Table.keys
  rw [List.map_map]
  apply List.map_congr_left
  intro e _
  by_cases he : e.1.isText sectionName = true <;> simp [he]

/-- Cutting a table down takes away names at most. -/
theorem Opens.cut (h : Opens t entries) (ks : List Setting) :
    Opens (cut ks t) (entries.filter (isNameOf ks ·.1)) := by
  have hsection : sectionOf? (Settings.cut ks t) = some (.table (entries.filter (isNameOf ks ·.1))) := by
    obtain ⟨content, hcontent, hbare⟩ := Option.map_eq_some_iff.1 h.2
    rw [sectionOf?, get?_cut, hcontent, Option.map_some, Option.map_some, bare_keepEntries, hbare]
    rfl
  refine ⟨⟨?_, ?_⟩, hsection⟩
  · rw [otherSections, keys_cut]
    exact h.1.1
  · intro other hother key hkey
    obtain rfl := Value.table.inj (Option.some.inj (hsection.symm.trans hother))
    refine h.1.2 entries h.2 key ?_
    simp only [otherNames, Table.keys, List.mem_filter, List.mem_map] at hkey ⊢
    obtain ⟨⟨e, ⟨hentry, -⟩, rfl⟩, hunknown⟩ := hkey
    exact ⟨⟨e, hentry, rfl⟩, hunknown⟩

theorem get?_filter_isNameOf (ks : List Setting) (entries : Table) (k : Setting) :
    Table.get? (entries.filter (isNameOf ks ·.1)) k.name = entryOf? entries ks k := by
  have hname (key : Key) :
      (isNameOf ks key && key.isText k.name) = (decide (k ∈ ks) && key.isText k.name) := by
    rw [Bool.eq_iff_iff, isNameOf]
    cases key with
    | text s =>
      by_cases hs : s = k.name
      · simp [Key.isText, hs, Setting.name_inj]
      · simp [Key.isText, hs]
    | _ => simp [Key.isText]
  unfold entryOf? Table.get?
  rw [List.find?_filter]
  simp only [Bool.decide_and, Bool.decide_eq_true, hname]
  by_cases hk : k ∈ ks <;> simp [hk]

/-- The names of a table can be told, and its section, if it has one, is a table whose entries
fit. -/
def Mergeable (t : Table) : Prop :=
  NamesTold t ∧ ∀ content ∈ sectionOf? t, ∃ entries, content = .table entries ∧
    ∀ k : Setting, k.FitsIn entries

theorem merge_of_mergeable (m : Merged) (source : String) (h : Mergeable t) :
    (merge m t source).fault = none := by
  cases hsection : sectionOf? t with
  | none =>
    have hmerge := merge_of_namesTold h.1 m source
    rw [hsection] at hmerge
    exact (Prod.mk.inj hmerge).2
  | some content =>
    obtain ⟨entries, rfl, hfits⟩ := h.2 content hsection
    rw [(merge_of_opens m source ⟨h.1, hsection⟩).2]
    exact (mergeEntries_append source m [] fun k (_ : k ∈ Setting.all) => hfits k).1

/-- A merge that fails at an entry takes over what the table takes over that ends before it. -/
theorem merge_cut {bad : Setting} (hopens : Opens t entries)
    (hbefore : ∀ k ∈ bad.before, k.FitsIn entries) (hbad : ¬bad.FitsIn entries) :
    (merge m t source).fault ≠ none ∧ (merge m (cut bad.before t) source).fault = none ∧
      (merge m (cut bad.before t) source).merged = (merge m t source).merged := by
  obtain ⟨rest, hall⟩ := bad.all_eq_before
  let entries' : Table := entries.filter (isNameOf bad.before ·.1)
  have hentry (k : Setting) : entries'.get? k.name = entryOf? entries bad.before k :=
    get?_filter_isNameOf bad.before entries k
  have hsame : ∀ k ∈ bad.before, entries'.get? k.name = entries.get? k.name :=
    fun k hk => (hentry k).trans (if_pos hk)
  have hfits' : ∀ k ∈ bad.before, k.FitsIn entries' :=
    fun k hk v hv => hbefore k hk v ((hsame k hk).symm.trans hv)
  have hmissing : ∀ k ∈ bad :: rest, entries'.get? k.name = none := by
    intro k hk
    have hnodup : (bad.before ++ bad :: rest).Nodup := hall ▸ (by decide : Setting.all.Nodup)
    refine (hentry k).trans (if_neg fun hk' => ?_)
    exact (List.nodup_append.1 hnodup).2.2 k hk' k hk rfl
  obtain ⟨-, happend⟩ := mergeEntries_append source m (bad :: rest) hbefore
  obtain ⟨-, happend'⟩ := mergeEntries_append source m (bad :: rest) hfits'
  obtain ⟨fault, hfault⟩ := mergeEntries_of_not_fitsIn source
    (mergeEntries source entries m bad.before).1 rest hbad
  rw [mergeEntries_of_missing hmissing, mergeEntries_congr hsame] at happend'
  rw [hfault] at happend
  rw [← hall] at happend happend'
  obtain ⟨hmerged, hfault⟩ := merge_of_opens m source hopens
  obtain ⟨hmerged', hfault'⟩ := merge_of_opens m source (hopens.cut bad.before)
  rw [hmerged, hfault, hmerged', hfault', happend, happend']
  exact ⟨Option.some_ne_none fault, rfl, rfl⟩

/-- A merge fails if a name cannot be told or the section is no table, and then it changes nothing, or
at the first entry that does not fit, and then it changes what the table does without this entry and
those behind it. -/
theorem merge_of_not_mergeable (m : Merged) (source : String) (h : ¬Mergeable t) :
    (merge m t source).fault ≠ none ∧
      ((¬NamesTold t ∨ ∀ entries, sectionOf? t ≠ some (.table entries)) ∧
          (merge m t source).merged = m ∨
        ∃ entries, ∃ bad : Setting, sectionOf? t = some (.table entries) ∧
          (∀ k ∈ bad.before, k.FitsIn entries) ∧ ¬bad.FitsIn entries ∧
          (merge m (cut bad.before t) source).fault = none ∧
          (merge m (cut bad.before t) source).merged = (merge m t source).merged) := by
  by_cases hopens : ∃ entries, Opens t entries
  · obtain ⟨entries, hopens⟩ := hopens
    rcases exists_first_unfit entries with hfits | ⟨bad, hbefore, hbad⟩
    · refine absurd ⟨hopens.1, fun content hcontent => ⟨entries, ?_, hfits⟩⟩ h
      exact Option.some.inj (hcontent.symm.trans hopens.2)
    · obtain ⟨hfails, hcut⟩ := merge_cut hopens hbefore hbad
      exact ⟨hfails, .inr ⟨entries, bad, hopens.2, hbefore, hbad, hcut⟩⟩
  · obtain ⟨hmerged, hfault⟩ := merge_of_not_opens m source (not_exists.1 hopens)
    refine ⟨fun hnone => ?_, .inl ⟨?_, hmerged⟩⟩
    · obtain ⟨htold, hsection⟩ := hfault hnone
      exact h ⟨htold, by simp [hsection]⟩
    · by_cases htold : NamesTold t
      · exact .inr fun entries hentries => hopens ⟨entries, htold, hentries⟩
      · exact .inl htold

/-! ## Sequences of merges -/

/-- What layers come to that are merged one after another. A merge that fails hands on what it had
taken over. -/
def mergeAll (m : Merged) (layers : List (Table × String)) : Merged :=
  layers.foldl (fun m layer => (merge m layer.1 layer.2).merged) m

variable {layers : List (Table × String)}

theorem mergeAll_cons (m : Merged) (layer : Table × String) (layers : List (Table × String)) :
    mergeAll m (layer :: layers) = mergeAll (merge m layer.1 layer.2).merged layers := rfl

theorem mergeAll_append (m : Merged) (earlier later : List (Table × String)) :
    mergeAll m (earlier ++ later) = mergeAll (mergeAll m earlier) later := List.foldl_append

theorem mergeAll_sound (hm : m.settings.Sound) (layers : List (Table × String)) :
    (mergeAll m layers).settings.Sound := by
  induction layers generalizing m with
  | nil => exact hm
  | cons layer layers ih => exact ih (merge_sound hm layer.1 layer.2)

/-- Layers that do not assign a setting leave it and its source alone. -/
theorem mergeAll_of_none (hm : m.settings.Sound)
    (h : ∀ layer ∈ layers, ∀ kept, ¬Assigns layer.1 k kept) :
    (mergeAll m layers).settings.get k = m.settings.get k ∧
      (mergeAll m layers).source? k = m.source? k := by
  induction layers generalizing m with
  | nil => exact ⟨rfl, rfl⟩
  | cons layer layers ih =>
    obtain ⟨hlayer, hlayers⟩ := List.forall_mem_cons.1 h
    obtain ⟨hget, hsource⟩ := (merge_step hm layer.1 layer.2 k).2 hlayer
    obtain ⟨hget', hsource'⟩ := ih (merge_sound hm layer.1 layer.2) hlayers
    exact ⟨hget'.trans hget, hsource'.trans hsource⟩

/-- The last layer that assigns a setting gives its value and its source. -/
theorem mergeAll_of_last (hm : m.settings.Sound) (earlier : List (Table × String))
    (source : String) (hassigns : Assigns t k kept)
    (h : ∀ layer ∈ layers, ∀ kept, ¬Assigns layer.1 k kept) :
    (mergeAll m (earlier ++ (t, source) :: layers)).settings.get k = kept ∧
      (mergeAll m (earlier ++ (t, source) :: layers)).source? k = some source := by
  have hearlier : (mergeAll m earlier).settings.Sound := mergeAll_sound hm earlier
  obtain ⟨hget, hsource⟩ := (merge_step hearlier t source k).1 kept hassigns
  obtain ⟨hget', hsource'⟩ := mergeAll_of_none (merge_sound hearlier t source) h
  rw [mergeAll_append, mergeAll_cons]
  exact ⟨hget'.trans hget, hsource'.trans hsource⟩

/-- Of the layers that assign a setting one is the last. -/
theorem exists_last {layers : List (Table × String)}
    (h : ¬∀ layer ∈ layers, ∀ kept, ¬Assigns layer.1 k kept) :
    ∃ earlier t source later kept, layers = earlier ++ (t, source) :: later ∧ Assigns t k kept ∧
      ∀ layer ∈ later, ∀ kept, ¬Assigns layer.1 k kept := by
  induction layers with
  | nil => exact absurd (by simp) h
  | cons layer layers ih =>
    by_cases hlater : ∀ layer ∈ layers, ∀ kept, ¬Assigns layer.1 k kept
    · obtain ⟨kept, hkept⟩ : ∃ kept, Assigns layer.1 k kept := by
        by_contra hnone
        exact h (List.forall_mem_cons.2 ⟨not_exists.1 hnone, hlater⟩)
      exact ⟨[], layer.1, layer.2, layers, kept, rfl, hkept, hlater⟩
    · obtain ⟨earlier, t, source, later, kept, rfl, hlast⟩ := ih hlater
      exact ⟨layer :: earlier, t, source, later, kept, rfl, hlast⟩

/-- What any layers come to that are merged one after another onto the defaults, where some of the
merges may fail. Every setting has a value that it can have. It shows the value and the source of the
last layer that assigned it; one that no layer assigned has no source, and the default value. A next
merge fails exactly if the table has a name that cannot be told, or its section is there and is not a
table of entries that fit. Then it changes nothing if such a name is there or the section is no table,
and otherwise what the table does that is cut down to the settings before the first whose entry does
not fit. -/
theorem merges_in_sequence (layers : List (Table × String)) :
    let m := mergeAll {} layers
    m.settings.Sound ∧
    (∀ k : Setting,
      (m.source? k = none ↔ ∀ layer ∈ layers, ∀ kept, ¬Assigns layer.1 k kept) ∧
      (m.source? k = none → m.settings.get k = ({} : Settings).get k) ∧
      ∀ earlier t source later kept, layers = earlier ++ (t, source) :: later →
        Assigns t k kept → (∀ layer ∈ later, ∀ kept, ¬Assigns layer.1 k kept) →
        m.source? k = some source ∧ m.settings.get k = kept) ∧
    ∀ t source,
      ((merge m t source).fault = none ↔ Mergeable t) ∧
      ((merge m t source).fault ≠ none →
        (¬NamesTold t ∨ ∀ entries, sectionOf? t ≠ some (.table entries)) ∧
            (merge m t source).merged = m ∨
        ∃ entries, ∃ bad : Setting, sectionOf? t = some (.table entries) ∧
          (∀ k ∈ bad.before, k.FitsIn entries) ∧ ¬bad.FitsIn entries ∧
          (merge m (cut bad.before t) source).fault = none ∧
          (merge m (cut bad.before t) source).merged = (merge m t source).merged) := by
  intro m
  have hdefault : ({} : Merged).settings.Sound := Setting.keeps_default
  refine ⟨mergeAll_sound hdefault layers, fun k => ?_, fun t source => ?_⟩
  · have hnone (h : ∀ layer ∈ layers, ∀ kept, ¬Assigns layer.1 k kept) :
        m.settings.get k = ({} : Settings).get k ∧ m.source? k = none := mergeAll_of_none hdefault h
    have hunrecorded : m.source? k = none → ∀ layer ∈ layers, ∀ kept, ¬Assigns layer.1 k kept := by
      intro hsource
      by_contra hassigned
      obtain ⟨earlier, t, source, later, kept, hlayers, hkept, hlater⟩ := exists_last hassigned
      have hlast := (mergeAll_of_last hdefault earlier source hkept hlater).2
      rw [← hlayers] at hlast
      exact Option.some_ne_none source (hlast.symm.trans hsource)
    refine ⟨⟨hunrecorded, fun h => (hnone h).2⟩, fun h => (hnone (hunrecorded h)).1, ?_⟩
    rintro earlier t source later kept hlayers hkept hlater
    have hlast := mergeAll_of_last hdefault earlier source hkept hlater
    rw [← hlayers] at hlast
    exact hlast.symm
  · by_cases hmergeable : Mergeable t
    · have hnone := merge_of_mergeable m source hmergeable
      exact ⟨iff_of_true hnone hmergeable, fun h => absurd hnone h⟩
    · obtain ⟨hfails, hcut⟩ := merge_of_not_mergeable m source hmergeable
      exact ⟨iff_of_false hfails hmergeable, fun _ => hcut⟩

/-- The second of two layers fails at the size of vias: its width counts, and its lock does not. -/
theorem merges_in_sequence_second_fails :
    let user : Table := [(.text "format", .text " Legacy")]
    let project : Table := [(.text "locked", .bool true), (.text "via_size", .text "big"),
      (.text "width", .int 2)]
    let layer (entries : Table) : Table := [(.text "router", .table entries)]
    let m := mergeAll {} [(layer user, "user.toml"), (layer project, "project.toml")]
    m.settings.Sound ∧
      (m.source? .width = some "project.toml" ∧ m.settings.get .width = .float 2) ∧
      (m.source? .format = some "user.toml" ∧ m.settings.get .format = .text "legacy") ∧
      (m.source? .locked = none ∧ m.settings.get .locked = .bool false) ∧
      (merge m (layer project) "project.toml").fault ≠ none := by
  intro user project layer m
  obtain ⟨hsound, hsettings, hnext⟩ :=
    merges_in_sequence [(layer user, "user.toml"), (layer project, "project.toml")]
  have hopens (entries : Table) (hnames : otherNames entries = []) :
      Opens (layer entries) entries := by
    refine ⟨⟨by simp [otherSections, layer, Table.keys, Key.isText, sectionName], ?_⟩, rfl⟩
    rintro other hother key hkey
    obtain rfl := Value.table.inj (Option.some.inj hother)
    rw [hnames] at hkey
    cases hkey
  have huser' := hopens user rfl
  have hproject' := hopens project rfl
  have hsize : ¬Setting.viaSize.FitsIn project := by
    intro h
    have hfits : Setting.viaSize.Fits (.text "big") := h _ rfl
    simp [Setting.Fits, Value.IsSize] at hfits
  -- of the second layer nothing counts from the size of vias on
  have hproject : ∀ k kept, Assigns (layer project) k kept → k ∈ Setting.viaSize.before := by
    rintro k kept ⟨entries, hentries, hpasses, -⟩
    obtain rfl := hproject'.unique hentries
    rcases Setting.mem_before_or .viaSize k with h | rfl | h
    · exact absurd (hpasses.1 _ h) hsize
    · exact absurd hpasses.2 hsize
    · exact h
  have huser : ∀ k kept, Assigns (layer user) k kept → k = .format := by
    rintro k kept ⟨entries, hentries, -, v, hv, -⟩
    obtain rfl := huser'.unique hentries
    cases k with
    | format => rfl
    | _ => cases hv
  have hwidth : Assigns (layer project) .width (.float 2) := by
    refine ⟨project, hproject', ⟨fun k hk => absurd hk (by decide +revert), ?_⟩, .int 2, rfl, rfl⟩
    rintro v hv
    obtain rfl := Option.some.inj hv
    refine ⟨.inl ⟨2, rfl, by decide⟩, ?_⟩
    rintro ⟨i, hi, hnone⟩
    have hsome : (Number.ofInt? 2).isSome = true := by decide +kernel
    rw [Value.int.inj hi, hnone] at hsome
    cases hsome
  have hformat : Assigns (layer user) .format (.text "legacy") := by
    refine ⟨user, huser', ⟨fun k hk v hv => ?_, ?_⟩, .text " Legacy", rfl, rfl⟩
    · cases k with
      | format => exact absurd hk (by decide)
      | _ => cases hv
    · rintro v hv
      obtain rfl := Option.some.inj hv
      exact ⟨_, rfl, by decide +kernel⟩
  refine ⟨hsound, ?_, ?_, ?_, ?_⟩
  · exact (hsettings .width).2.2 [(layer user, "user.toml")] _ _ [] _ rfl hwidth (by simp)
  · refine (hsettings .format).2.2 [] _ _ _ _ rfl hformat ?_
    rintro layer hlayer kept hkept
    obtain rfl := List.mem_singleton.1 hlayer
    exact absurd (hproject _ _ hkept) (by decide)
  · obtain ⟨hnone, hdefault, -⟩ := hsettings .locked
    have hunrecorded : m.source? .locked = none := by
      rw [hnone, List.forall_mem_cons, List.forall_mem_singleton]
      constructor
      · rintro kept hkept
        cases huser _ _ hkept
      · rintro kept hkept
        exact absurd (hproject _ _ hkept) (by decide)
    exact ⟨hunrecorded, hdefault hunrecorded⟩
  · intro hnone
    obtain ⟨-, hsection⟩ := (hnext _ _).1.1 hnone
    obtain ⟨entries, hentries, hfits⟩ := hsection _ hproject'.2
    obtain rfl := Value.table.inj hentries
    exact hsize (hfits .viaSize)

end Settings

end CopperRoute
