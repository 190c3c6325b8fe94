import CopperRoute.Session

/-!
# How net tables grow

A table changes in one way only: names come in at its end. `insertAll` enters several names, and
`names_insertAll` says which ones it then holds and in which order. Whatever a table knows is known
to every table that grew from it (`find?_insertAll`), and a name and an index always go together
(`Holds.index_eq_iff`).
-/

namespace CopperRoute.NetTable

variable {t : NetTable} {name : String} {names : List String} {net : Net}

/-! ## One name -/

/-- What is found has the name that was looked for. -/
theorem name_of_find? (h : t.find? name = some net) : net.name = name := by
  simpa using List.find?_some h

theorem netOf_of_find? (h : t.find? name = some net) : t.netOf name = net := by
  rw [netOf, h]
  rfl

/-- A name that is found stays as it is when another one is entered. -/
theorem find?_insert (h : t.find? name = some net) (other : String) :
    (t.insert other).find? name = some net := by
  by_cases ho : other = "" ∨ other ∈ t.names
  · rwa [insert_of_mem ho]
  · rw [find?, nets_insert ho, List.find?_append, show t.nets.find? _ = _ from h]
    rfl

@[simp] theorem netOf_insert_self (t : NetTable) (name : String) :
    (t.insert name).netOf name = t.netOf name :=
  netOf_of_find? (find?_insert_self t name)

theorem insert_of_find? (h : t.find? name = some net) : t.insert name = t :=
  insert_of_mem (isSome_find?_iff.1 (by rw [h]; rfl))

/-! ## Several names -/

/-- The table in which all `names` have an index, entered in their order. -/
def insertAll (t : NetTable) (names : List String) : NetTable := names.foldl insert t

@[simp] theorem insertAll_nil (t : NetTable) : t.insertAll [] = t := rfl

theorem insertAll_cons (t : NetTable) (name : String) (names : List String) :
    t.insertAll (name :: names) = (t.insert name).insertAll names := rfl

theorem insertAll_append (t : NetTable) (names others : List String) :
    t.insertAll (names ++ others) = (t.insertAll names).insertAll others :=
  List.foldl_append

@[simp] theorem insertAll_snoc (t : NetTable) (names : List String) (name : String) :
    t.insertAll (names ++ [name]) = (t.insertAll names).insert name :=
  insertAll_append t names [name]

@[simp] theorem allocate_insertAll (t : NetTable) (names : List String) :
    (t.insertAll names).allocate = t.allocate := by
  induction names generalizing t with
  | nil => rfl
  | cons name names ih => rw [insertAll_cons, ih, allocate_insert]

theorem find?_insertAll (h : t.find? name = some net) (names : List String) :
    (t.insertAll names).find? name = some net := by
  induction names generalizing t with
  | nil => exact h
  | cons other names ih => exact ih (find?_insert h other)

/-- Names that are known leave the table as it is. -/
theorem insertAll_of_forall_mem (h : ∀ name ∈ names, name = "" ∨ name ∈ t.names) :
    t.insertAll names = t := by
  induction names with
  | nil => rfl
  | cons name names ih =>
    obtain ⟨hname, hnames⟩ := List.forall_mem_cons.1 h
    rw [insertAll_cons, insert_of_mem hname, ih hnames]

/-- A list without repetitions has none to erase. -/
theorem eraseDups_of_nodup {names : List String} (h : names.Nodup) : names.eraseDups = names := by
  induction names with
  | nil => rfl
  | cons name names ih =>
    obtain ⟨hname, hnames⟩ := List.nodup_cons.1 h
    have hkeep : names.filter (fun other => !other == name) = names := by
      rw [List.filter_eq_self]
      intro other ho
      simpa using ne_of_mem_of_not_mem ho hname
    rw [List.eraseDups_cons, hkeep, ih hnames]

/-- Of a name that was there before, a further occurrence is erased. -/
theorem eraseDups_append_cons_of_mem {names others : List String} {name : String}
    (h : name ∈ names) : (names ++ name :: others).eraseDups = (names ++ others).eraseDups := by
  rw [List.eraseDups_append, List.eraseDups_append]
  congr 2
  simp [List.removeAll, h]

/-- The names of a table that grew: those it had, and then the new ones in the order in which they
first turn up. -/
theorem names_insertAll (t : NetTable) (names : List String) :
    (t.insertAll names).names = (t.names ++ names.filter (· ≠ "")).eraseDups := by
  induction names generalizing t with
  | nil => simp [eraseDups_of_nodup t.nodup]
  | cons name names ih =>
    rw [insertAll_cons, ih]
    by_cases h : name = "" ∨ name ∈ t.names
    · rw [insert_of_mem h]
      rcases h with rfl | h
      · rfl
      -- a name that is known stands further left already
      · have hne : name ≠ "" := fun he => t.named (he ▸ h)
        rw [List.filter_cons_of_pos (by simpa using hne), eraseDups_append_cons_of_mem h]
    · have hne : name ≠ "" := fun he => h (Or.inl he)
      rw [names_insert_of_not_mem h, List.filter_cons_of_pos (by simpa using hne),
        List.append_assoc]
      rfl

/-- Every name in a list is known to its table. -/
theorem mem_names_ofList (h : name ∈ names) (allocate : Bool) :
    name = "" ∨ name ∈ (ofList names allocate).names := by
  show name = "" ∨ name ∈ ((empty allocate).insertAll names).names
  rw [names_insertAll, List.mem_eraseDups, List.mem_append, List.mem_filter]
  by_cases hne : name = ""
  · exact .inl hne
  · exact .inr (.inr ⟨h, by simpa using hne⟩)

/-! ## Answers -/

/-- A table answers a name that it knows or may enter, and holds it afterwards. -/
theorem resolve_eq_ok (h : t.allocate = true ∨ (t.find? name).isSome) :
    t.resolve name = .ok (t.insert name, t.netOf name) := by
  unfold resolve
  split
  · next net hnet => rw [insert_of_find? hnet, netOf_of_find? hnet]
  · next hnone =>
    rw [hnone] at h
    rw [if_pos (by simpa using h)]

/-- A table refuses the names that it neither knows nor may enter. -/
theorem resolve_eq_error (ha : t.allocate = false) (h : t.find? name = none) :
    t.resolve name = .error (.unknownNet name t.names) := by
  rw [resolve, h]
  simp [ha]

/-- An answer is that of `netOf`, and the name is in the table from then on. -/
theorem eq_of_resolve_eq_ok {t' : NetTable} (h : t.resolve name = .ok (t', net)) :
    t' = t.insert name ∧ net = t.netOf name := by
  unfold resolve at h
  split at h
  · next known hknown =>
    obtain ⟨rfl, rfl⟩ := Prod.mk.inj (Except.ok.inj h)
    exact ⟨(insert_of_find? hknown).symm, (netOf_of_find? hknown).symm⟩
  · split at h
    · obtain ⟨rfl, rfl⟩ := Prod.mk.inj (Except.ok.inj h)
      exact ⟨rfl, rfl⟩
    · cases h

/-- A name that is known is answered, and the table stays as it is. -/
theorem resolve_of_find? (h : t.find? name = some net) : t.resolve name = .ok (t, net) := by
  rw [resolve_eq_ok (.inr (by rw [h]; rfl)), insert_of_find? h, netOf_of_find? h]

/-! ## What work makes of a table -/

/-- `u` is what work can make of `t`: more names stand at its end if `t` takes names in, and nothing
changed if it does not. -/
def Grown (t u : NetTable) : Prop := u = t ∨ t.allocate = true ∧ ∃ names, u = t.insertAll names

theorem Grown.refl (t : NetTable) : t.Grown t := .inl rfl

theorem Grown.trans {u v : NetTable} (h : t.Grown u) (h' : u.Grown v) : t.Grown v := by
  rcases h with rfl | ⟨hopen, names, rfl⟩
  · exact h'
  · rcases h' with rfl | ⟨-, later, rfl⟩
    · exact .inr ⟨hopen, names, rfl⟩
    · exact .inr ⟨hopen, names ++ later, (insertAll_append t names later).symm⟩

theorem Grown.find? {u : NetTable} (h : t.Grown u) (hfind : t.find? name = some net) :
    u.find? name = some net := by
  rcases h with rfl | ⟨-, names, rfl⟩
  · exact hfind
  · exact find?_insertAll hfind names

/-- Asking for a name is work on the table. -/
theorem Grown.of_resolve {u : NetTable} (h : t.resolve name = .ok (u, net)) : t.Grown u := by
  unfold resolve at h
  split at h
  · obtain ⟨rfl, -⟩ := Prod.mk.inj (Except.ok.inj h)
    exact .refl t
  · split at h
    · next hopen =>
      obtain ⟨rfl, -⟩ := Prod.mk.inj (Except.ok.inj h)
      exact .inr ⟨hopen, [name], rfl⟩
    · cases h

/-- What was answered once is answered in the same way by every table that grew from it since. -/
theorem resolve_of_grown {u v : NetTable} (h : t.resolve name = .ok (u, net)) (hgrown : u.Grown v) :
    v.resolve name = .ok (v, net) := by
  obtain ⟨rfl, rfl⟩ := eq_of_resolve_eq_ok h
  exact resolve_of_find? (hgrown.find? (find?_insert_self t name))

/-! ## Names and indices -/

/-- `net` is what the table has for its name. -/
def Holds (t : NetTable) (net : Net) : Prop := t.find? net.name = some net

theorem holds_none (t : NetTable) : t.Holds Net.none := rfl

theorem holds_netOf (t : NetTable) (name : String) : (t.insert name).Holds (t.netOf name) := by
  have hfind := find?_insert_self t name
  rwa [Holds, name_of_find? hfind]

theorem Holds.insertAll (h : t.Holds net) (names : List String) : (t.insertAll names).Holds net :=
  find?_insertAll h names

/-- A net of a table is the absent one, or has the place of its name as its index. -/
theorem Holds.eq_none_or (h : t.Holds net) :
    net = Net.none ∨ ∃ i, ∃ hi : i < t.names.length, net = ⟨i + 1, t.names[i]⟩ := by
  have hmem : net ∈ t.nets := List.mem_of_find?_eq_some h
  rw [nets, List.mem_cons, List.mem_map] at hmem
  refine hmem.imp_right ?_
  rintro ⟨e, he, rfl⟩
  obtain ⟨i, hi, rfl⟩ := List.mem_iff_getElem.1 he
  rw [List.length_zipIdx] at hi
  exact ⟨i, hi, by simp⟩

/-- Two nets of a table have the same index exactly if they have the same name. -/
theorem Holds.index_eq_iff {other : Net} (h : t.Holds net) (h' : t.Holds other) :
    net.index = other.index ↔ net.name = other.name := by
  constructor
  · intro hi
    rcases h.eq_none_or with rfl | ⟨i, hi₁, rfl⟩ <;>
      rcases h'.eq_none_or with rfl | ⟨j, hj, rfl⟩
    · rfl
    · exact absurd hi (by simp [Net.none]; omega)
    · exact absurd hi (by simp [Net.none]; omega)
    · obtain rfl : i = j := by
        simp only at hi
        omega
      rfl
  · intro hn
    have hfind : t.find? net.name = some other := by rwa [hn]
    rw [Option.some.inj (h.symm.trans hfind)]

end CopperRoute.NetTable
