import CopperRoute.Proofs.Net.Growth

/-!
# The history of a net table

A table lives through operations: names are entered, nets are asked for, and new names are allowed
or not, all in any order. `enter` says what a name makes of a list of nets without a table: a name
that no net has yet gets the number of the nets as its index. What a table lists after any history
is this, name by name (`nets_afterAll`), and what a name was answered once it is answered ever after
(`on_of_find?`).

Main statement: `listing_of_history`.
-/

namespace CopperRoute.NetTable

/-! ## Operations -/

/-- An operation on a table. A call of the table asks for a net as well. -/
inductive Operation where
  /-- enter a name, whether new names are allowed or not -/
  | add (name : String)
  /-- ask for the net of a name -/
  | resolve (name : String)
  /-- allow new names or not -/
  | assign (allocate : Bool)

namespace Operation

/-- What an operation answers, and the table afterwards. -/
def on (t : NetTable) : Operation → Except Fault (Option Net) × NetTable
  | add name => (.ok (some (t.netOf name)), t.insert name)
  | resolve name =>
    match t.resolve name with
    | .ok (u, net) => (.ok (some net), u)
    | .error fault => (.error fault, t)
  | assign allocate => (.ok none, t.setAllocate allocate)

def name? : Operation → Option String
  | add name | resolve name => some name
  | assign _ => none

def flag? : Operation → Option Bool
  | assign allocate => some allocate
  | add _ | resolve _ => none

end Operation

def afterAll (t : NetTable) (ops : List Operation) : NetTable :=
  ops.foldl (fun t op => (op.on t).2) t

/-- The names that operations enter, by whether new names are allowed at the start. -/
def entered : Bool → List Operation → List String
  | _, [] => []
  | allocate, .add name :: ops => name :: entered allocate ops
  | allocate, .resolve name :: ops => (if allocate then [name] else []) ++ entered allocate ops
  | _, .assign allocate :: ops => entered allocate ops

/-- The nets with one for `name`: a name that none of them has gets their number as its index. -/
def enter (nets : List Net) (name : String) : List Net :=
  if nets.any (·.name == name) then nets else nets ++ [⟨nets.length, name⟩]

variable {t : NetTable} {name : String} {net : Net}

/-! ## The listing of a table -/

theorem map_name_nets (t : NetTable) : t.nets.map Net.name = "" :: t.names := by
  simp [nets, Net.none, Function.comp_def, List.zipIdx_map_fst]

theorem nodup_map_name_nets (t : NetTable) : (t.nets.map Net.name).Nodup := by
  rw [map_name_nets]
  exact List.nodup_cons.2 ⟨t.named, t.nodup⟩

/-- The index of a net is its place. -/
theorem index_of_getElem? {i : Nat} (h : t.nets[i]? = some net) : net.index = i := by
  cases i with
  | zero =>
    obtain rfl := Option.some.inj h
    rfl
  | succ i =>
    rw [nets, List.getElem?_cons_succ, List.getElem?_map, List.getElem?_zipIdx] at h
    obtain ⟨e, he, rfl⟩ := Option.map_eq_some_iff.1 h
    obtain ⟨name, -, rfl⟩ := Option.map_eq_some_iff.1 he
    simp

theorem isSome_find?_iff_mem : (t.find? name).isSome ↔ name ∈ t.nets.map Net.name := by
  rw [isSome_find?_iff, map_name_nets, List.mem_cons]

/-- A net that is found is listed under its name. -/
theorem mem_nets_of_find? (h : t.find? name = some net) : net ∈ t.nets ∧ net.name = name :=
  ⟨List.mem_of_find?_eq_some h, name_of_find? h⟩

/-- What a table lists with one name more is read off its listing alone. -/
theorem nets_insert_eq_enter (t : NetTable) (name : String) :
    (t.insert name).nets = enter t.nets name := by
  have hany : t.nets.any (·.name == name) = true ↔ name = "" ∨ name ∈ t.names := by
    rw [← isSome_find?_iff, find?, List.find?_isSome, List.any_eq_true]
  by_cases h : name = "" ∨ name ∈ t.names
  · rw [insert_of_mem h, enter, if_pos (hany.2 h)]
  · rw [nets_insert h, enter, if_neg (mt hany.1 h)]
    simp [nets]

/-! ## Single operations -/

/-- A name that is known is answered by its net, however it is asked for, and the table stays. -/
theorem on_of_find? {op : Operation} (hop : op.name? = some name) (h : t.find? name = some net) :
    op.on t = (.ok (some net), t) := by
  cases op with
  | add other =>
    obtain rfl := Option.some.inj hop
    rw [Operation.on, netOf_of_find? h, insert_of_find? h]
  | resolve other =>
    obtain rfl := Option.some.inj hop
    rw [Operation.on, resolve_of_find? h]
  | assign allocate => cases hop

/-- A name that is answered is known from then on. -/
theorem find?_of_on_eq_ok {op : Operation} {u : NetTable} (hop : op.name? = some name)
    (h : op.on t = (.ok (some net), u)) : u.find? name = some net := by
  cases op with
  | add other =>
    obtain rfl := Option.some.inj hop
    obtain ⟨hnet, rfl⟩ := Prod.mk.inj h
    rw [find?_insert_self, Option.some.inj (Except.ok.inj hnet)]
  | resolve other =>
    obtain rfl := Option.some.inj hop
    cases hanswer : t.resolve other with
    | error fault =>
      simp only [Operation.on, hanswer] at h
      cases h
    | ok answer =>
      simp only [Operation.on, hanswer] at h
      obtain ⟨hnet, rfl⟩ := Prod.mk.inj h
      obtain ⟨htable, hnet'⟩ := eq_of_resolve_eq_ok hanswer
      rw [htable, find?_insert_self, ← hnet', Option.some.inj (Except.ok.inj hnet)]
  | assign allocate => cases hop

/-- To ask for a net is to enter its name, if new names are allowed, and changes nothing if not. -/
theorem resolve_on_snd (t : NetTable) (name : String) :
    ((Operation.resolve name).on t).2 = if t.allocate then t.insert name else t := by
  cases hfind : t.find? name with
  | some net =>
    rw [on_of_find? rfl hfind, insert_of_find? hfind, ite_self]
  | none =>
    by_cases hopen : t.allocate = true
    · rw [Operation.on, resolve_eq_ok (.inl hopen), if_pos hopen]
    · rw [Operation.on, resolve_eq_error (by simpa using hopen) hfind, if_neg hopen]

/-- A table refuses a net exactly if the name is new and new names are not allowed; it stays as it
is. -/
theorem resolve_on_eq_error_iff (fault : Fault) :
    ((Operation.resolve name).on t).1 = .error fault ↔
      (name ∉ t.nets.map Net.name ∧ t.allocate = false) ∧ fault = .unknownNet name t.names := by
  cases hfind : t.find? name with
  | some net =>
    have hmem : name ∈ t.nets.map Net.name := isSome_find?_iff_mem.1 (by rw [hfind]; rfl)
    have hon : (Operation.resolve name).on t = _ := on_of_find? rfl hfind
    simp [hon, hmem]
  | none =>
    have hmem : name ∉ t.nets.map Net.name := by
      rw [← isSome_find?_iff_mem, hfind]
      simp
    by_cases hopen : t.allocate = true
    · simp [Operation.on, resolve_eq_ok (.inl hopen), hopen]
    · have hclosed : t.allocate = false := by simpa using hopen
      simp [Operation.on, resolve_eq_error hclosed hfind, hmem, hclosed, eq_comm]

/-- An operation enters its name at most, and at the end. -/
theorem nets_on (t : NetTable) (op : Operation) :
    (op.on t).2.nets = t.nets ∨ ∃ name, (op.on t).2.nets = enter t.nets name := by
  cases op with
  | add name => exact .inr ⟨name, nets_insert_eq_enter t name⟩
  | resolve name =>
    rw [resolve_on_snd]
    split
    · exact .inr ⟨name, nets_insert_eq_enter t name⟩
    · exact .inl rfl
  | assign allocate => exact .inl rfl

/-- The nets of before come first, and at most one comes behind them. -/
theorem exists_added_of_on (t : NetTable) (op : Operation) :
    ∃ added, (op.on t).2.nets = t.nets ++ added ∧ added.length ≤ 1 := by
  rcases nets_on t op with hsame | ⟨name, hname⟩
  · exact ⟨[], by rw [hsame, List.append_nil], Nat.zero_le 1⟩
  · rw [hname, enter]
    split
    · exact ⟨[], by rw [List.append_nil], Nat.zero_le 1⟩
    · exact ⟨_, rfl, Nat.le_refl 1⟩

/-! ## Histories -/

theorem find?_on (h : t.find? name = some net) (op : Operation) :
    (op.on t).2.find? name = some net := by
  cases op with
  | add other => exact find?_insert h other
  | resolve other =>
    rw [resolve_on_snd]
    split
    · exact find?_insert h other
    · exact h
  | assign allocate => exact h

/-- A net that is found is found after any history, and is the same one. -/
theorem find?_afterAll (h : t.find? name = some net) (ops : List Operation) :
    (t.afterAll ops).find? name = some net := by
  induction ops generalizing t with
  | nil => exact h
  | cons op ops ih => exact ih (find?_on h op)

/-- A table lists the nets of the names that were entered, each with the number of the nets before it
as its index. -/
theorem nets_afterAll (t : NetTable) (ops : List Operation) :
    (t.afterAll ops).nets = (entered t.allocate ops).foldl enter t.nets := by
  induction ops generalizing t with
  | nil => rfl
  | cons op ops ih =>
    have hrest : (t.afterAll (op :: ops)).nets = _ := ih (op.on t).2
    rw [hrest]
    cases op with
    | add name =>
      rw [Operation.on, allocate_insert, nets_insert_eq_enter]
      rfl
    | resolve name =>
      rw [resolve_on_snd, entered]
      split
      · rw [allocate_insert, nets_insert_eq_enter]
        rfl
      · rfl
    | assign allocate => rfl

theorem nets_insertAll (t : NetTable) (names : List String) :
    (t.insertAll names).nets = names.foldl enter t.nets := by
  induction names generalizing t with
  | nil => rfl
  | cons name names ih =>
    rw [insertAll_cons, ih, nets_insert_eq_enter]
    rfl

theorem nets_ofList (names : List String) (allocate : Bool) :
    (ofList names allocate).nets = names.foldl enter [Net.none] :=
  nets_insertAll (empty allocate) names

theorem allocate_ofList (names : List String) (allocate : Bool) :
    (ofList names allocate).allocate = allocate :=
  allocate_insertAll (empty allocate) names

theorem allocate_on (t : NetTable) (op : Operation) :
    (op.on t).2.allocate = op.flag?.getD t.allocate := by
  cases op with
  | add name => exact allocate_insert t name
  | resolve name =>
    rw [resolve_on_snd]
    split
    · exact allocate_insert t name
    · rfl
  | assign allocate => rfl

/-- The flag is what it was set to last. -/
theorem allocate_afterAll (t : NetTable) (ops : List Operation) :
    (t.afterAll ops).allocate = (ops.filterMap Operation.flag?).getLast?.getD t.allocate := by
  induction ops generalizing t with
  | nil => rfl
  | cons op ops ih =>
    have hrest : (t.afterAll (op :: ops)).allocate = _ := ih (op.on t).2
    rw [hrest, allocate_on, List.filterMap_cons]
    cases op.flag? with
    | none => rfl
    | some allocate => rw [List.getLast?_cons, Option.getD_some, Option.getD_some]

/-! ## Main statement -/

/-- After any history of a table, whatever names and flag it started with, it lists the nets of the
names that were entered so far, each new one with the number of the nets before it as its index. So
the absent net comes first, every net has its place as its index, no two nets have the same name, and
the names of the table are those of all nets but the first.

Each further operation leaves this listing as the start of the new one, behind which comes at most
one net. A name that is added is always answered. A name that is answered, however it is asked for,
is answered by the net that is listed under it, and after any further history is answered by the same
net again. A net is refused exactly if its name is not listed and the flag, as it was set last, does
not allow new names; the table then stays as it is. -/
theorem listing_of_history (names : List String) (allocate : Bool) (ops : List Operation) :
    let t := (ofList names allocate).afterAll ops
    t.nets = (names ++ entered allocate ops).foldl enter [Net.none] ∧
    t.nets.head? = some Net.none ∧
    (∀ (i : Nat) (net : Net), t.nets[i]? = some net → net.index = i) ∧
    (t.nets.map Net.name).Nodup ∧
    t.names = t.nets.tail.map Net.name ∧
    (∀ op : Operation, ∃ added, (op.on t).2.nets = t.nets ++ added ∧ added.length ≤ 1) ∧
    (∀ name, ∃ net, ((Operation.add name).on t).1 = .ok (some net)) ∧
    (∀ (op : Operation) (name : String) (net : Net) (u : NetTable),
      op.name? = some name → op.on t = (.ok (some net), u) → net ∈ u.nets ∧ net.name = name ∧
        ∀ (later : List Operation) (again : Operation), again.name? = some name →
          (again.on (u.afterAll later)).1 = .ok (some net)) ∧
    (∀ name, (∃ fault, ((Operation.resolve name).on t).1 = .error fault) ↔
      name ∉ t.nets.map Net.name ∧
        (ops.filterMap Operation.flag?).getLast?.getD allocate = false) ∧
    ∀ name fault, ((Operation.resolve name).on t).1 = .error fault →
      fault.kind? = some .netLookup ∧ ((Operation.resolve name).on t).2 = t := by
  intro t
  have hflag : t.allocate = (ops.filterMap Operation.flag?).getLast?.getD allocate := by
    rw [allocate_afterAll, allocate_ofList]
  refine ⟨?_, rfl, fun _ _ => index_of_getElem?, t.nodup_map_name_nets, ?_, t.exists_added_of_on,
    fun name => ⟨_, rfl⟩, ?_, fun name => ?_, fun name fault h => ?_⟩
  · rw [nets_afterAll, nets_ofList, allocate_ofList, List.foldl_append]
  · rw [List.map_tail, map_name_nets, List.tail_cons]
  · intro op name net u hop h
    have hfind := find?_of_on_eq_ok hop h
    obtain ⟨hmem, hname⟩ := mem_nets_of_find? hfind
    refine ⟨hmem, hname, fun later again hagain => ?_⟩
    rw [on_of_find? hagain (find?_afterAll hfind later)]
  · rw [← hflag]
    constructor
    · rintro ⟨fault, h⟩
      exact ((resolve_on_eq_error_iff fault).1 h).1
    · intro h
      exact ⟨_, (resolve_on_eq_error_iff _).2 ⟨h, rfl⟩⟩
  · obtain ⟨⟨-, hclosed⟩, rfl⟩ := (resolve_on_eq_error_iff fault).1 h
    exact ⟨rfl, by rw [resolve_on_snd, if_neg (by simp [hclosed])]⟩

end CopperRoute.NetTable
