import CopperRoute.Fault
import CopperRoute.Log

/-!
# Boards and the work on them

A board has nets and a log, and a session is work on it.
-/

namespace CopperRoute

/-! ## Net tables

The nets of a board. A net gets the next free index when its name first turns up; the empty name
always stands for the absent net, which has index zero. Once `allocate` is off, a name that is not
yet in the table is refused.

The table holds the names alone, in the order of their indices, so that a net's index is its place:
`nets` lists the absent net and then the named ones. What an operation does is said through this
list: `nets_insert` and `find?_insert_self`.
-/

/-- The nets of a board: the names with indices from one on, and whether new names get one. -/
structure NetTable where
  names : List String
  allocate : Bool
  nodup : names.Nodup
  named : "" ∉ names

namespace NetTable

def empty (allocate : Bool) : NetTable := ⟨[], allocate, List.nodup_nil, List.not_mem_nil⟩

instance : Inhabited NetTable := ⟨empty true⟩

/-- All nets in the order of their indices. -/
def nets (t : NetTable) : List Net :=
  Net.none :: t.names.zipIdx.map fun e => ⟨e.2 + 1, e.1⟩

def size (t : NetTable) : Nat := t.names.length + 1

def find? (t : NetTable) (name : String) : Option Net := t.nets.find? (·.name == name)

def contains (t : NetTable) (name : String) : Bool := (t.find? name).isSome

/-- The table in which `name` has an index. -/
def insert (t : NetTable) (name : String) : NetTable :=
  if h : name = "" ∨ name ∈ t.names then t
  else
    { t with
      names := t.names ++ [name]
      nodup := by
        rw [List.nodup_append]
        refine ⟨t.nodup, by simp, fun a ha b hb hab => h (Or.inr ?_)⟩
        rw [List.mem_singleton] at hb
        rwa [← hb, ← hab]
      named := by
        rw [List.mem_append, List.mem_singleton]
        rintro (hm | he)
        · exact t.named hm
        · exact h (Or.inl he.symm) }

/-- The net of `name` in a table that holds it, and the next net in one that does not. -/
def netOf (t : NetTable) (name : String) : Net :=
  (t.find? name).getD ⟨t.names.length + 1, name⟩

/-- The table of the names in `names`, in the order in which they first turn up. -/
def ofList (names : List String) (allocate : Bool) : NetTable :=
  names.foldl insert (empty allocate)

/-- The net of `name` and the table that holds it afterwards. -/
def resolve (t : NetTable) (name : String) : Except Fault (NetTable × Net) :=
  match t.find? name with
  | some net => .ok (t, net)
  | none =>
    if t.allocate then .ok (t.insert name, t.netOf name)
    else .error (.unknownNet name t.names)

def setAllocate (t : NetTable) (allocate : Bool) : NetTable := { t with allocate := allocate }

/-! ### Laws -/

theorem insert_of_mem {t : NetTable} {name : String} (h : name = "" ∨ name ∈ t.names) :
    t.insert name = t := by
  rw [insert, dif_pos h]

theorem names_insert_of_not_mem {t : NetTable} {name : String} (h : ¬(name = "" ∨ name ∈ t.names)) :
    (t.insert name).names = t.names ++ [name] := by
  rw [insert, dif_neg h]

@[simp] theorem allocate_insert (t : NetTable) (name : String) :
    (t.insert name).allocate = t.allocate := by
  unfold insert
  split <;> rfl

/-- A new name comes last in the list of nets, with the next index. -/
theorem nets_insert {t : NetTable} {name : String} (h : ¬(name = "" ∨ name ∈ t.names)) :
    (t.insert name).nets = t.nets ++ [⟨t.names.length + 1, name⟩] := by
  simp [nets, names_insert_of_not_mem h, List.zipIdx_append]

/-- A name is found exactly if it is the empty one or stands in the table. -/
theorem isSome_find?_iff {t : NetTable} {name : String} :
    (t.find? name).isSome ↔ name = "" ∨ name ∈ t.names := by
  simp only [find?, List.find?_isSome, nets, List.mem_cons, List.mem_map, beq_iff_eq]
  constructor
  · rintro ⟨net, rfl | ⟨e, he, rfl⟩, hn⟩
    · exact Or.inl hn.symm
    · subst hn
      exact Or.inr (List.fst_mem_of_mem_zipIdx he)
  · rintro (rfl | hm)
    · exact ⟨Net.none, Or.inl rfl, rfl⟩
    · obtain ⟨i, hi, he⟩ := List.mem_iff_getElem.1 hm
      refine ⟨⟨i + 1, name⟩, Or.inr ⟨(name, i), ?_, rfl⟩, rfl⟩
      rw [List.mem_iff_getElem]
      exact ⟨i, by simpa using hi, by simp [he]⟩

/-- A name that was inserted is found, under the index that it was promised. -/
theorem find?_insert_self (t : NetTable) (name : String) :
    (t.insert name).find? name = some (t.netOf name) := by
  by_cases h : name = "" ∨ name ∈ t.names
  · rw [insert_of_mem h]
    obtain ⟨net, hnet⟩ := Option.isSome_iff_exists.1 (isSome_find?_iff.2 h)
    simp [netOf, hnet]
  · have hf : t.find? name = none := by
      rw [← Option.not_isSome_iff_eq_none, isSome_find?_iff]
      exact h
    have hf' : t.nets.find? (·.name == name) = none := hf
    rw [find?, nets_insert h, List.find?_append, hf', netOf, hf]
    simp

end NetTable

/-! ## Sessions

Work on a board: it may allocate nets, logs what it does, and may fail. A failure ends the work, but
the board keeps what happened before it.
-/

/-- What work on a board changes: its nets, and the events so far, the latest last. -/
structure Board where
  nets : NetTable
  log : List Log.Event := []

/-- Work on a board with a result, or with a fault that leaves the board as it was by then. -/
abbrev Session := ExceptT Fault (StateM Board)

namespace Session

def on {α : Type} (work : Session α) (board : Board) : Except Fault α × Board :=
  (ExceptT.run work).run board

def log (event : Log.Event) : Session Unit :=
  modify fun board => { board with log := board.log ++ [event] }

/-- Fails on what has no report. -/
def orBreak {α : Type} : Except Breakdown α → Session α
  | .ok a => pure a
  | .error b => throw (.breakdown b)

/-- The net of `name`, which is entered in the table and logged if it is new. -/
def resolve (name : String) : Session Net := do
  let board ← get
  match board.nets.resolve name with
  | .error fault => throw fault
  | .ok (nets, net) =>
    set { board with nets := nets }
    if (board.nets.find? name).isNone then log (.registered name nets.names.length)
    pure net

/-- Enters `names` in the table in their order, new names allowed or not. -/
def register (names : List String) : Session Unit :=
  names.forM fun name => do
    let board ← get
    if (board.nets.find? name).isNone then
      let nets := board.nets.insert name
      set { board with nets := nets }
      log (.registered name nets.names.length)

end Session

end CopperRoute
