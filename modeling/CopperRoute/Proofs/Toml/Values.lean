import CopperRoute.Proofs.Number.Digits
import CopperRoute.Toml.Document

/-!
# What a TOML document can say

    Value.IsToml v    `v` can stand in a TOML document
    Reader.Gives P r  whatever the reader `r` comes to has the property `P`

There is no null among the values, and a whole number below zero can be written. Main statement:
`isToml_of_ofText`, that nothing else is ever read. It follows the reader from the numbers, the only
place where a value could fail to be one of these, through values and tables up to the lines.
-/

namespace CopperRoute

/-- A value that TOML can express. There is no null, and a whole number below zero is a decimal, which
has at most as many digits as can be read; only marked numbers are longer, and they have no sign. -/
inductive Value.IsToml : Value → Prop
  | bool (b : Bool) : IsToml (.bool b)
  | int {i : Int} : (i < 0 → Number.isWritable i = true) → IsToml (.int i)
  | float (x : Float) : IsToml (.float x)
  | text (s : String) : IsToml (.text s)
  | moment (m : Moment) : IsToml (.moment m)
  | list {items : List Value} : (∀ v ∈ items, IsToml v) → IsToml (.list items)
  | table {entries : Table} : (∀ e ∈ entries, ∃ s, e.1 = .text s) → (∀ e ∈ entries, IsToml e.2) →
      IsToml (.table entries)

/-- No TOML document holds itself. -/
theorem Value.IsToml.bare_eq {v : Value} (h : v.IsToml) : v.bare = v := by
  cases h <;> rfl

/-! ## Numbers -/

namespace Number

/-- A decimal that can be read can be written. -/
theorem isWritable_of_wholeLiteral? {s : String} {i : Int} (h : wholeLiteral? s = some i) :
    isWritable i = true := by
  unfold wholeLiteral? at h
  dsimp only at h
  split at h
  · cases h
  · next ds _ =>
    split at h
    · next hlength =>
      obtain ⟨signed, hsigned, hi⟩ := Option.map_eq_some_iff.1 h
      obtain ⟨n, hn, hsigned⟩ := Option.bind_eq_some_iff.1 hsigned
      have hdigits : n = digitsValue ds := by
        unfold digitRun? at hn
        split at hn
        · exact (Option.some.inj hn).symm
        · cases hn
      have habs : i.natAbs = digitsValue ds := by
        rw [← hi, ← Option.some.inj hsigned, hdigits]
        split <;> simp
      rw [isWritable, habs]
      exact decide_eq_true (digitsValue_lt hlength)
    · cases h

end Number

namespace Toml

/-! ## Readers -/

namespace Reader

variable {α β : Type} {P : α → Prop} {Q : β → Prop}

/-- Whatever `r` comes to has the property `P`. -/
def Gives (P : α → Prop) (r : Reader α) : Prop :=
  ∀ cs a rest, r.run cs = .ok (a, rest) → P a

theorem gives_pure {a : α} (h : P a) : Gives P (pure a) := by
  intro cs b rest hrun
  cases hrun
  exact h

theorem gives_throw (e : Unreadable) : Gives P (throw e) := by
  intro cs a rest hrun
  cases hrun

theorem gives_refuse (detail : String) : Gives P (refuse detail) := gives_throw _

theorem Gives.bind {work : Reader β} {next : β → Reader α} (h : Gives Q work)
    (hnext : ∀ b, Q b → Gives P (next b)) : Gives P (work >>= next) := by
  intro cs a rest hrun
  rw [StateT.run_bind] at hrun
  cases hwork : work.run cs with
  | error e => rw [hwork] at hrun; cases hrun
  | ok found =>
    obtain ⟨b, between⟩ := found
    rw [hwork] at hrun
    exact hnext b (h cs b between hwork) between a rest hrun

/-- What comes first may come to anything. -/
theorem gives_bind {work : Reader β} {next : β → Reader α} (hnext : ∀ b, Gives P (next b)) :
    Gives P (work >>= next) :=
  Gives.bind (Q := fun _ => True) (fun _ _ _ _ => trivial) fun b _ => hnext b

/-- A reader that may refuse the text before it goes on. -/
theorem gives_ite_refuse {c : Prop} [Decidable c] {detail : String} {next : Unit → Reader α}
    (h : Gives P (next ())) :
    Gives P (if c then refuse detail >>= next else next ()) := by
  split
  · exact gives_bind fun _ => h
  · exact h

end Reader

open Reader

/-! ## Values -/

theorem isToml_of_markedNumber? {cs : List Char} {v : Value} {size : Nat}
    (h : markedNumber? cs = some (v, size)) : v.IsToml := by
  obtain ⟨b, -, hb⟩ := List.exists_of_findSome?_eq_some h
  dsimp only at hb
  split at hb
  · split at hb
    · cases hb
    · cases hb
      exact .int fun hneg => absurd hneg (by omega)
  · cases hb

theorem isToml_of_decimal? {cs : List Char} {v : Value} {size : Nat}
    (h : decimal? cs = some (.ok v, size)) : v.IsToml := by
  unfold decimal? at h
  dsimp only at h
  split at h
  · cases h
  · split at h
    · next value hvalue =>
      cases h
      split at hvalue
      · obtain ⟨i, hi, rfl⟩ := Option.map_eq_some_iff.1 hvalue
        exact .int fun _ => Number.isWritable_of_wholeLiteral? hi
      · obtain ⟨x, -, rfl⟩ := Option.map_eq_some_iff.1 hvalue
        exact .float x
    · cases h

theorem number?_gives : Gives (fun found => ∀ v ∈ found, Value.IsToml v) number? := by
  unfold number?
  refine gives_bind fun cs => ?_
  split
  · next v size hmarked =>
    exact gives_bind fun _ => gives_pure (by simpa using isToml_of_markedNumber? hmarked)
  · split
    · next v size hdecimal =>
      refine gives_bind fun _ => ?_
      split
      · exact gives_pure (by simpa using isToml_of_decimal? hdecimal)
      · exact gives_throw _
    · split
      · refine gives_bind fun _ => gives_pure fun w hw => ?_
        obtain ⟨x, -, rfl⟩ := Option.map_eq_some_iff.1 hw
        exact .float x
      · exact gives_pure (by simp)

/-! ## Tables -/

abbrev IsToml (t : Table) : Prop := (Value.table t).IsToml

variable {t t' : Table} {name : String} {v : Value}

theorem isToml_empty : IsToml [] := .table (by simp) (by simp)

theorem isToml_of_get? (h : IsToml t) (hv : t.get? name = some v) : v.IsToml := by
  obtain ⟨e, he, rfl⟩ := Option.map_eq_some_iff.1 hv
  cases h with
  | table _ hvalues => exact hvalues e (List.mem_of_find?_eq_some he)

theorem isToml_append (h : IsToml t) (hv : v.IsToml) : IsToml (t ++ [(.text name, v)]) := by
  cases h with
  | table hkeys hvalues =>
    refine .table ?_ ?_
    · exact List.forall_mem_append.2 ⟨hkeys, by simp⟩
    · exact List.forall_mem_append.2 ⟨hvalues, by simpa using hv⟩

theorem isToml_insert (h : IsToml t) (hv : v.IsToml) : IsToml (Table.insert t (.text name) v) := by
  unfold Table.insert
  split
  · cases h with
    | table hkeys hvalues =>
      refine .table (List.forall_mem_map.2 fun e he => ?_) (List.forall_mem_map.2 fun e he => ?_)
      · split
        · exact hkeys e he
        · exact hkeys e he
      · split
        · exact hv
        · exact hvalues e he
  · exact isToml_append h hv

theorem isToml_putNew (hv : v.IsToml) (h : IsToml t) (hput : putNew name v t = some t') :
    IsToml t' := by
  unfold putNew at hput
  split at hput
  · cases hput
    exact isToml_append h hv
  · cases hput

theorem isToml_addTable (h : IsToml t) (hadd : addTable name t = some t') : IsToml t' := by
  unfold addTable at hadd
  split at hadd
  · cases hadd
    exact isToml_append h (.list (by simpa using isToml_empty))
  · next items hitems =>
    cases hadd
    have hlist := isToml_of_get? h hitems
    cases hlist with
    | list hitems =>
      refine isToml_insert h (.list (List.forall_mem_append.2 ⟨hitems, ?_⟩))
      simpa using isToml_empty
  · cases hadd

/-- A change deep in a table leaves it expressible if it leaves the changed part so. The induction is
on the path to that part. -/
theorem isToml_atPath {arrays : Bool} {change : Table → Option Table}
    (hchange : ∀ {t t'}, IsToml t → change t = some t' → IsToml t') {path : List String}
    (h : IsToml t) (hpath : atPath arrays change path t = some t') : IsToml t' := by
  induction path generalizing t t' with
  | nil => exact hchange h hpath
  | cons name rest ih =>
    rw [atPath] at hpath
    split at hpath
    · obtain ⟨inner, hinner, hput⟩ := Option.bind_eq_some_iff.1 hpath
      cases hput
      exact isToml_insert h (ih isToml_empty hinner)
    · next inner hfound =>
      obtain ⟨inner', hinner, hput⟩ := Option.bind_eq_some_iff.1 hpath
      cases hput
      exact isToml_insert h (ih (isToml_of_get? h hfound) hinner)
    · next items hfound =>
      have hlist := isToml_of_get? h hfound
      split at hpath
      · next inner hlast =>
        obtain ⟨inner', hinner, hput⟩ := Option.bind_eq_some_iff.1 hpath
        cases hput
        cases hlist with
        | list hitems =>
          have hinner' := ih (hitems _ (List.mem_of_getLast? hlast)) hinner
          refine isToml_insert h (.list (List.forall_mem_append.2 ⟨fun v hv => ?_, ?_⟩))
          · exact hitems v ((List.dropLast_sublist items).mem hv)
          · simpa using hinner'
      · cases hpath
    · cases hpath

theorem isToml_addInline {closed : List (List String)} {path : List String} (h : IsToml t)
    (hv : v.IsToml) (hadd : addInline t closed path v = some t') : IsToml t' := by
  unfold addInline at hadd
  split at hadd
  · cases hadd
  · exact isToml_atPath (isToml_putNew hv) h hadd

/-! ## Nested values -/

/-- Values, items and entries are read together; the induction is on the steps that are left. -/
theorem value_gives (steps : Nat) :
    (∀ levels, Gives Value.IsToml (value steps levels)) ∧
    (∀ levels, Gives (fun found => ∀ v ∈ found, Value.IsToml v) (items steps levels)) ∧
    ∀ levels t closed, IsToml t → Gives IsToml (entries steps levels t closed) := by
  induction steps with
  | zero =>
    exact ⟨fun _ => gives_refuse _, fun _ => gives_refuse _, fun _ _ _ _ => gives_refuse _⟩
  | succ steps ih =>
    obtain ⟨hvalue, hitems, hentries⟩ := ih
    refine ⟨fun levels => ?_, fun levels => ?_, fun levels t closed ht => ?_⟩
    · rw [value]
      refine gives_bind fun text => ?_
      split
      · exact gives_pure (.text _)
      refine gives_bind fun _ => ?_
      split
      · exact gives_pure (.bool _)
      refine gives_bind fun _ => ?_
      split
      · exact gives_pure (.bool _)
      refine gives_bind fun _ => ?_
      split
      · refine gives_bind fun levels => gives_bind fun _ => gives_bind fun _ => ?_
        split
        · exact gives_pure (.list (by simp))
        · exact (hitems levels).bind fun found hfound => gives_pure (.list hfound)
      refine gives_bind fun _ => ?_
      split
      · refine gives_bind fun levels => gives_bind fun _ => gives_bind fun _ => ?_
        split
        · exact gives_pure isToml_empty
        · exact (hentries levels [] [] isToml_empty).bind fun found hfound => gives_pure hfound
      refine gives_bind fun moment => ?_
      split
      · exact gives_pure (.moment _)
      · refine number?_gives.bind fun found hfound => ?_
        split
        · exact gives_pure (hfound _ rfl)
        · exact gives_refuse _
    · rw [items]
      refine (hvalue levels).bind fun item hitem => gives_bind fun _ => gives_bind fun _ => ?_
      have hone : ∀ v ∈ [item], Value.IsToml v := by simpa using hitem
      split
      · exact gives_pure hone
      · refine gives_bind fun _ => gives_ite_refuse (gives_bind fun _ => gives_bind fun _ => ?_)
        split
        · exact gives_pure hone
        · exact (hitems levels).bind fun found hfound =>
            gives_pure (List.forall_mem_cons.2 ⟨hitem, hfound⟩)
    · rw [entries]
      refine gives_bind fun path => gives_bind fun _ => ?_
      refine gives_ite_refuse (gives_bind fun _ => (hvalue levels).bind fun v hv => ?_)
      split
      · exact gives_refuse _
      · next t' hadd =>
        have ht' : IsToml t' := isToml_addInline ht hv hadd
        refine gives_bind fun _ => gives_bind fun _ => ?_
        split
        · exact gives_pure ht'
        · refine gives_bind fun _ => gives_ite_refuse (gives_bind fun _ => ?_)
          exact hentries levels t' _ ht'

/-! ## Lines -/

def Draft.Expressible (d : Draft) : Prop := IsToml d.table

variable {d d' : Draft} {path : List String}

theorem Draft.expressible_openTable (h : d.Expressible) (hopen : d.openTable path = some d') :
    d'.Expressible := by
  unfold openTable at hopen
  split at hopen
  · cases hopen
  · obtain ⟨table, htable, hd⟩ := Option.bind_eq_some_iff.1 hopen
    cases hd
    exact isToml_atPath (fun ht hsome => Option.some.inj hsome ▸ ht) h htable

theorem Draft.expressible_openItem (h : d.Expressible) (hopen : d.openItem path = some d') :
    d'.Expressible := by
  unfold openItem at hopen
  split at hopen
  · cases hopen
  · obtain ⟨table, htable, hd⟩ := Option.bind_eq_some_iff.1 hopen
    cases hd
    exact isToml_atPath isToml_addTable h htable

theorem Draft.expressible_put (h : d.Expressible) (hv : v.IsToml) (hput : d.put path v = some d') :
    d'.Expressible := by
  unfold put at hput
  dsimp only at hput
  split at hput
  · cases hput
  · obtain ⟨table, htable, hd⟩ := Option.bind_eq_some_iff.1 hput
    cases hd
    exact isToml_atPath (isToml_putNew hv) h htable

theorem statement_gives (h : d.Expressible) (steps : Nat) :
    Gives Draft.Expressible (statement d steps) := by
  unfold statement
  refine gives_bind fun _ => ?_
  split
  · refine gives_bind fun _ => gives_bind fun path => ?_
    split
    · exact gives_refuse _
    · next d' hopen =>
      refine gives_bind fun _ => ?_
      split
      · exact gives_pure (Draft.expressible_openItem (d := d.settle) h hopen)
      · exact gives_refuse _
  refine gives_bind fun _ => ?_
  split
  · refine gives_bind fun _ => gives_bind fun path => ?_
    split
    · exact gives_refuse _
    · next d' hopen =>
      refine gives_bind fun _ => ?_
      split
      · exact gives_pure (Draft.expressible_openTable (d := d.settle) h hopen)
      · exact gives_refuse _
  · refine gives_bind fun path => gives_bind fun _ => gives_ite_refuse (gives_bind fun _ => ?_)
    refine ((value_gives steps).1 levelLimit).bind fun v hv => ?_
    split
    · exact gives_refuse _
    · next d' hput => exact gives_pure (Draft.expressible_put h hv hput)

/-- The draft stays expressible from line to line. -/
theorem lines_gives (h : d.Expressible) (steps : Nat) :
    Gives Draft.Expressible (lines steps d) := by
  induction steps generalizing d with
  | zero => exact gives_pure h
  | succ steps ih =>
    rw [lines]
    refine gives_bind fun _ => gives_bind fun next => ?_
    -- what is read behind the line, which has made the draft `d`
    extract_lets behind
    have hbehind {d : Draft} (h : d.Expressible) : Gives Draft.Expressible (behind d) := by
      refine gives_bind fun _ => gives_bind fun _ => gives_bind fun next => ?_
      split
      · exact gives_pure h
      · split
        · exact gives_bind fun _ => ih h
        · exact gives_refuse _
    split
    · exact hbehind h
    · split
      · exact hbehind h
      · exact (statement_gives h steps).bind fun _ => hbehind

/-- Whatever a document is read as, TOML can express it. -/
theorem isToml_of_ofText {text : String} (h : ofText text = .ok t) : IsToml t := by
  unfold ofText at h
  dsimp only at h
  cases hlines : (lines (2 * (plainLines text.toList).length + 2) {}).run
      (plainLines text.toList) with
  | error e => rw [hlines] at h; cases h
  | ok found =>
    rw [hlines] at h
    cases h
    exact lines_gives (d := {}) isToml_empty _ _ _ _ hlines

end Toml

end CopperRoute
