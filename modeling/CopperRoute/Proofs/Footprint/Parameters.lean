import CopperRoute.Footprint
import CopperRoute.Proofs.Number.Code
import CopperRoute.Proofs.Session

/-!
# What a footprint is built from

Every part of a footprint comes from one value: the parameter of its name, or the setting in its
place. `Built` lists these values, and the lemmas before it say which values pass each check and what
they become. Main statement: a footprint that parameters describe is built from them, and every check
that its later use relies on was made (`ofParameters_built`).
-/

namespace CopperRoute

/-- The values that a value is made of, for one that passes for a list: the items of a list, the
members of a set, and the keys of a table. -/
def Value.parts (v : Value) : List Value :=
  match v.bare with
  | .list items => items
  | .pair a b => [a, b]
  | .set members => members.map Key.toValue
  | .table entries => (Table.keys entries).map Key.toValue
  | _ => []

/-- Values pass for texts exactly if all of them are. -/
theorem Value.mapM_text?_eq_some {items : List Value} {texts : List String} :
    items.mapM Value.text? = some texts ↔ items = texts.map .text := by
  constructor
  · intro h
    induction items generalizing texts with
    | nil =>
      obtain rfl := Option.some.inj h
      rfl
    | cons v items ih =>
      cases v with
      | text s =>
        simp only [List.mapM_cons, text?, Option.bind_eq_bind, Option.bind_some,
          Option.bind_eq_some_iff, Option.pure_def, Option.some.injEq] at h
        obtain ⟨rest, hrest, rfl⟩ := h
        rw [ih hrest]
        rfl
      | _ => cases h
  · rintro rfl
    induction texts with
    | nil => rfl
    | cons s texts ih =>
      rw [List.map_cons, List.mapM_cons, ih]
      rfl

namespace Footprint

open Session

/-! ## Values that pass a check -/

theorem route?_eq_ok {t : Table} {route : String} (h : route? t = .ok route) :
    ∀ v ∈ t.get? "route", v.isGiven = true → v = .text route := by
  intro v hv hgiven
  rw [Option.mem_def] at hv
  simp only [route?, hv, hgiven, if_true] at h
  cases v with
  | text s => rw [Except.ok.inj h]
  | _ => cases h

theorem routes?_eq_ok {t : Table} {routes : List String} (h : routes? t = .ok routes) :
    ∀ v ∈ t.get? "routes", v.isGiven = true → v.parts = routes.map .text := by
  intro v hv hgiven
  rw [Option.mem_def] at hv
  simp only [routes?, hv, hgiven, if_true] at h
  unfold Value.parts
  generalize v.bare = bare at h
  cases bare with
  | list _ | pair _ _ | set _ | table _ =>
    -- what passes for a list
    dsimp only at h
    split at h
    · next found hfound =>
      obtain rfl := Except.ok.inj h
      exact Value.mapM_text?_eq_some.1 hfound
    · cases h
  | _ => cases h

/-- A size is a double, or a whole number that becomes one; in both cases it is positive and finite. -/
theorem sizeOf_eq_ok {name : String} {v : Value} {x : Float} (h : sizeOf name v = .ok x) :
    (v = .float x ∨ ∃ i, v = .int i ∧ Number.ofInt? i = some x) ∧
      Number.isFinite x = true ∧ 0 < x := by
  cases v with
  | int i =>
    simp only [sizeOf] at h
    split at h
    · cases h
    · next y hy =>
      split at h
      · next hpos =>
        obtain rfl := Except.ok.inj h
        exact ⟨.inr ⟨i, rfl, hy⟩, Number.ofInt?_pos hy hpos⟩
      · cases h
  | float y =>
    simp only [sizeOf] at h
    split at h
    · next hfit =>
      obtain rfl := Except.ok.inj h
      rw [Bool.and_eq_true, decide_eq_true_eq] at hfit
      exact ⟨.inl rfl, hfit⟩
    · cases h
  | _ => cases h

theorem precisionOf_eq_ok {v : Value} {precision : Option Int} (h : precisionOf v = .ok precision) :
    (v = .null ∧ precision = none) ∨ ∃ i, v = .int i ∧ precision = some i ∧ 0 ≤ i := by
  cases v with
  | null => exact .inl ⟨rfl, (Except.ok.inj h).symm⟩
  | int i =>
    simp only [precisionOf] at h
    split at h
    · next hi => exact .inr ⟨i, rfl, (Except.ok.inj h).symm, hi⟩
    · cases h
  | _ => cases h

theorem formatOf_eq_ok {v : Value} {format : RecordFormat} (h : formatOf v = .ok format) :
    ∃ name, v = .text name ∧ RecordFormat.ofName? name = some format := by
  cases v with
  | text name =>
    simp only [formatOf] at h
    split at h
    · next found hfound =>
      obtain rfl := Except.ok.inj h
      exact ⟨name, rfl, hfound⟩
    · cases h
  | _ => cases h

theorem lockedOf_eq_ok {v : Value} {locked : Bool} (h : lockedOf v = .ok locked) :
    v = .bool locked := by
  cases v with
  | bool b => rw [Except.ok.inj h]
  | _ => cases h

/-! ## Footprints -/

/-- The footprint `f` is built from the parameters `t` and the settings: each of its parts is what
the check of that part makes of its value. -/
structure Built (t : Table) (settings : Settings) (f : Footprint) : Prop where
  route : route? t = .ok f.route
  routes : routes? t = .ok f.routes
  precision : precisionOf (valueOf t settings .precision) = .ok f.precision
  format : formatOf (valueOf t settings .format) = .ok f.format
  locked : lockedOf (valueOf t settings .locked) = .ok f.locked
  width : sizeOf Setting.width.name (valueOf t settings .width) = .ok f.width
  viaSize : sizeOf Setting.viaSize.name (valueOf t settings .viaSize) = .ok f.viaSize
  viaDrill : sizeOf Setting.viaDrill.name (valueOf t settings .viaDrill) = .ok f.viaDrill

variable {f : Footprint} {params : Value} {settings : Settings} {board after : Board}

/-- A footprint that parameters describe is built from them, and its net is the one that they give
on the board. -/
theorem ofParameters_built (h : (ofParameters params settings).on board = (.ok f, after)) :
    ∃ t, named params = .ok t ∧ Built t settings f ∧
      (netOf ((t.get? "net").getD .null)).on board = (.ok f.net, after) := by
  unfold ofParameters at h
  obtain ⟨t, ht, h⟩ := on_lift_bind_eq_ok h
  obtain ⟨route, hroute, h⟩ := on_lift_bind_eq_ok h
  obtain ⟨routes, hroutes, h⟩ := on_lift_bind_eq_ok h
  obtain ⟨precision, hprecision, h⟩ := on_lift_bind_eq_ok h
  obtain ⟨format, hformat, h⟩ := on_lift_bind_eq_ok h
  obtain ⟨locked, hlocked, h⟩ := on_lift_bind_eq_ok h
  obtain ⟨net, between, hnet, h⟩ := on_bind_eq_ok h
  obtain ⟨width, hwidth, h⟩ := on_lift_bind_eq_ok h
  obtain ⟨viaSize, hviaSize, h⟩ := on_lift_bind_eq_ok h
  obtain ⟨viaDrill, hviaDrill, h⟩ := on_lift_bind_eq_ok h
  -- the sizes are checked behind the net and leave the board alone
  obtain ⟨rfl, rfl⟩ := on_pure_eq_ok h
  exact ⟨t, ht, ⟨hroute, hroutes, hprecision, hformat, hlocked, hwidth, hviaSize, hviaDrill⟩, hnet⟩

end Footprint

end CopperRoute
