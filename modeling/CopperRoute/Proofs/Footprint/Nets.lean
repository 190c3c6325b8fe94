import CopperRoute.Proofs.Footprint.Parameters
import CopperRoute.Proofs.Route.Reading

/-!
# The nets of a footprint

Footprints come to nets at two times. When one is built from its parameters it calls the name of its
own net, and when it is run it calls the names in its routes:

    parameters ──ofParameters──▶ netText?      footprint ──records──▶ calls

Work that succeeds enters exactly these names in the table of the board, in this order, and every
net that it hands out is the one that it started with or a net of that table (`NetTable.Holds`).
-/

namespace CopperRoute

open Session

def Record.net : Record → Net
  | segment s => s.net
  | via v => v.net

/-! ## Routes -/

namespace Route

/-- The names that a route calls, in order. -/
def calls (route : String) : List String := namesIn ((scan route).tokens.map Token.command)

namespace Setup

variable {s : Setup} {route : String} {board after : Board} {net : Net}

theorem net_of_segment {start stop : Point} {layer : Layer} {r : Record}
    (h : s.segment start stop layer net = .ok r) : r.net = net := by
  unfold segment at h
  cases hstart : s.anchor.place start with
  | error b => rw [hstart] at h; cases h
  | ok p =>
    cases hstop : s.anchor.place stop with
    | error b => rw [hstart, hstop] at h; cases h
    | ok q =>
      rw [hstart, hstop] at h
      cases h
      rfl

theorem net_of_via {centre : Point} {r : Record} (h : s.via centre net = .ok r) : r.net = net := by
  unfold via at h
  cases hcentre : s.anchor.place centre with
  | error b => rw [hcentre] at h; cases h
  | ok p =>
    rw [hcentre] at h
    cases h
    rfl

/-- A step enters the name that it calls, and the pen goes on with the net that the board has for it.
What is drawn is on the net of the pen. -/
theorem nets_of_step {pen next : Pen} {token : Token} {drawn : Option Record}
    (h : (s.step route pen token).on board = (.ok (next, drawn), after)) :
    after.nets = board.nets.insertAll token.command.name?.toList ∧
      (next.net = pen.net ∨ after.nets.Holds next.net) ∧ ∀ r ∈ drawn, r.net = pen.net := by
  obtain ⟨position, text, command⟩ := token
  cases command with
  | layer l =>
    obtain ⟨hresult, rfl⟩ := on_pure_eq_ok h
    obtain ⟨rfl, rfl⟩ := Prod.mk.inj hresult
    exact ⟨rfl, .inl rfl, by simp⟩
  | penUp =>
    obtain ⟨hresult, rfl⟩ := on_pure_eq_ok h
    obtain ⟨rfl, rfl⟩ := Prod.mk.inj hresult
    exact ⟨rfl, .inl rfl, by simp⟩
  | point target =>
    simp only [step] at h
    split at h
    · obtain ⟨hresult, rfl⟩ := on_pure_eq_ok h
      obtain ⟨rfl, rfl⟩ := Prod.mk.inj hresult
      exact ⟨rfl, .inl rfl, by simp⟩
    · cases h
    · obtain ⟨r, between, hdrawn, hmove⟩ := on_bind_eq_ok h
      obtain ⟨hr, rfl⟩ := on_orBreak_eq_ok hdrawn
      obtain ⟨hresult, rfl⟩ := on_pure_eq_ok hmove
      obtain ⟨rfl, rfl⟩ := Prod.mk.inj hresult
      refine ⟨rfl, .inl rfl, fun r' hr' => ?_⟩
      obtain rfl := Option.mem_some.1 hr'
      exact net_of_segment hr
  | via =>
    simp only [step] at h
    split at h
    · cases h
    · obtain ⟨r, between, hdrawn, hmove⟩ := on_bind_eq_ok h
      obtain ⟨hr, rfl⟩ := on_orBreak_eq_ok hdrawn
      obtain ⟨hresult, rfl⟩ := on_pure_eq_ok hmove
      obtain ⟨rfl, rfl⟩ := Prod.mk.inj hresult
      refine ⟨rfl, .inl rfl, fun r' hr' => ?_⟩
      obtain rfl := Option.mem_some.1 hr'
      exact net_of_via hr
  | net name =>
    simp only [step] at h
    split at h
    · obtain ⟨answer, between, hanswer, hswitch⟩ := on_bind_eq_ok h
      obtain ⟨hnets, rfl⟩ := on_resolve_eq_ok hanswer
      rw [on_bind_of_ok (on_log ..)] at hswitch
      obtain ⟨hresult, rfl⟩ := on_pure_eq_ok hswitch
      obtain ⟨rfl, rfl⟩ := Prod.mk.inj hresult
      refine ⟨hnets, .inr ?_, by simp⟩
      show between.nets.Holds _
      rw [hnets]
      exact board.nets.holds_netOf name
    · cases h

/-- What is drawn is on the net that the pen starts with, or on one of the board. -/
theorem nets_of_draw {pen : Pen} {tokens : List Token} {records : List Record}
    (h : (s.draw route pen tokens).on board = (.ok records, after)) :
    after.nets = board.nets.insertAll (namesIn (tokens.map Token.command)) ∧
      ∀ r ∈ records, r.net = pen.net ∨ after.nets.Holds r.net := by
  induction tokens generalizing pen board records with
  | nil =>
    obtain ⟨rfl, rfl⟩ := on_pure_eq_ok h
    exact ⟨rfl, by simp⟩
  | cons token tokens ih =>
    rw [draw] at h
    obtain ⟨⟨next, drawn⟩, between, hstep, hrest⟩ := on_bind_eq_ok h
    obtain ⟨later, after', hdraw, hrecords⟩ := on_bind_eq_ok hrest
    obtain ⟨rfl, rfl⟩ := on_pure_eq_ok hrecords
    obtain ⟨hbetween, hnext, hdrawn⟩ := nets_of_step hstep
    obtain ⟨hafter, hlater⟩ := ih hdraw
    refine ⟨?_, fun r hr => ?_⟩
    · rw [hafter, hbetween, ← NetTable.insertAll_append, namesIn, namesIn, List.map_cons,
        List.filterMap_cons]
      cases token.command.name? <;> rfl
    · rcases List.mem_append.1 hr with hr | hr
      · exact .inl (hdrawn r (by simpa using hr))
      · rcases hlater r hr with hsame | hheld
        · rw [hsame, hafter]
          exact hnext.imp_right fun hheld => hheld.insertAll _
        · exact .inr hheld

/-- A run enters the names that the route calls, and its records are on the net that it starts with
or on nets of the board. -/
theorem nets_of_run {records : List Record}
    (h : (s.run route net).on board = (.ok records, after)) :
    after.nets = board.nets.insertAll (calls route) ∧
      ∀ r ∈ records, r.net = net ∨ after.nets.Holds r.net := by
  unfold run at h
  obtain ⟨drawn, between, hdraw, hrest⟩ := on_bind_eq_ok h
  split at hrest
  · cases hrest
  · rw [on_bind_of_ok (on_log ..)] at hrest
    obtain ⟨rfl, rfl⟩ := on_pure_eq_ok hrest
    -- the event that a run ends with leaves the nets as they are
    exact nets_of_draw hdraw

end Setup

end Route

/-! ## Footprints -/

namespace Footprint

variable {f : Footprint} {board after : Board}

theorem nets_of_runAll {s : Route.Setup} {net : Net} {routes : List String} {records : List Record}
    (h : (runAll s net routes).on board = (.ok records, after)) :
    after.nets = board.nets.insertAll (routes.flatMap Route.calls) ∧
      ∀ r ∈ records, r.net = net ∨ after.nets.Holds r.net := by
  induction routes generalizing board records with
  | nil =>
    obtain ⟨rfl, rfl⟩ := on_pure_eq_ok h
    exact ⟨rfl, by simp⟩
  | cons route routes ih =>
    rw [runAll] at h
    obtain ⟨first, between, hrun, hrest⟩ := on_bind_eq_ok h
    obtain ⟨later, after', hruns, hrecords⟩ := on_bind_eq_ok hrest
    obtain ⟨rfl, rfl⟩ := on_pure_eq_ok hrecords
    obtain ⟨hnets, hfirst⟩ := Route.Setup.nets_of_run hrun
    obtain ⟨hnets', hlater⟩ := ih hruns
    refine ⟨?_, fun r hr => ?_⟩
    · rw [hnets', hnets, ← NetTable.insertAll_append, List.flatMap_cons]
    -- the records of the first route are drawn before the table is complete
    · rcases List.mem_append.1 hr with hr | hr
      · rw [hnets']
        exact (hfirst r hr).imp_right fun hheld => hheld.insertAll _
      · exact hlater r hr

/-- The records of a footprint enter the names that its routes call, and are on its own net or on
nets of the board. -/
theorem nets_of_records {anchor : Anchor} {globalNets : Bool} {records : List Record}
    (h : (f.records anchor globalNets).on board = (.ok records, after)) :
    after.nets = board.nets.insertAll (f.allRoutes.flatMap Route.calls) ∧
      ∀ r ∈ records, r.net = f.net ∨ after.nets.Holds r.net :=
  nets_of_runAll h

/-! ## Parameters -/

/-- The name that parameters give their net: the empty one if they give no net, and none at all if
they give it in another way than by its name. -/
def netText? (params : Table) : Option String :=
  match ((params.get? "net").getD .null).bare with
  | .null => some ""
  | .text name => some name
  | _ => none

/-- The routes that parameters give, the single one before the list. -/
def routeTexts (params : Table) : List String :=
  let route := (route? params).toOption.getD ""
  (if route.isEmpty then [] else [route]) ++ (routes? params).toOption.getD []

/-- The refusal of names is never a table. -/
theorem refuseNames_ne_ok {unknown : List Value} {t : Table} : refuseNames unknown ≠ .ok t := by
  unfold refuseNames
  split <;> exact fun h => by cases h

theorem refuseItems_ne_ok {items : List Value} {t : Table} : refuseItems items ≠ .ok t := by
  unfold refuseItems
  dsimp only
  split
  · exact fun h => by cases h
  · exact refuseNames_ne_ok

/-- Only a table passes for parameters, and it passes as it is. -/
theorem bare_of_named {params : Value} {t : Table} (h : named params = .ok t) :
    params.bare = .table t := by
  unfold named at h
  split at h
  · next t' hbare =>
    dsimp only at h
    split at h
    · rw [hbare, Except.ok.inj h]
    · exact absurd h refuseNames_ne_ok
  all_goals first
    | exact absurd h refuseItems_ne_ok
    | cases h

/-- Of a net that parameters give the name is entered, if it is given by its name, and then it is the
one that the table has for the name. Any other net leaves the table as it is. -/
theorem nets_of_netOf {params : Table} {net : Net}
    (h : (netOf ((params.get? "net").getD .null)).on board = (.ok net, after)) :
    after.nets = board.nets.insert ((netText? params).getD "") ∧
      ((netText? params).isSome → after.nets.Holds net) := by
  unfold netOf at h
  unfold netText?
  generalize (params.get? "net").getD .null = value at h ⊢
  have hblank : board.nets.insert "" = board.nets := NetTable.insert_of_mem (.inl rfl)
  generalize hbare : value.bare = bare at h
  cases bare with
  | null =>
    obtain ⟨rfl, rfl⟩ := on_pure_eq_ok h
    exact ⟨hblank.symm, fun _ => board.nets.holds_none⟩
  | text s =>
    dsimp only at h
    split at h
    · next hs =>
      obtain ⟨rfl, rfl⟩ := on_pure_eq_ok h
      obtain rfl := String.isEmpty_iff.1 hs
      exact ⟨hblank.symm, fun _ => board.nets.holds_none⟩
    · obtain ⟨hnets, rfl⟩ := on_resolve_eq_ok h
      rw [hnets]
      exact ⟨rfl, fun _ => board.nets.holds_netOf s⟩
  | net n =>
    obtain ⟨rfl, rfl⟩ := on_pure_eq_ok h
    exact ⟨hblank.symm, nofun⟩
  | int i =>
    obtain ⟨rfl, rfl⟩ := on_pure_eq_ok h
    exact ⟨hblank.symm, nofun⟩
  | table t =>
    dsimp only at h
    split at h
    · obtain ⟨index, -, h⟩ := on_lift_bind_eq_ok h
      obtain ⟨name, -, h⟩ := on_lift_bind_eq_ok h
      obtain ⟨rfl, rfl⟩ := on_pure_eq_ok h
      exact ⟨hblank.symm, nofun⟩
    · cases h
  | _ => cases h

/-- A footprint has the routes of its parameters. -/
theorem Built.allRoutes_eq {t : Table} {settings : Settings} (h : Built t settings f) :
    f.allRoutes = routeTexts t := by
  rw [routeTexts, h.route, h.routes]
  rfl

end Footprint

end CopperRoute
