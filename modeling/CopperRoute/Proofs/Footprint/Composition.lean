import CopperRoute.Proofs.Footprint.Safety
import CopperRoute.Proofs.Net.History
import CopperRoute.Proofs.Route.Lockstep

/-!
# Footprints in parts

Every route of a footprint starts afresh, and what goes from one to the next is the table of nets. So
the routes can be cut into two parts and rendered one part after the other:

    all routes     first   ++   rest
                     │            │
    text            text   ++   text         the second on the nets that the first left

A part that fails makes the whole fail in the same way (`Composes`). An empty route draws nothing and
calls nothing, so that it can stand anywhere among the others, or nowhere.
-/

namespace CopperRoute

open Session

namespace Footprint

variable {f : Footprint} {anchor : Anchor} {globalNets : Bool} {board board' after : Board}

def withRoutes (f : Footprint) (routes : List String) : Footprint := { f with route := "", routes }

@[simp] theorem allRoutes_withRoutes (f : Footprint) (routes : List String) :
    (f.withRoutes routes).allRoutes = routes := by
  simp [allRoutes, withRoutes]

/-! ## Running in parts -/

theorem runAll_append (s : Route.Setup) (net : Net) (first rest : List String) :
    runAll s net (first ++ rest) =
      runAll s net first >>= fun drawn => runAll s net rest >>= fun later =>
        pure (drawn ++ later) := by
  induction first with
  | nil => simp [runAll]
  | cons route first ih =>
    rw [List.cons_append, runAll, ih, runAll]
    simp only [bind_assoc, pure_bind, List.append_assoc]

theorem readsNets_runAll (s : Route.Setup) (net : Net) (routes : List String) :
    ReadsNets (runAll s net routes) := by
  induction routes with
  | nil => exact readsNets_pure _
  | cons route routes ih =>
    rw [runAll]
    exact (Route.Setup.readsNets_run s route net).bind fun _ => ih.bind fun _ => readsNets_pure _

theorem records_append {first rest : List String} (h : f.allRoutes = first ++ rest) :
    f.records anchor globalNets =
      (f.withRoutes first).records anchor globalNets >>= fun drawn =>
        (f.withRoutes rest).records anchor globalNets >>= fun later => pure (drawn ++ later) := by
  rw [records, records, records, h, allRoutes_withRoutes, allRoutes_withRoutes]
  exact runAll_append _ _ first rest

/-! ## Writing in parts -/

theorem mapM_chunk_append {style : RecordStyle} {drawn later : List Record}
    {chunks chunks' : List String} (h : drawn.mapM (fun r => r.chunk style) = .ok chunks)
    (h' : later.mapM (fun r => r.chunk style) = .ok chunks') :
    recordsText style (drawn ++ later) = .ok (String.join chunks ++ String.join chunks') := by
  rw [recordsText, List.mapM_append, h, h']
  simp [Except.map, bind, Except.bind, pure, Except.pure, String.join_append]

/-- The numbers that the routes of a footprint can come to are within the limits of writing: its
decimals, and the indices of its own net and of all that the board lists once the routes have called
theirs. -/
structure Printable (f : Footprint) (board : Board) : Prop where
  precision : ∀ p ∈ f.precision, p ≤ Record.placesLimit
  indices : ∀ net ∈ f.net :: (board.nets.insertAll (f.allRoutes.flatMap Route.calls)).nets,
    Number.isWritable net.index = true

/-- What some of the routes draw can be written, if what they call is among what all of them call. -/
theorem Printable.writable (h : f.Printable board) {start : Board} {routes rest : List String}
    (hcalls : start.nets.insertAll (routes.flatMap Route.calls ++ rest) =
      board.nets.insertAll (f.allRoutes.flatMap Route.calls)) :
    (f.withRoutes routes).Writable anchor globalNets start where
  precision := h.precision
  indices := by
    intro records hrecords r hr
    apply h.indices
    rcases hon : ((f.withRoutes routes).records anchor globalNets).on start with ⟨result, after⟩
    rw [hon] at hrecords
    cases result with
    | error fault => cases hrecords
    | ok drawn =>
      obtain rfl : drawn = records := Option.some.inj hrecords
      obtain ⟨hafter, hnets⟩ := nets_of_records hon
      rw [allRoutes_withRoutes] at hafter
      rcases hnets r hr with hsame | hheld
      · rw [hsame]
        exact List.mem_cons_self
      · have hkept := hheld.insertAll rest
        rw [hafter, ← NetTable.insertAll_append, hcalls] at hkept
        exact List.mem_cons_of_mem _ (NetTable.mem_nets_of_find? hkept).1

theorem Sound.withRoutes (h : f.Sound) (routes : List String) : (f.withRoutes routes).Sound :=
  ⟨h.width, h.viaSize, h.viaDrill, h.precision⟩

/-! ## Empty routes -/

/-- An empty route leaves nothing but the event that it was read. -/
theorem run_empty (s : Route.Setup) (net : Net) (board : Board) :
    (s.run "" net).on board = (.ok [], { board with log := board.log ++ [.finished "" 0] }) := by
  have hscan : Route.scan "" = ⟨[], none⟩ := Route.scanFrom_nil 0
  unfold Route.Setup.run
  rw [hscan]
  rfl

theorem runAll_filter (s : Route.Setup) (net : Net) (routes : List String)
    (hnets : board.nets = board'.nets) :
    Route.InStep Eq ((runAll s net routes).on board)
      ((runAll s net (routes.filter (· ≠ ""))).on board') := by
  induction routes generalizing board board' with
  | nil => exact .ok hnets
  | cons route routes ih =>
    by_cases hempty : route = ""
    · subst hempty
      rw [List.filter_cons_of_neg (by simp), runAll, on_bind_of_ok (run_empty s net board)]
      -- the first route adds nothing to what the others draw
      have hlogged : ({ board with log := board.log ++ [.finished "" 0] } : Board).nets =
          board'.nets := hnets
      simpa using ih hlogged
    · rw [List.filter_cons_of_pos (by simpa using hempty), runAll, runAll]
      have hrun : Route.InStep Eq ((s.run route net).on board) ((s.run route net).on board') :=
        .of_readsNets (Route.Setup.readsNets_run s route net) hnets fun _ _ => rfl
      refine hrun.bind fun drawn between between' hbetween => ?_
      exact (ih hbetween).bind fun later after after' hafter => .ok hafter

/-- Routes that are the same but for empty ones are run alike. -/
theorem runAll_congr (s : Route.Setup) (net : Net) {routes routes' : List String}
    (h : routes.filter (· ≠ "") = routes'.filter (· ≠ "")) (board : Board) :
    Route.InStep Eq ((runAll s net routes).on board) ((runAll s net routes').on board) := by
  have hfilter := runAll_filter s net routes (rfl : board.nets = board.nets)
  have hfilter' := runAll_filter s net routes' (rfl : board.nets = board.nets)
  rw [h] at hfilter
  exact hfilter.trans hfilter'.symm

theorem render_congr (f : Footprint) (route : String) (routes : List String)
    (h : ({ f with route, routes } : Footprint).allRoutes.filter (· ≠ "") =
      f.allRoutes.filter (· ≠ "")) (board : Board) :
    Route.InStep Eq ((({ f with route, routes } : Footprint).render anchor globalNets).on board)
      ((f.render anchor globalNets).on board) := by
  unfold render
  refine (runAll_congr _ _ h board).bind fun records after after' hafter => ?_
  rw [on_bind_of_ok (on_log ..), on_bind_of_ok (on_log ..)]
  exact .of_readsNets (readsNets_orBreak _) hafter fun _ _ => rfl

/-! ## Main statement -/

/-- What a whole comes to, result and nets, if its second part starts where the first one ends. -/
inductive Composes (first : Except Fault String × Board)
    (second : Board → Except Fault String × Board) : Except Fault String → NetTable → Prop
  | failsFirst {fault after} : first = (.error fault, after) →
      Composes first second (.error fault) after.nets
  | failsSecond {text between fault after} : first = (.ok text, between) →
      second between = (.error fault, after) → Composes first second (.error fault) after.nets
  | succeeds {text between later after} : first = (.ok text, between) →
      second between = (.ok later, after) → Composes first second (.ok (text ++ later)) after.nets

theorem render_split (hsound : f.Sound) {first rest : List String}
    (hroutes : f.allRoutes = first ++ rest) (hprintable : f.Printable board) (anchor : Anchor)
    (globalNets : Bool) :
    Composes (((f.withRoutes first).render anchor globalNets).on board)
      (fun between => ((f.withRoutes rest).render anchor globalNets).on between)
      ((f.render anchor globalNets).on board).1 ((f.render anchor globalNets).on board).2.nets := by
  have hcalls : f.allRoutes.flatMap Route.calls =
      first.flatMap Route.calls ++ rest.flatMap Route.calls := by
    rw [hroutes, List.flatMap_append]
  have hrecords : (f.records anchor globalNets).on board = _ :=
    congrArg (Session.on · board) (records_append hroutes)
  have hwritable : (f.withRoutes first).Writable anchor globalNets board :=
    hprintable.writable (by rw [hcalls])
  rcases render_on (hsound.withRoutes first) hwritable with
    ⟨drawn, chunks, between, between', hdrawn, hchunks, hnets, hrender⟩ |
    ⟨fault, after, hdrawn, hrender⟩
  · rw [on_bind_of_ok hdrawn] at hrecords
    have hwritable' : (f.withRoutes rest).Writable anchor globalNets between' := by
      have hafter := (nets_of_records hdrawn).1
      rw [allRoutes_withRoutes] at hafter
      apply hprintable.writable
      rw [List.append_nil, hnets, hafter, hcalls, NetTable.insertAll_append]
    -- by itself the second part starts behind one event more than it does in the whole
    have hinStep : Route.InStep Eq (((f.withRoutes rest).records anchor globalNets).on between')
        (((f.withRoutes rest).records anchor globalNets).on between) :=
      .of_readsNets (readsNets_runAll _ _ _) hnets fun _ _ => rfl
    rcases render_on (hsound.withRoutes rest) hwritable' with
      ⟨later, chunks', final, final', hlater, hchunks', hfinal, hrender'⟩ |
      ⟨fault, final, hlater, hrender'⟩
    · rw [hlater] at hinStep
      obtain ⟨after, hlater', hafter⟩ := hinStep.exists_ok
      rw [on_bind_of_ok hlater'] at hrecords
      obtain ⟨after', hafter', hwhole⟩ := render_of_ok hrecords
      have htext : recordsText f.style (drawn ++ later) =
          .ok (String.join chunks ++ String.join chunks') := mapM_chunk_append hchunks hchunks'
      rw [htext, on_orBreak_ok] at hwhole
      rw [hwhole, hafter', ← hafter, ← hfinal]
      exact .succeeds hrender hrender'
    · rw [hlater] at hinStep
      obtain ⟨after, hlater', hafter⟩ := hinStep.exists_error
      rw [on_bind_of_error hlater'] at hrecords
      have hwhole : (f.render anchor globalNets).on board = (.error fault, after) :=
        on_bind_of_error hrecords
      rw [hwhole, ← hafter]
      exact .failsSecond hrender hrender'
  · rw [on_bind_of_error hdrawn] at hrecords
    have hwhole : (f.render anchor globalNets).on board = (.error fault, after) :=
      on_bind_of_error hrecords
    rw [hwhole]
    exact .failsFirst hrender

/-- A footprint that was built from parameters is rendered part by part. Wherever its routes are cut
in two, its text is that of the first part and then that of the second, which starts on the board
that the first one left; if a part fails, the whole fails with its fault and leaves its nets. Its
numbers have to be within the limits of writing for this. Where the routes that are not empty stand,
in the single one or in the list, and how many empty ones stand between them, changes neither the
text or the fault nor the nets. -/
theorem render_composes {params : Value} {settings : Settings} {start built : Board}
    (h : (ofParameters params settings).on start = (.ok f, built)) (anchor : Anchor)
    (globalNets : Bool) (board : Board) :
    let outcome := (f.render anchor globalNets).on board
    (∀ first rest, f.allRoutes = first ++ rest → f.Printable board →
      Composes (((f.withRoutes first).render anchor globalNets).on board)
        (fun between => ((f.withRoutes rest).render anchor globalNets).on between)
        outcome.1 outcome.2.nets) ∧
    ∀ route routes, let g : Footprint := { f with route, routes }
      g.allRoutes.filter (· ≠ "") = f.allRoutes.filter (· ≠ "") →
        let outcome' := (g.render anchor globalNets).on board
        outcome'.1 = outcome.1 ∧ outcome'.2.nets = outcome.2.nets := by
  obtain ⟨t, -, hbuilt, -⟩ := ofParameters_built h
  constructor
  · intro first rest hroutes hprintable
    exact render_split hbuilt.sound hroutes hprintable anchor globalNets
  · intro route routes g hroutes
    exact (render_congr f route routes hroutes board).eq

/-- Of two routes with an empty one between them the second draws on the net that the first one has
called. -/
theorem render_composes_two_routes :
    let params : Value := .table [(.text "net", .text "GND"), (.text "width", .int 1),
      (.text "precision", .int 2), (.text "route", .text "f(0,0)<A>(1,1)"),
      (.text "routes", .list [.text "", .text "b(0,0)(1,1)<A>(2,2)"])]
    let f : Footprint :=
      { net := ⟨1, "GND"⟩, width := 1, route := "f(0,0)<A>(1,1)",
        routes := ["", "b(0,0)(1,1)<A>(2,2)"], precision := some 2 }
    let first := f.withRoutes ["f(0,0)<A>(1,1)"]
    let second := f.withRoutes ["", "b(0,0)(1,1)<A>(2,2)"]
    let listed := f.withRoutes ["f(0,0)<A>(1,1)", "", "", "b(0,0)(1,1)<A>(2,2)"]
    let anchor : Anchor := { x := 10, y := 20 }
    let board : Board := ⟨.empty true, []⟩
    let outcome := (f.render anchor true).on board
    (∃ built, (ofParameters params {}).on board = (.ok f, built)) ∧ f.Printable board ∧
      Composes ((first.render anchor true).on board)
        (fun between => (second.render anchor true).on between) outcome.1 outcome.2.nets ∧
      ((listed.render anchor true).on board).1 = outcome.1 ∧
      ((listed.render anchor true).on board).2.nets = outcome.2.nets := by
  intro params f first second listed anchor board outcome
  have hbuilt : (ofParameters params {}).on board = (.ok f, _) := rfl
  have hprintable : f.Printable board := ⟨by decide, by decide +kernel⟩
  obtain ⟨hcomposes, hlisted⟩ := render_composes hbuilt anchor true board
  refine ⟨⟨_, hbuilt⟩, hprintable, hcomposes _ _ rfl hprintable, hlisted _ _ ?_⟩
  decide +kernel

end Footprint

end CopperRoute
