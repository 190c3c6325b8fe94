import CopperRoute.Proofs.Footprint.Parameters
import CopperRoute.Proofs.Footprint.Records
import CopperRoute.Proofs.Route.Offence

/-!
# Checked footprints render safely

A footprint is checked once, when it is built from its parameters, and after that its values are
used without another look: they are turned, rounded and written. What a run can fail with is
`Fault.OfRoute`, the faults of routes and of names that a board does not know. Main statement
(`render_safe`): whatever the parameters, the settings and the board, a footprint that was built
comes to a text or to such a fault, and never breaks down.
-/

namespace CopperRoute

open Session

/-- A fault that the text of a route is to blame for: it is reported, as the fault of a route or of
a name that is not known. -/
def Fault.OfRoute (fault : Fault) : Prop :=
  ∃ kind, fault.kind? = some kind ∧ (kind.isRoute = true ∨ kind = .netLookup)

theorem Fault.OfRoute.isTold {fault : Fault} (h : fault.OfRoute) : fault.IsTold := by
  obtain ⟨kind, hkind, hroute⟩ := h
  constructor
  · intro hnone
    rw [Fault.kind?, hnone] at hkind
    cases hkind
  · cases fault with
    | parameter cause footprint =>
      -- parameters are reported as a matter of configuration
      have hconfiguration : Kind.configuration = kind := by
        cases footprint <;> exact Option.some.inj hkind
      rw [← hconfiguration] at hroute
      exact absurd hroute (by decide)
    | _ => rfl

/-! ## Runs -/

namespace Route

theorem ofRoute_route (fault : RouteFault) : (Fault.route fault).OfRoute := by
  obtain ⟨cause, route, position⟩ := fault
  refine ⟨_, rfl, .inl ?_⟩
  cases cause <;> rfl

theorem Refused.ofRoute {globalNets : Bool} {t : NetTable} {route : String} {before : List Command}
    {token : Token} {fault : Fault} (h : Refused globalNets t route before token fault) :
    fault.OfRoute := by
  cases h with
  | noCursor | noLayer | noGlobalNets => exact ofRoute_route _
  | unknownNet => exact ⟨.netLookup, rfl, .inr rfl⟩

namespace Setup

variable {s : Setup} {board after : Board} {fault : Fault}

theorem ofRoute_of_run (hangle : ∀ negative, Number.exact s.anchor.angle ≠ .infinite negative)
    {route : String} {net : Net} (h : (s.run route net).on board = (.error fault, after)) :
    fault.OfRoute := by
  obtain ⟨turn, hturn⟩ := exists_turn_of_ne_infinite hangle
  obtain ⟨result, between, hruns, hrun⟩ := run_on hturn route net board
  rw [hrun] at h
  obtain ⟨hresult, rfl⟩ := Prod.mk.inj h
  generalize between.nets = nets at hruns
  cases hruns with
  | refused _ _ hrefused =>
    obtain rfl := Except.error.inj hresult
    exact hrefused.ofRoute
  | stopped =>
    obtain rfl := Except.error.inj hresult
    exact ofRoute_route _
  | finished => cases hresult

end Setup

end Route

/-! ## Footprints -/

namespace Footprint

variable {f : Footprint} {board after : Board} {anchor : Anchor} {globalNets : Bool} {fault : Fault}

theorem ofRoute_of_runAll {s : Route.Setup}
    (hangle : ∀ negative, Number.exact s.anchor.angle ≠ .infinite negative) {net : Net}
    {routes : List String} (h : (runAll s net routes).on board = (.error fault, after)) :
    fault.OfRoute := by
  induction routes generalizing board with
  | nil => cases h
  | cons route routes ih =>
    rw [runAll] at h
    rcases hrun : (s.run route net).on board with ⟨first | first, between⟩
    · rw [on_bind_of_error hrun] at h
      obtain ⟨hfault, rfl⟩ := Prod.mk.inj h
      obtain rfl := Except.error.inj hfault
      exact Route.Setup.ofRoute_of_run hangle hrun
    · rw [on_bind_of_ok hrun] at h
      rcases hrest : (runAll s net routes).on between with ⟨later | later, after'⟩
      · rw [on_bind_of_error hrest] at h
        obtain ⟨hfault, rfl⟩ := Prod.mk.inj h
        obtain rfl := Except.error.inj hfault
        exact ih hrest
      · rw [on_bind_of_ok hrest] at h
        cases h

/-- The text is written after the run, on a board with the nets that the run leaves. -/
theorem render_of_ok {records : List Record}
    (h : (f.records anchor globalNets).on board = (.ok records, after)) :
    ∃ final, final.nets = after.nets ∧ (f.render anchor globalNets).on board =
      (orBreak (recordsText f.style records)).on final := by
  refine ⟨{ after with log := after.log ++ [.rendered records.length anchor] }, rfl, ?_⟩
  unfold render
  rw [on_bind_of_ok h, on_bind_of_ok (on_log ..)]

/-- A sound footprint is rendered as it is run: to the text of its records, or to the fault of the
run. -/
theorem render_on (hsound : f.Sound) (hwritable : f.Writable anchor globalNets board) :
    (∃ records chunks after final, (f.records anchor globalNets).on board = (.ok records, after) ∧
      records.mapM (fun r => r.chunk f.style) = .ok chunks ∧ final.nets = after.nets ∧
      (f.render anchor globalNets).on board = (.ok (String.join chunks), final)) ∨
    ∃ fault after, (f.records anchor globalNets).on board = (.error fault, after) ∧
      (f.render anchor globalNets).on board = (.error fault, after) := by
  rcases hrecords : (f.records anchor globalNets).on board with ⟨fault | records, after⟩
  · exact .inr ⟨fault, after, rfl, on_bind_of_error hrecords⟩
  · obtain ⟨chunks, hchunks, htext⟩ := chunks_of_sound hsound hwritable hrecords
    obtain ⟨final, hfinal, hrender⟩ := render_of_ok hrecords
    rw [htext, on_orBreak_ok] at hrender
    exact .inl ⟨records, chunks, after, final, rfl, hchunks, hfinal, hrender⟩

theorem Built.sound {t : Table} {settings : Settings} (h : Built t settings f) : f.Sound := by
  obtain ⟨-, hwidth⟩ := sizeOf_eq_ok h.width
  obtain ⟨-, hviaSize⟩ := sizeOf_eq_ok h.viaSize
  obtain ⟨-, hviaDrill⟩ := sizeOf_eq_ok h.viaDrill
  refine ⟨hwidth, hviaSize, hviaDrill, fun p hp => ?_⟩
  rcases precisionOf_eq_ok h.precision with ⟨-, hnone⟩ | ⟨i, -, hsome, hi⟩
  · rw [hnone] at hp
    cases hp
  · rw [hsome] at hp
    obtain rfl := Option.some.inj hp
    exact hi

/-- A footprint that was built from any parameters and settings, on any board, has sizes that are
positive and finite. Its other parts are of the kind that they are used as: the lock is a truth
value, the number of decimals is missing or a whole number that is not negative, the format is one
that there is, and the routes are texts. Placed at any angle but an infinite one, with the nets of
any board or without, it comes to a text or to the fault of a route, as long as its numbers are
within the limits of writing. -/
theorem render_safe {params : Value} {settings : Settings} {start built : Board}
    (h : (ofParameters params settings).on start = (.ok f, built)) :
    f.Sound ∧
    (∃ t : Table, params.bare = .table t ∧
      valueOf t settings .locked = .bool f.locked ∧
      ((valueOf t settings .precision = .null ∧ f.precision = none) ∨
        ∃ i, valueOf t settings .precision = .int i ∧ f.precision = some i ∧ 0 ≤ i) ∧
      (∃ name, valueOf t settings .format = .text name ∧
        RecordFormat.ofName? name = some f.format) ∧
      (∀ v ∈ t.get? "route", v.isGiven = true → v = .text f.route) ∧
      ∀ v ∈ t.get? "routes", v.isGiven = true → v.parts = f.routes.map .text) ∧
    ∀ (anchor : Anchor) (globalNets : Bool) (board : Board),
      (∀ negative, Number.exact anchor.angle ≠ .infinite negative) →
      f.Writable anchor globalNets board →
      (∃ text, ((f.render anchor globalNets).on board).1 = .ok text) ∨
        ∃ fault, ((f.render anchor globalNets).on board).1 = .error fault ∧ fault.OfRoute := by
  obtain ⟨t, hnamed, hbuilt, -⟩ := ofParameters_built h
  have hsound := hbuilt.sound
  refine ⟨hsound, ⟨t, bare_of_named hnamed, lockedOf_eq_ok hbuilt.locked,
    precisionOf_eq_ok hbuilt.precision, formatOf_eq_ok hbuilt.format, route?_eq_ok hbuilt.route,
    routes?_eq_ok hbuilt.routes⟩, ?_⟩
  intro anchor globalNets board hangle hwritable
  rcases render_on hsound hwritable with
    ⟨records, chunks, after, final, -, -, -, hrender⟩ | ⟨fault, after, hrecords, hrender⟩
  · exact .inl ⟨String.join chunks, by rw [hrender]⟩
  · exact .inr ⟨fault, by rw [hrender], ofRoute_of_runAll hangle hrecords⟩

/-- Settings that are of no use do no harm where the parameters speak: here all but the sizes of
vias and the lock come from the parameters. A board that takes in the name that is called gets a
text, and one that does not know it the fault of the route. -/
theorem render_safe_beside_unfit_settings :
    let params : Value := .table [(.text "net", .text "GND"), (.text "width", .int 1),
      (.text "precision", .int 2), (.text "format", .text " Legacy"),
      (.text "route", .text "f(0,0)<A>(1,1)v")]
    let settings : Settings := { width := .text "wide", precision := .bool true, format := .null }
    let f : Footprint :=
      { net := ⟨1, "GND"⟩, width := 1, route := "f(0,0)<A>(1,1)v", precision := some 2,
        format := .legacy }
    let anchor : Anchor := { x := 10, y := 20 }
    ∃ built, (ofParameters params settings).on ⟨.empty true, []⟩ = (.ok f, built) ∧ f.Sound ∧
      (∃ text, ((f.render anchor true).on ⟨.empty true, []⟩).1 = .ok text) ∧
      ∃ fault, ((f.render anchor true).on ⟨.empty false, []⟩).1 = .error fault ∧
        fault.OfRoute := by
  intro params settings f anchor
  have hbuilt : (ofParameters params settings).on ⟨.empty true, []⟩ = (.ok f, _) := rfl
  obtain ⟨hsound, -, hsafe⟩ := render_safe hbuilt
  have hangle : ∀ negative, Number.exact anchor.angle ≠ .infinite negative := by decide +kernel
  have hsafe (board : Board) := hsafe anchor true board hangle
  refine ⟨_, hbuilt, hsound, ?_, ?_⟩
  · have hok : ((f.render anchor true).on ⟨.empty true, []⟩).1.isOk = true := by decide +kernel
    rcases hsafe ⟨.empty true, []⟩ ⟨by decide, by decide +kernel⟩ with htext | ⟨fault, hfault, -⟩
    · exact htext
    · rw [hfault] at hok
      cases hok
  · have hno : ((f.render anchor true).on ⟨.empty false, []⟩).1.isOk = false := by decide +kernel
    rcases hsafe ⟨.empty false, []⟩ ⟨by decide, by decide +kernel⟩ with ⟨text, htext⟩ | hfault
    · rw [htext] at hno
      cases hno
    · exact hfault

end Footprint

end CopperRoute
