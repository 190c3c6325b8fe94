import CopperRoute.Placement
import CopperRoute.Proofs.Footprint.Nets

/-!
# How the nets of a board are numbered

A board hands out indices at two times: while its document is read it enters the listed nets and
then the nets of the footprints, and while its footprints are rendered it enters the names that
their routes call.

    document ──ofValue──▶ names ++ netTexts entries ──render──▶ … ++ routeCalls entries

Main statement (`nets_numbered`): afterwards the table holds the distinct names of these three lists
in the order in which they first turn up, and every record that was emitted carries the index of its
net in this table.
-/

namespace CopperRoute

open Session

/-! ## Documents -/

namespace Value

/-- The entries of a table. What is no table has none. -/
def entries (v : Value) : Table :=
  match v.bare with
  | .table t => t
  | _ => []

theorem entries_of_not_given : ∀ {v : Value}, v.isGiven = false → v.entries = []
  | .knot _ body, h => @entries_of_not_given body h
  | .table [], _ => rfl
  | .null, _ | .bool _, _ | .int _, _ | .float _, _ | .text _, _ | .bytes _, _ | .list _, _
  | .set _, _ => rfl

/-- Where an empty table stands for what is not given, the entries are those of the value. -/
theorem entries_of_bare {v : Value} {t : Table}
    (h : (if v.isGiven then v else .table []).bare = .table t) : v.entries = t := by
  split at h
  · rw [entries, h]
  · next hgiven =>
    rw [entries_of_not_given (by simpa using hgiven)]
    cases h
    rfl

end Value

def Instance.parameters (definition : Value) : Table :=
  ((definition.entries.get? "params").getD .null).entries

namespace Placement

/-- A document lists names of nets, and footprints by their entries. -/
def Lists (data : Value) (file : String) (names : List String) (entries : Table) : Prop :=
  ∃ t, document data file = .ok t ∧ netNames t file = .ok names ∧ definitions t file = .ok entries

/-- The names of the nets of footprints in their order, empty ones included. -/
def netTexts (entries : Table) : List String :=
  entries.map fun e => (Footprint.netText? (Instance.parameters e.2)).getD ""

/-- The names that the routes of footprints call, in the order in which they are rendered. -/
def routeCalls (entries : Table) : List String :=
  entries.flatMap fun e => (Footprint.routeTexts (Instance.parameters e.2)).flatMap Route.calls

end Placement

/-! ## Building a placement -/

variable {board after : Board}

/-- The footprint of an instance is built from the parameters of its definition, and nothing but its
net is entered. -/
theorem Instance.ofEntry_eq_ok {settings : Settings} {file : String} {key : Key}
    {definition : Value} {i : Instance}
    (h : (ofEntry settings file key definition).on board = (.ok i, after)) :
    Footprint.Built (parameters definition) settings i.footprint ∧
      (Footprint.netOf (((parameters definition).get? "net").getD .null)).on board =
        (.ok i.footprint.net, after) := by
  unfold ofEntry at h
  dsimp only at h
  split at h
  · next t ht =>
    obtain ⟨footprint, between, hfootprint, hrest⟩ := on_bind_eq_ok h
    obtain ⟨params, hnamed, hbuilt, hnet⟩ :=
      Footprint.ofParameters_built (on_retold_eq_ok hfootprint)
    have hparameters : parameters definition = params := by
      rw [parameters, Value.entries_of_bare ht,
        Value.entries_of_bare (Footprint.bare_of_named hnamed)]
    rw [hparameters]
    split at hrest
    · cases hrest
    · obtain ⟨anchor, -, hplaced⟩ := on_lift_bind_eq_ok hrest
      obtain ⟨rfl, rfl⟩ := on_pure_eq_ok hplaced
      exact ⟨hbuilt, hnet⟩
  · cases h

namespace Placement

/-- The instances of a document enter the nets of their definitions. -/
theorem nets_of_entries {settings : Settings} {file : String} {entries : Table}
    {instances : List Instance}
    (h : Through (fun e : Key × Value => Instance.ofEntry settings file e.1 e.2) board entries
      instances after) :
    after.nets = board.nets.insertAll (netTexts entries) ∧
      ((∀ e ∈ entries, (Footprint.netText? (Instance.parameters e.2)).isSome) →
        ∀ i ∈ instances, after.nets.Holds i.footprint.net) ∧
      instances.flatMap (fun i => i.footprint.allRoutes.flatMap Route.calls) =
        routeCalls entries := by
  induction h with
  | nil board => exact ⟨rfl, by simp, rfl⟩
  | @cons e i entries instances board between after hentry _ ih =>
    obtain ⟨hbuilt, hnet⟩ := Instance.ofEntry_eq_ok hentry
    obtain ⟨hbetween, hholds⟩ := Footprint.nets_of_netOf hnet
    obtain ⟨hafter, hlater, hcalls⟩ := ih
    refine ⟨?_, fun hnames j hj => ?_, ?_⟩
    · rw [hafter, hbetween, netTexts, netTexts, List.map_cons]
      rfl
    · obtain ⟨hname, hnames⟩ := List.forall_mem_cons.1 hnames
      rcases List.mem_cons.1 hj with rfl | hj
      · rw [hafter]
        exact (hholds hname).insertAll _
      · exact hlater hnames j hj
    · rw [List.flatMap_cons, hcalls, hbuilt.allRoutes_eq]
      rfl

/-- Of a document, first the nets that it lists are entered, and then its instances are built one
after another. -/
theorem on_ofValue {data : Value} {file : String} {names : List String} {entries : Table}
    (hlists : Lists data file names entries) (settings : Settings) (board : Board) :
    ∃ registered : Board, registered.nets = board.nets.insertAll names ∧
      (ofValue data settings file).on board =
        match (entries.mapM fun e => Instance.ofEntry settings file e.1 e.2).on registered with
        | (.ok instances, built) =>
          (.ok ⟨instances⟩, { built with
            log := built.log ++ [.loaded instances.length built.nets.names.length] })
        | (.error fault, after) => (.error fault, after) := by
  obtain ⟨t, ht, hnames, hentries⟩ := hlists
  obtain ⟨registered, hregister, hregistered⟩ := on_register names board
  refine ⟨registered, hregistered, ?_⟩
  unfold ofValue
  rw [ht, on_bind_of_ok (on_lift ..), hnames, on_bind_of_ok (on_lift ..), on_bind_of_ok hregister,
    hentries, on_bind_of_ok (on_lift ..)]
  split
  · next instances built hbuilt =>
    rw [on_bind_of_ok hbuilt, on_bind_of_ok (on_get built), on_bind_of_ok (on_log ..)]
    rfl
  · next fault after hfailed => rw [on_bind_of_error hfailed]

/-- The instances of a placement are built one after another from the entries that its document
lists, on a board that has entered the listed nets. -/
theorem through_of_ofValue {data : Value} {settings : Settings} {file : String}
    {placement : Placement} (h : (ofValue data settings file).on board = (.ok placement, after)) :
    ∃ names entries registered built, Lists data file names entries ∧
      registered.nets = board.nets.insertAll names ∧
      Through (fun e : Key × Value => Instance.ofEntry settings file e.1 e.2) registered entries
        placement.instances built ∧
      after.nets = built.nets := by
  unfold ofValue at h
  obtain ⟨t, ht, h⟩ := on_lift_bind_eq_ok h
  obtain ⟨names, hlisted, h⟩ := on_lift_bind_eq_ok h
  obtain ⟨registered, hregister, hregistered⟩ := on_register names board
  rw [on_bind_of_ok hregister] at h
  obtain ⟨entries, hentries, h⟩ := on_lift_bind_eq_ok h
  obtain ⟨instances, built, hbuilt, h⟩ := on_bind_eq_ok h
  rw [on_bind_of_ok (on_get built), on_bind_of_ok (on_log ..)] at h
  obtain ⟨rfl, rfl⟩ := on_pure_eq_ok h
  exact ⟨names, entries, registered, built, ⟨t, ht, hlisted, hentries⟩, hregistered,
    through_of_mapM_eq_ok hbuilt, rfl⟩

/-- A placement is built from what its document lists, and the board enters the listed nets and then
those of the footprints. -/
theorem ofValue_eq_ok {data : Value} {settings : Settings} {file : String} {placement : Placement}
    (h : (ofValue data settings file).on board = (.ok placement, after))
    (hnames : ∀ names entries, Lists data file names entries →
      ∀ e ∈ entries, (Footprint.netText? (Instance.parameters e.2)).isSome) :
    ∃ names entries, Lists data file names entries ∧
      after.nets = board.nets.insertAll (names ++ netTexts entries) ∧
      (∀ i ∈ placement.instances, after.nets.Holds i.footprint.net) ∧
      placement.instances.flatMap (fun i => i.footprint.allRoutes.flatMap Route.calls) =
        routeCalls entries := by
  obtain ⟨names, entries, registered, built, hlists, hregistered, hthrough, hafter⟩ :=
    through_of_ofValue h
  obtain ⟨hnets, hholds, hcalls⟩ := nets_of_entries hthrough
  have hholds := hholds (hnames names entries hlists)
  rw [hregistered, ← NetTable.insertAll_append] at hnets
  rw [← hafter] at hnets hholds
  exact ⟨names, entries, hlists, hnets, hholds, hcalls⟩

/-! ## Rendering a placement -/

/-- Rendering the instances one after another comes to these records and their text. -/
inductive Emitted (globalNets : Bool) : Board → List Instance → List Record → String → Board → Prop
  | nil (board : Board) : Emitted globalNets board [] [] "" board
  | cons {i : Instance} {instances : List Instance} {records later : List Record}
      {text rest : String} {board between after : Board} :
      (i.records globalNets).on board = (.ok records, between) →
      Footprint.recordsText i.footprint.style records = .ok text →
      Emitted globalNets
        { between with log := between.log ++ [.rendered records.length i.anchor] }
        instances later rest after →
      Emitted globalNets board (i :: instances) (records ++ later) (text ++ rest) after

theorem emitted_of_through {globalNets : Bool} {instances : List Instance} {texts : List String}
    (h : Through (fun i : Instance => i.render globalNets) board instances texts after) :
    ∃ records, Emitted globalNets board instances records (String.join texts) after := by
  induction h with
  | nil board => exact ⟨[], .nil board⟩
  | cons hfirst _ ih =>
    obtain ⟨later, hlater⟩ := ih
    obtain ⟨records, between, hrecords, hrest⟩ := on_bind_eq_ok hfirst
    rw [on_bind_of_ok (on_log ..)] at hrest
    obtain ⟨htext, rfl⟩ := on_orBreak_eq_ok hrest
    rw [String.join_cons]
    exact ⟨records ++ later, .cons hrecords htext hlater⟩

/-- What is rendered is the text of records. -/
theorem emitted_of_render_eq_ok {placement : Placement} {globalNets : Bool} {text : String}
    (h : (placement.render globalNets).on board = (.ok text, after)) :
    ∃ records, Emitted globalNets board placement.instances records text after := by
  unfold render at h
  obtain ⟨texts, between, htexts, hjoin⟩ := on_bind_eq_ok h
  obtain ⟨rfl, rfl⟩ := on_pure_eq_ok hjoin
  exact emitted_of_through (through_of_mapM_eq_ok htexts)

/-- Rendering enters the names that the routes call, and what is emitted is on nets of the board if
the footprints are. -/
theorem nets_of_emitted {globalNets : Bool} {instances : List Instance} {records : List Record}
    {text : String} (h : Emitted globalNets board instances records text after) :
    after.nets = board.nets.insertAll
        (instances.flatMap fun i => i.footprint.allRoutes.flatMap Route.calls) ∧
      ((∀ i ∈ instances, board.nets.Holds i.footprint.net) →
        ∀ r ∈ records, after.nets.Holds r.net) := by
  induction h with
  | nil board => exact ⟨rfl, by simp⟩
  | @cons i instances records later text rest board between after hrecords _ _ ih =>
    -- the event between two footprints leaves the nets as they are, so `between` will do
    obtain ⟨hbetween, hfirst⟩ := Footprint.nets_of_records hrecords
    obtain ⟨hafter, hlater⟩ := ih
    refine ⟨?_, fun hholds r hr => ?_⟩
    · rw [hafter, List.flatMap_cons, NetTable.insertAll_append, ← hbetween]
    · obtain ⟨hi, hinstances⟩ := List.forall_mem_cons.1 hholds
      have hkept : ∀ j ∈ instances, between.nets.Holds j.footprint.net := by
        intro j hj
        rw [hbetween]
        exact (hinstances j hj).insertAll _
      rcases List.mem_append.1 hr with hr | hr
      · rw [hafter]
        rcases hfirst r hr with hsame | hheld
        · rw [hsame, hbetween]
          exact (hi.insertAll _).insertAll _
        · exact hheld.insertAll _
      · exact hlater hkept r hr

/-- The nets of a document whose footprints all give their net by its name, or give none. After the
document was read and its placement rendered, the table holds the absent net and then, numbered from
one on, the distinct names of the document: those that it lists, those of the footprints, and those
that the routes call, in the order in which they first turn up. Every record that was emitted
carries the net that the table has for its name, so that two records have the same index exactly if
their nets have the same name. -/
theorem nets_numbered {data : Value} {settings : Settings} {file : String} {log : List Log.Event}
    {placement : Placement} {parsed after : Board} {text : String}
    (hparse : (ofValue data settings file).on ⟨.empty true, log⟩ = (.ok placement, parsed))
    (hnames : ∀ names entries, Lists data file names entries →
      ∀ e ∈ entries, (Footprint.netText? (Instance.parameters e.2)).isSome)
    (hrender : (placement.render true).on parsed = (.ok text, after)) :
    ∃ names entries records, Lists data file names entries ∧
      Emitted true parsed placement.instances records text after ∧
      after.nets.names = ((names ++ netTexts entries ++ routeCalls entries).filter
        (· ≠ "")).eraseDups ∧
      after.nets.nets = Net.none :: after.nets.names.mapIdx (fun i name => ⟨i + 1, name⟩) ∧
      (∀ r ∈ records, after.nets.find? r.net.name = some r.net) ∧
      ∀ r ∈ records, ∀ other ∈ records,
        r.net.index = other.net.index ↔ r.net.name = other.net.name := by
  obtain ⟨names, entries, hlists, hparsed, hholds, hcalls⟩ := ofValue_eq_ok hparse hnames
  obtain ⟨records, hemitted⟩ := emitted_of_render_eq_ok hrender
  obtain ⟨hafter, hrecords⟩ := nets_of_emitted hemitted
  have hrecords := hrecords hholds
  refine ⟨names, entries, records, hlists, hemitted, ?_, ?_, hrecords, ?_⟩
  · rw [hafter, hparsed, hcalls, ← NetTable.insertAll_append, NetTable.names_insertAll]
    rfl
  · rw [NetTable.nets, List.mapIdx_eq_zipIdx_map]
  · intro r hr other hother
    exact (hrecords r hr).index_eq_iff (hrecords other hother)

/-- A listed net, two footprints, and routes that call old and new names: a footprint's net comes
before the names of all routes, those of the footprints to the left of it included. -/
theorem nets_numbered_two_footprints :
    let first : Value := .table [(.text "net", .text "VCC"),
      (.text "route", .text "f(0,0)<A>(1,1)<GND>(2,1)")]
    let second : Value := .table [(.text "net", .text "B"),
      (.text "routes", .list [.text "b(0,0)(1,0)<C>v"])]
    let entries : Table := [(.text "left", .table [(.text "params", first)]),
      (.text "right", .table [(.text "params", second)])]
    let data : Value :=
      .table [(.text "nets", .list [.text "GND"]), (.text "footprints", .table entries)]
    ∃ placement parsed text after,
      (ofValue data {} "board.yaml").on ⟨.empty true, []⟩ = (.ok placement, parsed) ∧
      (placement.render true).on parsed = (.ok text, after) ∧
      after.nets.names = ["GND", "VCC", "B", "A", "C"] := by
  intro first second entries data
  have hok : ((ofValue data {} "board.yaml" >>= fun p => p.render true).on
      ⟨.empty true, []⟩).1.toOption.isSome = true := by decide +kernel
  rcases hparse : (ofValue data {} "board.yaml").on ⟨.empty true, []⟩ with
    ⟨fault | placement, parsed⟩
  · rw [on_bind_of_error hparse] at hok
    cases hok
  rw [on_bind_of_ok hparse] at hok
  rcases hrender : (placement.render true).on parsed with ⟨fault | text, after⟩
  · rw [hrender] at hok
    cases hok
  have hlists : ∀ names entries', Lists data "board.yaml" names entries' →
      names = ["GND"] ∧ entries' = entries := by
    rintro names entries' ⟨t, ht, hlisted, hdefinitions⟩
    obtain rfl := Except.ok.inj ht
    exact ⟨(Except.ok.inj hlisted).symm, (Except.ok.inj hdefinitions).symm⟩
  have hnamed : ∀ names entries', Lists data "board.yaml" names entries' →
      ∀ e ∈ entries', (Footprint.netText? (Instance.parameters e.2)).isSome := by
    intro names entries' h
    obtain ⟨-, rfl⟩ := hlists names entries' h
    decide +kernel
  obtain ⟨names, entries', records, h, -, hnames, -⟩ := nets_numbered hparse hnamed hrender
  obtain ⟨rfl, rfl⟩ := hlists names entries' h
  refine ⟨placement, parsed, text, after, rfl, hrender, ?_⟩
  rw [hnames]
  decide +kernel

end Placement

end CopperRoute
