import CopperRoute.Check
import CopperRoute.Command
import CopperRoute.Proofs.Command.Outcome
import CopperRoute.Proofs.Footprint.Composition
import CopperRoute.Proofs.Placement.Numbering

/-!
# Checking and rendering agree

A check runs the routes of a footprint and counts, and rendering runs the same routes and writes.
The two see different logs, but a run reads nothing of a board but its nets (`readsNets_records`), so
that from the same nets both fail in the same way or come to the same records. What writing adds
cannot fail for a footprint that was built from a document.

Over a whole file a check goes on where rendering stops. Up to the first footprint that fails both
have the same nets, and behind it the verdict stands already.
-/

namespace CopperRoute

open Session

/-! ## Findings -/

namespace Record

def isSegment : Record → Bool
  | segment _ => true
  | via _ => false

def isVia : Record → Bool
  | segment _ => false
  | via _ => true

end Record

namespace Finding

theorem foldl_count (records : List Record) (f : Finding) :
    (records.foldl count f).segments = f.segments + records.countP Record.isSegment ∧
      (records.foldl count f).vias = f.vias + records.countP Record.isVia ∧
      (records.foldl count f).error = f.error := by
  induction records generalizing f with
  | nil => exact ⟨rfl, rfl, rfl⟩
  | cons r records ih =>
    obtain ⟨hsegments, hvias, herror⟩ := ih (f.count r)
    rw [List.foldl_cons, hsegments, hvias, herror]
    cases r with
    | segment s =>
      rw [List.countP_cons_of_pos rfl, List.countP_cons_of_neg (by simp [Record.isVia])]
      refine ⟨?_, rfl, rfl⟩
      show f.segments + 1 + _ = _
      omega
    | via v =>
      rw [List.countP_cons_of_neg (by simp [Record.isSegment]), List.countP_cons_of_pos rfl]
      refine ⟨rfl, ?_, rfl⟩
      show f.vias + 1 + _ = _
      omega

/-- A finding on records counts them and complains of nothing. -/
theorem ofRecords_spec (name : String) (records : List Record) :
    (ofRecords name records).segments = records.countP Record.isSegment ∧
      (ofRecords name records).vias = records.countP Record.isVia ∧
      (ofRecords name records).error = none := by
  obtain ⟨hsegments, hvias, herror⟩ := foldl_count records { name }
  exact ⟨by rw [ofRecords, hsegments, Nat.zero_add], by rw [ofRecords, hvias, Nat.zero_add], herror⟩

end Finding

/-! ## One footprint -/

namespace Instance

variable {i : Instance} {board after : Board}

theorem check_of_ok {records : List Record}
    (h : (i.records true).on board = (.ok records, after)) :
    i.check.on board = (.ok (Finding.ofRecords i.name records), after) := by
  have hmap : (Finding.ofRecords i.name <$> i.records true).on board =
      (.ok (Finding.ofRecords i.name records), after) := by
    rw [map_eq_pure_bind, on_bind_of_ok h]
    rfl
  rw [check, on_tryCatch, hmap]

theorem check_of_error {fault : Fault} (h : (i.records true).on board = (.error fault, after)) :
    i.check.on board =
      ((match fault with
        | .route fault => .ok (Finding.ofFault i.name fault)
        | fault => .error fault), after) := by
  have hmap : (Finding.ofRecords i.name <$> i.records true).on board = (.error fault, after) := by
    rw [map_eq_pure_bind, on_bind_of_error h]
  rw [check, on_tryCatch, hmap]
  cases fault <;> rfl

end Instance

/-- What checking a footprint comes to agrees with what rendering it comes to. -/
structure Agree (style : RecordStyle) (checked : Except Fault Finding × Board)
    (rendered : Except Fault String × Board) : Prop where
  /-- no error is found exactly if there is a text -/
  success : (∃ finding, checked.1 = .ok finding ∧ finding.error = none) ↔
    ∃ text, rendered.1 = .ok text
  /-- the text is made of the chunks of as many segments and vias as were counted -/
  text : ∀ finding text, checked.1 = .ok finding → rendered.1 = .ok text →
    ∃ (records : List Record) (chunks : List String),
      records.mapM (fun r => r.chunk style) = .ok chunks ∧ text = String.join chunks ∧
      records.countP Record.isSegment = finding.segments ∧
      records.countP Record.isVia = finding.vias
  /-- an error that is found is the fault of the route that ends rendering -/
  failure : ∀ message position,
    (∃ finding, checked.1 = .ok finding ∧ finding.error = some message ∧
      finding.position = position) ↔
    ∃ fault : RouteFault, rendered.1 = .error (.route fault) ∧ fault.message = message ∧
      fault.position = position
  /-- where an error is found nothing is counted -/
  blank : ∀ finding, checked.1 = .ok finding → finding.error ≠ none →
    finding.segments = 0 ∧ finding.vias = 0 ∧ finding.length = 0
  nets : checked.2.nets = rendered.2.nets

namespace Agree

variable {style : RecordStyle} {after after' : Board}

theorem of_records (name : String) {records : List Record} {chunks : List String}
    (hchunks : records.mapM (fun r => r.chunk style) = .ok chunks)
    (hnets : after.nets = after'.nets) :
    Agree style (.ok (Finding.ofRecords name records), after)
      (.ok (String.join chunks), after') := by
  obtain ⟨hsegments, hvias, herror⟩ := Finding.ofRecords_spec name records
  refine ⟨⟨fun _ => ⟨_, rfl⟩, fun _ => ⟨_, rfl, herror⟩⟩, ?_, ?_, ?_, hnets⟩
  · intro finding text hfinding htext
    obtain rfl := Except.ok.inj hfinding
    obtain rfl := Except.ok.inj htext
    exact ⟨records, chunks, hchunks, rfl, hsegments.symm, hvias.symm⟩
  · intro message position
    constructor
    · rintro ⟨finding, hfinding, hmessage, -⟩
      obtain rfl := Except.ok.inj hfinding
      rw [herror] at hmessage
      cases hmessage
    · rintro ⟨fault, hfault, -⟩
      cases hfault
  · intro finding hfinding hsome
    obtain rfl := Except.ok.inj hfinding
    exact absurd herror hsome

theorem of_fault (name : String) (fault : RouteFault) (hnets : after.nets = after'.nets) :
    Agree style (.ok (Finding.ofFault name fault), after) (.error (.route fault), after') := by
  refine ⟨?_, ?_, ?_, ?_, hnets⟩
  · constructor
    · rintro ⟨finding, hfinding, hnone⟩
      obtain rfl := Except.ok.inj hfinding
      cases hnone
    · rintro ⟨text, htext⟩
      cases htext
  · rintro finding text - htext
    cases htext
  · intro message position
    constructor
    · rintro ⟨finding, hfinding, hmessage, hposition⟩
      obtain rfl := Except.ok.inj hfinding
      exact ⟨fault, rfl, Option.some.inj hmessage, hposition⟩
    · rintro ⟨fault', hsame, rfl, rfl⟩
      obtain rfl := Fault.route.inj (Except.error.inj hsame)
      exact ⟨_, rfl, rfl, rfl⟩
  · intro finding hfinding _
    obtain rfl := Except.ok.inj hfinding
    exact ⟨rfl, rfl, rfl⟩

/-- What is no fault of a route ends both. -/
theorem of_error {fault : Fault} (hfault : ∀ f, fault ≠ .route f)
    (hnets : after.nets = after'.nets) :
    Agree style (.error fault, after) (.error fault, after') := by
  refine ⟨?_, ?_, ?_, ?_, hnets⟩
  · constructor
    · rintro ⟨finding, hfinding, -⟩
      cases hfinding
    · rintro ⟨text, htext⟩
      cases htext
  · intro finding text hfinding
    cases hfinding
  · intro message position
    constructor
    · rintro ⟨finding, hfinding, -⟩
      cases hfinding
    · rintro ⟨f, hsame, -⟩
      exact absurd (Except.error.inj hsame) (hfault f)
  · intro finding hfinding
    cases hfinding

end Agree

theorem Instance.readsNets_records (i : Instance) (globalNets : Bool) :
    ReadsNets (i.records globalNets) :=
  Footprint.readsNets_runAll _ _ _

/-- A sound footprint is checked as it is rendered, on boards with the same nets. -/
theorem Instance.agree {i : Instance} {board board' : Board} (hnets : board.nets = board'.nets)
    (hsound : i.footprint.Sound) (hwritable : i.footprint.Writable i.anchor true board') :
    Agree i.footprint.style (i.check.on board) ((i.render true).on board') := by
  obtain ⟨hsame, hafter⟩ := i.readsNets_records true board board' hnets
  rcases hrecords : (i.records true).on board with ⟨result, after⟩
  rw [hrecords] at hsame hafter
  rcases Footprint.render_on hsound hwritable with
    ⟨records, chunks, after', final, hrun, hchunks, hfinal, hrender⟩ | ⟨fault, after', hrun, hrender⟩
  · rw [show (i.records true).on board' = _ from hrun] at hsame hafter
    obtain rfl : result = .ok records := hsame
    rw [check_of_ok hrecords, show (i.render true).on board' = _ from hrender]
    exact .of_records i.name hchunks (hafter.trans hfinal.symm)
  · rw [show (i.records true).on board' = _ from hrun] at hsame hafter
    obtain rfl : result = .error fault := hsame
    rw [check_of_error hrecords, show (i.render true).on board' = _ from hrender]
    cases fault with
    | route fault => exact .of_fault i.name fault hafter
    | _ => exact .of_error (fun f h => nomatch h) hafter

/-! ## All footprints of a document -/

namespace Placement

theorem sound_of_ofValue {data : Value} {settings : Settings} {file : String}
    {placement : Placement} {board after : Board}
    (h : (ofValue data settings file).on board = (.ok placement, after)) :
    ∀ i ∈ placement.instances, i.footprint.Sound := by
  obtain ⟨names, entries, registered, built, -, -, hthrough, -⟩ := through_of_ofValue h
  exact hthrough.forall_mem fun e i board after hentry =>
    (Instance.ofEntry_eq_ok hentry).1.sound

/-- Findings were made on all footprints, and none of them complains. -/
def Passes (result : Except Fault (List Finding)) : Prop :=
  ∃ findings, result = .ok findings ∧ findings.all Finding.isOk = true

theorem passes_cons_iff (finding : Finding) (rest : Except Fault (List Finding)) :
    Passes (rest.map (finding :: ·)) ↔ finding.isOk = true ∧ Passes rest := by
  cases rest with
  | error fault =>
    constructor
    · rintro ⟨findings, hfindings, -⟩
      cases hfindings
    · rintro ⟨-, findings, hfindings, -⟩
      cases hfindings
  | ok rest =>
    constructor
    · rintro ⟨findings, hfindings, hall⟩
      obtain rfl := Except.ok.inj hfindings
      rw [List.all_cons, Bool.and_eq_true] at hall
      exact ⟨hall.1, rest, rfl, hall.2⟩
    · rintro ⟨hfirst, findings, hfindings, hall⟩
      obtain rfl := Except.ok.inj hfindings
      exact ⟨finding :: rest, rfl, by rw [List.all_cons, hfirst, hall]; rfl⟩

variable {board board' : Board}

/-- A footprint whose records fail does not pass, whether its fault is a finding or not. -/
theorem not_passes_of_error {i : Instance} {fault : Fault} {after : Board}
    (h : (i.records true).on board = (.error fault, after)) (instances : List Instance) :
    ¬Passes (((i :: instances).mapM Instance.check).on board).1 := by
  have hcheck := Instance.check_of_error h
  intro hpasses
  cases fault with
  | route fault =>
    rw [on_mapM_cons_of_ok Instance.check hcheck, passes_cons_iff] at hpasses
    cases hpasses.1
  | _ =>
    rw [on_mapM_cons_of_error Instance.check hcheck] at hpasses
    obtain ⟨findings, hfindings, -⟩ := hpasses
    cases hfindings

/-- Unless writing breaks down, footprints pass a check exactly if all of them are rendered. The
induction is on the footprints, and what it carries along is that both have the same nets. -/
theorem passes_iff_rendered (instances : List Instance) (hnets : board.nets = board'.nets)
    (hwhole : ∀ b, ((instances.mapM fun i : Instance => i.render true).on board').1 ≠
      .error (.breakdown b)) :
    Passes ((instances.mapM Instance.check).on board).1 ↔
      ∃ texts, ((instances.mapM fun i : Instance => i.render true).on board').1 = .ok texts := by
  induction instances generalizing board board' with
  | nil => exact ⟨fun _ => ⟨[], rfl⟩, fun _ => ⟨[], rfl, rfl⟩⟩
  | cons i instances ih =>
    obtain ⟨hsame, hafter⟩ := i.readsNets_records true board board' hnets
    rcases hrecords : (i.records true).on board with ⟨result, ran⟩
    rcases hrun : (i.records true).on board' with ⟨result', ran'⟩
    rw [hrecords, hrun] at hsame hafter
    obtain rfl : result = result' := hsame
    cases result with
    | error fault =>
      have hrender : (i.render true).on board' = (.error fault, ran') := on_bind_of_error hrun
      rw [on_mapM_cons_of_error (fun i : Instance => i.render true) hrender]
      refine ⟨fun hpasses => absurd hpasses (not_passes_of_error hrecords instances), ?_⟩
      rintro ⟨texts, htexts⟩
      cases htexts
    | ok records =>
      have hok : (Finding.ofRecords i.name records).isOk = true := by
        rw [Finding.isOk, (Finding.ofRecords_spec i.name records).2.2]
        rfl
      obtain ⟨final, hfinal, hrender⟩ := Footprint.render_of_ok hrun
      have hrender : (i.render true).on board' = _ := hrender
      rw [on_mapM_cons_of_ok Instance.check (Instance.check_of_ok hrecords), passes_cons_iff, hok]
      cases htext : Footprint.recordsText i.footprint.style records with
      | error b =>
        rw [htext] at hrender
        rw [on_mapM_cons_of_error (fun i : Instance => i.render true) hrender] at hwhole
        exact absurd rfl (hwhole b)
      | ok text =>
        rw [htext, on_orBreak_ok] at hrender
        rw [on_mapM_cons_of_ok (fun i : Instance => i.render true) hrender] at hwhole ⊢
        rw [ih (hafter.trans hfinal.symm) fun b hb => hwhole b (by rw [hb]; rfl)]
        cases ((instances.mapM fun i : Instance => i.render true).on final).1 with
        | error fault => simp [Except.map]
        | ok texts => simp [Except.map]

end Placement

/-! ## The commands -/

namespace Command

def placementOf (h : Host) (file : String) (settings : Settings) : Session Placement :=
  Placement.ofFile h.site.disk h.site.current (Path.ofText file) settings

/-- The text that a command makes of a file without overrides, behind the number of footprints. -/
def textOf (h : Host) (file : String) (settings : Settings) : Session (Nat × String) := do
  let p ← placementOf h file settings
  let text ← p.render true
  pure (p.instances.length, text)

variable {h : Host} {file : String} {p : Placement} {board : Board}

/-- Where the file is read, the text comes from its footprints. -/
theorem textOf_of_ok {h : Host} {settings : Settings}
    (hfile : (placementOf h file settings).on newBoard = (.ok p, board)) :
    ((textOf h file settings).on newBoard).1 =
      ((p.instances.mapM fun i : Instance => i.render true).on board).1.map fun texts =>
        (p.instances.length, String.join texts) := by
  unfold textOf
  rw [on_bind_of_ok hfile, Placement.render, bind_assoc]
  rcases htexts : (p.instances.mapM fun i : Instance => i.render true).on board with
    ⟨fault | texts, after⟩
  · rw [on_bind_of_error htexts]
    rfl
  · rw [on_bind_of_ok htexts]
    rfl

theorem runCheck_of_error {json quiet : Bool} {fault : Fault}
    (hload : (Settings.load h.site h.site.current).fault = none)
    (hfile : (placementOf h file (Settings.load h.site h.site.current).merged.settings).on newBoard =
      (.error fault, board)) :
    (runCheck h file json quiet).ending ≠ .finished 0 := by
  unfold runCheck
  obtain ⟨o, -, ho⟩ := withSettings_of_error (placementOf h file) hload hfile
  refine ho ▸ ?_
  exact o.ending_failed_ne_zero fault

/-- A check of a file that is read ends with the code zero exactly if its footprints pass. -/
theorem runCheck_of_ok {json quiet : Bool}
    (hload : (Settings.load h.site h.site.current).fault = none)
    (hfile : (placementOf h file (Settings.load h.site h.site.current).merged.settings).on newBoard =
      (.ok p, board)) :
    (runCheck h file json quiet).ending = .finished 0 ↔ Placement.Passes (p.check.on board).1 := by
  obtain ⟨o, -, ho⟩ : ∃ o : Outcome, o.ending = .finished 0 ∧ runCheck h file json quiet = _ := by
    unfold runCheck
    exact withSettings_of_ok _ hload hfile
  rw [ho]
  rcases p.check.on board with ⟨fault | findings, after⟩
  · constructor
    · intro hend
      cases hend
    · rintro ⟨findings, hfindings, -⟩
      cases hfindings
  · dsimp only
    rw [Summary.isOk_ofFindings]
    constructor
    · intro hend
      refine ⟨findings, rfl, ?_⟩
      by_contra hno
      rw [if_neg hno] at hend
      cases hend
    · rintro ⟨findings', hsame, hall⟩
      obtain rfl := Except.ok.inj hsame
      rw [if_pos hall]

/-- Rendering ends with the code zero exactly if it comes to a text, unless something breaks down. -/
theorem runRender_eq_zero_iff {output : Option String} {result : Except Fault (Nat × String)}
    (hload : (Settings.load h.site h.site.current).fault = none)
    (hwork : (textOf h file (Settings.load h.site h.site.current).merged.settings).on newBoard =
      (result, board))
    (hwhole : ∀ b, (runRender h file output true {}).ending ≠ .broken (.breakdown b)) :
    (∀ b, result ≠ .error (.breakdown b)) ∧
      ((runRender h file output true {}).ending = .finished 0 ↔ ∃ text, result = .ok text) := by
  cases result with
  | error fault =>
    obtain ⟨o, -, ho⟩ : ∃ o : Outcome, o.output = .text "" ∧
        runRender h file output true {} = o.failed fault := by
      unfold runRender
      exact withSettings_of_error (textOf h file) hload hwork
    rw [ho] at hwhole ⊢
    refine ⟨fun b hb => ?_, fun hend => absurd hend (o.ending_failed_ne_zero fault), ?_⟩
    · obtain rfl := Except.error.inj hb
      exact hwhole b rfl
    · rintro ⟨text, htext⟩
      cases htext
  | ok work =>
    refine ⟨fun b => by simp, fun _ => ⟨work, rfl⟩, fun _ => ?_⟩
    obtain ⟨o, hend, ho⟩ : ∃ o : Outcome, o.ending = .finished 0 ∧
        runRender h file output true {} = _ := by
      unfold runRender
      exact withSettings_of_ok (textOf h file) hload hwork
    rw [ho] at hwhole ⊢
    obtain ⟨footprints, text⟩ := work
    revert hwhole
    dsimp only
    -- only a text that goes to a file is delivered
    split
    · exact fun _ => hend
    · exact fun _ => hend
    · next path _ =>
      intro hwhole
      rcases deliver_cases o h.site.current (Path.ofText path) text footprints with
        ⟨b, hb⟩ | ⟨hkept, -⟩
      · exact absurd hb (hwhole b)
      · exact hkept.trans hend

/-- On one site a check of a file ends with the code zero exactly if rendering the file does, unless
rendering breaks down. -/
theorem runCheck_iff_runRender {site : Settings.Site} {v v' : Log.Verbosity} {json quiet : Bool}
    {output : Option String}
    (hwhole : ∀ b, (runRender ⟨site, v'⟩ file output true {}).ending ≠ .broken (.breakdown b)) :
    (runCheck ⟨site, v⟩ file json quiet).ending = .finished 0 ↔
      (runRender ⟨site, v'⟩ file output true {}).ending = .finished 0 := by
  cases hload : (Settings.load site site.current).fault with
  | some fault =>
    obtain ⟨o, ho⟩ : ∃ o : Outcome, runCheck ⟨site, v⟩ file json quiet = o.failed fault := by
      unfold runCheck
      exact withSettings_of_fault hload
    obtain ⟨o', ho'⟩ : ∃ o : Outcome, runRender ⟨site, v'⟩ file output true {} = o.failed fault := by
      unfold runRender
      exact withSettings_of_fault hload
    rw [ho, ho']
    exact iff_of_false (o.ending_failed_ne_zero fault) (o'.ending_failed_ne_zero fault)
  | none =>
    rcases hwork : (textOf ⟨site, v'⟩ file (Settings.load site site.current).merged.settings).on
      newBoard with ⟨result, after⟩
    obtain ⟨hresult, hrender⟩ := runRender_eq_zero_iff hload hwork hwhole
    rw [hrender]
    rcases hfile : (placementOf ⟨site, v⟩ file (Settings.load site site.current).merged.settings).on
      newBoard with ⟨fault | p, board⟩
    · have hfails : (textOf ⟨site, v'⟩ file (Settings.load site site.current).merged.settings).on
          newBoard = (.error fault, board) := on_bind_of_error hfile
      rw [hfails] at hwork
      obtain ⟨rfl, -⟩ := Prod.mk.inj hwork
      exact iff_of_false (runCheck_of_error hload hfile) (by simp)
    · have htexts := textOf_of_ok (h := ⟨site, v'⟩) hfile
      rw [hwork] at htexts
      obtain rfl : result = _ := htexts
      have hsame : board.nets = board.nets := rfl
      have hpasses := Placement.passes_iff_rendered p.instances hsame fun b hb =>
        hresult b (by rw [hb]; rfl)
      rw [runCheck_of_ok hload hfile]
      refine hpasses.trans ?_
      cases ((p.instances.mapM fun i : Instance => i.render true).on board).1 with
      | error fault => simp [Except.map]
      | ok texts => simp [Except.map]

end Command

/-- Every footprint of a document is checked as it is rendered, on boards with the same nets, as long
as its numbers are within the limits of writing: no error is found exactly if there is a text, the
text holds as many segments and vias as were counted, and an error that is found is the fault that
ends rendering. Over a file the two agree on whether all is well: on one site a check of the file
ends with the code zero exactly if rendering it without overrides does, unless rendering breaks
down. -/
theorem check_agrees_with_render :
    (∀ (data : Value) (settings : Settings) (file : String) (start parsed : Board)
      (placement : Placement),
      (Placement.ofValue data settings file).on start = (.ok placement, parsed) →
      ∀ i ∈ placement.instances, ∀ board board' : Board, board.nets = board'.nets →
        i.footprint.Writable i.anchor true board' →
        Agree i.footprint.style (i.check.on board) ((i.render true).on board')) ∧
    ∀ (site : Settings.Site) (checking rendering : List String) (verbose verbose' : Bool)
      (file : String) (json quiet : Bool) (output : Option String),
      Command.Invocation.ofArguments checking = .ok ⟨verbose, some (.check file json quiet)⟩ →
      Command.Invocation.ofArguments rendering = .ok ⟨verbose', some (.render file output true {})⟩ →
      (∀ b, (Command.run rendering site).ending ≠ .broken (.breakdown b)) →
      ((Command.run checking site).ending = .finished 0 ↔
        (Command.run rendering site).ending = .finished 0) := by
  constructor
  · intro data settings file start parsed placement hparse i hi board board' hnets hwritable
    exact i.agree hnets (Placement.sound_of_ofValue hparse i hi) hwritable
  · intro site checking rendering verbose verbose' file json quiet output hcheck hrender hwhole
    unfold Command.run at hwhole ⊢
    rw [hrender] at hwhole
    rw [hcheck, hrender]
    exact Command.runCheck_iff_runRender hwhole

/-- Of two footprints the second fails, behind a name that its route does not come to: both commands
tell the same of it. A file with these two is well for neither, and one with the first alone is well
for both. -/
theorem check_agrees_with_render_on_failing_footprint :
    let good : Value := .table [(.text "params", .table [(.text "net", .text "GND"),
      (.text "route", .text "f(0,0)<A>(1,1)v")])]
    let bad : Value := .table [(.text "params", .table [(.text "route", .text "f(0,0)xv<B>")])]
    let data : Value :=
      .table [(.text "footprints", .table [(.text "good", good), (.text "bad", bad)])]
    let instances : List Instance :=
      [⟨"good", {}, { net := ⟨1, "GND"⟩, route := "f(0,0)<A>(1,1)v" }⟩,
        ⟨"bad", {}, { route := "f(0,0)xv<B>" }⟩]
    let board : Board := ⟨.ofList ["GND"] true, []⟩
    let first := "'footprints':\n" ++
      "  'good':\n    'params':\n      'net': 'GND'\n      'route': 'f(0,0)<A>(1,1)v'\n"
    let second := "  'bad':\n    'params':\n      'route': 'f(0,0)xv<B>'\n"
    let site : Settings.Site :=
      ⟨⟨[(["b"], .file first.toUTF8), (["c"], .file (first ++ second).toUTF8)]⟩, [], ["home"]⟩
    (∃ parsed, (Placement.ofValue data {} "board.yaml").on ⟨.empty true, []⟩ =
        (.ok ⟨instances⟩, parsed)) ∧
      (∀ i ∈ instances, Agree i.footprint.style (i.check.on board) ((i.render true).on board)) ∧
      ((Command.run ["check", "b"] site).ending = .finished 0 ∧
        (Command.run ["render", "b"] site).ending = .finished 0) ∧
      (Command.run ["check", "c"] site).ending ≠ .finished 0 ∧
        (Command.run ["render", "c"] site).ending = .finished 1 := by
  intro good bad data instances board first second site
  have hparse : (Placement.ofValue data {} "board.yaml").on ⟨.empty true, []⟩ =
      (.ok ⟨instances⟩, _) := rfl
  obtain ⟨hagree, hcodes⟩ := check_agrees_with_render
  refine ⟨⟨_, hparse⟩, fun i hi => ?_, ?_, ?_⟩
  · have hprecision : ∀ i ∈ instances, ∀ p ∈ i.footprint.precision, p ≤ Record.placesLimit := by
      decide
    have hindices : ∀ i ∈ instances, ∀ records ∈ ((i.records true).on board).1.toOption,
        ∀ r ∈ records, Number.isWritable r.net.index = true := by decide +kernel
    exact hagree data {} "board.yaml" _ _ _ hparse i hi board board rfl
      ⟨hprecision i hi, hindices i hi⟩
  · have hpath : Path.ofText "b" = ⟨"", ["b"]⟩ := by cbv
    have hend : (Command.run ["render", "b"] site).ending = .finished 0 := by
      apply Command.Ending.eq_finished
      show (Command.runRender ⟨site, {}⟩ "b" none true {}).ending.code? = _
      rw [Command.runRender, hpath]
      decide +kernel
    have hagrees := hcodes site ["check", "b"] ["render", "b"] false false "b" false false none rfl
      rfl fun b hb => by cases hend.symm.trans hb
    exact ⟨hagrees.2 hend, hend⟩
  · have hpath : Path.ofText "c" = ⟨"", ["c"]⟩ := by cbv
    have hend : (Command.run ["render", "c"] site).ending = .finished 1 := by
      apply Command.Ending.eq_finished
      show (Command.runRender ⟨site, {}⟩ "c" none true {}).ending.code? = _
      rw [Command.runRender, hpath]
      decide +kernel
    have hagrees := hcodes site ["check", "c"] ["render", "c"] false false "c" false false none rfl
      rfl fun b hb => by cases hend.symm.trans hb
    refine ⟨fun hcheck => ?_, hend⟩
    cases hend.symm.trans (hagrees.1 hcheck)

end CopperRoute
