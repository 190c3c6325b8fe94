import CopperRoute.Command
import CopperRoute.Proofs.Command.Outcome
import CopperRoute.Proofs.Placement.Coordinates
import CopperRoute.Proofs.Route.Unplaced
import CopperRoute.Proofs.Settings.Agreement
import CopperRoute.Proofs.Settings.Sequence

/-!
# How the command for one route ends

The command reads the anchor, lists the nets, builds a footprint of the one route (`prepare`) and
renders it. It is meant to end in one of two ways, whatever it is given (`Contained`): with the text,
or with a told error. The checks of the parameters keep to this, since neither settings files nor
options give them a value that they break down on. What gets past all checks and breaks down later is
named by `Escapes`:

    --net         digits that are no number            while the net is read
    --at          an infinite angle                    at the first mark
    --precision   more decimals than can be written    at the first record

Main statement (`route_contained_unless_escapes`).
-/

namespace CopperRoute

open Session

/-! ## Settings -/

namespace Settings

/-- What settings files come to is sound, whatever they hold and whatever became of them. -/
theorem load_sound (s : Site) (directory : Place) : (load s directory).merged.settings.Sound := by
  have hfile (before : Merge) (file : Option Place) (h : before.merged.settings.Sound) :
      (mergeFile s before file).merged.settings.Sound := by
    unfold mergeFile
    split
    · dsimp only
      split
      · exact h
      · exact merge_sound h _ _
    · exact h
  exact hfile _ _ (hfile _ _ Setting.keeps_default)

end Settings

namespace Command

/-! ## Options -/

theorem request_of_ofArguments {args : List String} {i : Invocation} {request : Request}
    (h : Invocation.ofArguments args = .ok i) (hrequest : i.request = some request) :
    ∃ verb ∈ verbs, ∃ taken, request = verb.request taken := by
  unfold Invocation.ofArguments at h
  obtain ⟨outer, -, h⟩ := bind_eq_ok h
  dsimp only at h
  split at h
  · obtain ⟨-, -, h⟩ := bind_eq_ok h
    obtain rfl := Except.ok.inj h
    cases hrequest
  · split at h
    · cases h
    · next name rest _ verb hverb =>
      obtain ⟨inner, -, h⟩ := bind_eq_ok h
      obtain ⟨-, -, h⟩ := bind_eq_ok h
      obtain rfl := Except.ok.inj h
      exact ⟨verb, List.mem_of_find?_eq_some hverb, inner, (Option.some.inj hrequest).symm⟩

/-- No option gives a number of decimals that is too long to be written. -/
theorem isWritable_of_ofArguments {args : List String} {verbose : Bool} {route anchor nets : String}
    {net : Option String} {overrides : Overrides}
    (h : Invocation.ofArguments args =
      .ok ⟨verbose, some (.route route anchor net nets overrides)⟩) :
    ∀ i ∈ overrides.precision, Number.isWritable i = true := by
  obtain ⟨verb, hverb, taken, hrequest⟩ := request_of_ofArguments h rfl
  simp only [verbs, List.mem_cons, List.not_mem_nil, or_false] at hverb
  rcases hverb with rfl | rfl | rfl | rfl
  · obtain ⟨-, -, -, -, rfl⟩ := Request.route.inj hrequest
    intro i hi
    obtain ⟨s, -, hs⟩ := Option.bind_eq_some_iff.1 hi
    exact Number.isWritable_of_wholeLiteral? hs
  all_goals cases hrequest

theorem not_breaks_of_not_int {v : Value} (h : ∀ i, v ≠ .int i) (hw : v.isWritable = true)
    (k : Setting) : ¬(Parameter.setting k).Breaks v := by
  rintro (⟨-, i, hi, -⟩ | ⟨-, hno⟩)
  · exact h i hi
  · rw [hw] at hno
    cases hno

theorem not_breaks_precision {i : Int} (h : 0 ≤ i ∨ Number.isWritable i = true) :
    ¬(Parameter.setting .precision).Breaks (.int i) := by
  rintro (⟨hk, -⟩ | ⟨hunfit, hno⟩)
  · simp [Setting.sizes] at hk
  · rcases h with hi | hw
    · exact hunfit (.inr ⟨i, rfl, hi⟩)
    · exact absurd (hno.symm.trans hw) (by simp)

theorem not_breaks_of_keeps {k : Setting} {v : Value} (h : k.Keeps v) :
    ¬(Parameter.setting k).Breaks v := by
  cases k with
  | width | viaSize | viaDrill =>
    obtain ⟨x, rfl, -⟩ := h
    exact not_breaks_of_not_int (by simp) rfl _
  | locked =>
    obtain ⟨b, rfl⟩ := h
    exact not_breaks_of_not_int (by simp) rfl _
  | precision =>
    rcases h with rfl | ⟨i, rfl, hi⟩
    · exact not_breaks_of_not_int (by simp) rfl _
    · exact not_breaks_precision (.inl hi)
  | format =>
    obtain ⟨format, rfl⟩ := h
    exact not_breaks_of_not_int (by simp) rfl _

theorem not_breaks_override {overrides : Overrides} {k : Setting} {v : Value}
    (hprecision : ∀ i ∈ overrides.precision, Number.isWritable i = true)
    (h : overrides.get? k = some v) : ¬(Parameter.setting k).Breaks v := by
  cases k with
  | width | viaSize | viaDrill =>
    obtain ⟨x, -, rfl⟩ := Option.map_eq_some_iff.1 h
    exact not_breaks_of_not_int (by simp) rfl _
  | locked =>
    obtain ⟨-, rfl⟩ : overrides.locked = true ∧ Value.bool true = v := by
      simpa [Overrides.get?] using h
    exact not_breaks_of_not_int (by simp) rfl _
  | precision =>
    obtain ⟨i, hi, rfl⟩ := Option.map_eq_some_iff.1 h
    exact not_breaks_precision (.inr (hprecision i hi))
  | format =>
    obtain ⟨s, -, rfl⟩ := Option.map_eq_some_iff.1 h
    exact not_breaks_of_not_int (by simp) rfl _

/-- Neither sound settings nor options have a value that its check breaks down on. -/
theorem not_breaks_of_sound {settings : Settings} (hsound : settings.Sound) {overrides : Overrides}
    (hprecision : ∀ i ∈ overrides.precision, Number.isWritable i = true) (k : Setting) :
    ¬(Parameter.setting k).Breaks ((overrides.apply settings).get k) := by
  rw [Overrides.get_apply]
  cases hoverride : overrides.get? k with
  | none => exact not_breaks_of_keeps (hsound k)
  | some v => exact not_breaks_override hprecision hoverride

/-! ## The parameters of one route -/

/-- The parameters that a route and its net make. -/
def parameters (route : String) (net : Value) : Table :=
  [(.text "net", net), (.text "route", .text route)]

theorem named_parameters (route : String) (net : Value) :
    Footprint.named (.table (parameters route net)) = .ok (parameters route net) := by
  have hnet : Footprint.isKnownValue (.text "net") = true := by decide
  have hroute : Footprint.isKnownValue (.text "route") = true := by decide
  simp [Footprint.named, Value.bare, parameters, Table.keys, Key.toValue, hnet, hroute]

theorem valueOf_parameters (route : String) (net : Value) (settings : Settings) (k : Setting) :
    Footprint.valueOf (parameters route net) settings k = settings.get k := by
  have hmissing : (parameters route net).get? k.name = none := by cases k <;> rfl
  rw [Footprint.valueOf, hmissing, Option.getD_none]

theorem route?_parameters (route : String) (net : Value) :
    Footprint.route? (parameters route net) = .ok route := by
  have hget : (parameters route net).get? "route" = some (.text route) := rfl
  rw [Footprint.route?, hget]
  by_cases hroute : route = ""
  · subst hroute
    rfl
  · simp [Value.isGiven, hroute]

theorem routes?_parameters (route : String) (net : Value) :
    Footprint.routes? (parameters route net) = .ok [] := rfl

/-! ## Preparation -/

/-- Digits are given for the net that make no number. -/
def NetUnread (net : Option String) : Prop :=
  ∃ s ∈ net, s ≠ "" ∧ (∀ c ∈ s.toList, Text.isDigitLike c = true) ∧ Number.wholeLiteral? s = none

theorem netValue_cases (net : Option String) :
    (NetUnread net ∧ netValue net = .error .unfitValue) ∨
      ¬NetUnread net ∧ ∃ v, netValue net = .ok v ∧ Parameter.net.Takes v := by
  cases net with
  | none =>
    refine .inr ⟨fun h => ?_, .null, rfl, trivial, id⟩
    obtain ⟨s, hs, -⟩ := h
    cases hs
  | some s =>
    unfold netValue
    dsimp only
    by_cases hdigits : s ≠ "" ∧ ∀ c ∈ s.toList, Text.isDigitLike c = true
    · have hguard : (!s.isEmpty && s.toList.all Text.isDigitLike) = true := by
        simpa [List.all_eq_true] using hdigits
      rw [if_pos hguard]
      cases hwhole : Number.wholeLiteral? s with
      | none => exact .inl ⟨⟨s, rfl, hdigits.1, hdigits.2, hwhole⟩, rfl⟩
      | some i =>
        refine .inr ⟨?_, .int i, rfl, trivial, id⟩
        rintro ⟨s', hs', -, -, hnone⟩
        obtain rfl := Option.some.inj hs'
        rw [hwhole] at hnone
        cases hnone
    · have hguard : ¬(!s.isEmpty && s.toList.all Text.isDigitLike) = true := by
        simpa [List.all_eq_true] using hdigits
      rw [if_neg hguard]
      refine .inr ⟨?_, .text s, rfl, trivial, id⟩
      rintro ⟨s', hs', hne, hall, -⟩
      obtain rfl := Option.some.inj hs'
      exact hdigits ⟨hne, hall⟩

/-- A footprint of one route is built or refused with a report, unless a setting breaks its check. -/
theorem ofParameters_parameters {settings : Settings}
    (hwhole : ∀ k : Setting, ¬(Parameter.setting k).Breaks (settings.get k)) (route : String)
    {net : Value} (hnet : Parameter.net.Takes net) {board : Board}
    (hopen : board.nets.allocate = true) :
    (∃ fault after, (Footprint.ofParameters (.table (parameters route net)) settings).on board =
      (.error fault, after) ∧ fault.IsTold) ∨
    ∃ f after, (Footprint.ofParameters (.table (parameters route net)) settings).on board =
      (.ok f, after) ∧ f.Sound ∧ f.allRoutes = if route = "" then [] else [route] := by
  rcases hon : (Footprint.ofParameters (.table (parameters route net)) settings).on board with
    ⟨fault | f, after⟩
  · refine .inl ⟨fault, after, rfl, ?_⟩
    have hget : (parameters route net).get? "net" = some net := rfl
    rcases Footprint.ofParameters_eq_error (named_parameters route net) hon with h | h | ⟨k, h⟩ | h
    · rw [route?_parameters] at h
      cases h
    · cases h
    · rw [valueOf_parameters] at h
      have hjudged := Footprint.judged_taken k (settings.get k)
      rw [h] at hjudged
      cases hjudged with
      | refused cause => exact ⟨by simp [Fault.report?], rfl⟩
      | broken cause hrefused hbroken => exact absurd hbroken (hwhole k)
    · have hjudged := Footprint.judged_netOf hopen net
      rw [hget, Option.getD_some] at h
      rw [h] at hjudged
      cases hjudged with
      | refused cause hrefused => exact absurd hnet hrefused
      | broken cause hrefused => exact absurd hnet hrefused
  · obtain ⟨t, hnamed, hbuilt, -⟩ := Footprint.ofParameters_built hon
    obtain rfl := Except.ok.inj ((named_parameters route net).symm.trans hnamed)
    have hroute : f.route = route :=
      (Except.ok.inj ((route?_parameters route net).symm.trans hbuilt.route)).symm
    have hroutes : f.routes = [] :=
      (Except.ok.inj ((routes?_parameters route net).symm.trans hbuilt.routes)).symm
    refine .inr ⟨f, after, rfl, hbuilt.sound, ?_⟩
    rw [Footprint.allRoutes, hroute, hroutes, List.append_nil]
    by_cases hempty : route = "" <;> simp [hempty]

/-- What is done before the route is drawn: the anchor is read, and the footprint is built on a board
with the nets that are listed. -/
def prepare (route anchor : String) (net : Option String) (nets : String) (settings : Settings) :
    Session (Anchor × Footprint) := do
  let anchor ← (Anchor.ofOption anchor).mapError Fault.anchor
  Session.register (netNames nets)
  let net ← Session.orBreak (netValue net)
  let footprint ← Footprint.ofParameters (.table (parameters route net)) settings
  pure (anchor, footprint)

theorem routeText_eq (route anchor : String) (net : Option String) (nets : String)
    (settings : Settings) :
    routeText route anchor net nets settings =
      prepare route anchor net nets settings >>= fun made => made.2.render made.1 true := by
  simp [routeText, prepare, parameters]

/-- The preparation breaks down exactly if the anchor is read and the net is not. -/
theorem prepare_on {settings : Settings}
    (hwhole : ∀ k : Setting, ¬(Parameter.setting k).Breaks (settings.get k))
    (route anchor : String) (net : Option String) (nets : String) :
    (((∃ a, Anchor.ofOption anchor = .ok a) ∧ NetUnread net) ∧
      ∃ b after, (prepare route anchor net nets settings).on newBoard =
        (.error (.breakdown b), after)) ∨
    ¬((∃ a, Anchor.ofOption anchor = .ok a) ∧ NetUnread net) ∧
      ((∃ fault after, (prepare route anchor net nets settings).on newBoard = (.error fault, after) ∧
          fault.IsTold) ∨
        ∃ a f after, (prepare route anchor net nets settings).on newBoard = (.ok (a, f), after) ∧
          f.Sound ∧ f.allRoutes = if route = "" then [] else [route]) := by
  unfold prepare
  cases hanchor : Anchor.ofOption anchor with
  | error cause =>
    refine .inr ⟨by simp, .inl ⟨.anchor cause, newBoard, ?_, by simp [Fault.report?], rfl⟩⟩
    exact on_bind_of_error (on_lift ..)
  | ok a =>
    obtain ⟨start, hregister, hstart⟩ := on_register (netNames nets) newBoard
    have hopen : start.nets.allocate = true := by
      rw [hstart, NetTable.allocate_insertAll]
      rfl
    have hread {next : Anchor → Session (Anchor × Footprint)} :
        ((liftM ((Except.ok a : Except AnchorCause Anchor).mapError Fault.anchor) :
          Session Anchor) >>= next).on newBoard = (next a).on newBoard := on_bind_of_ok (on_lift ..)
    rw [hread, on_bind_of_ok hregister]
    rcases netValue_cases net with ⟨hunread, hvalue⟩ | ⟨hread, v, hvalue, hnet⟩
    · refine .inl ⟨⟨⟨a, rfl⟩, hunread⟩, .unfitValue, start, ?_⟩
      rw [hvalue]
      rfl
    · refine .inr ⟨fun h => hread h.2, ?_⟩
      rw [hvalue, on_bind_of_ok (on_orBreak_ok ..)]
      rcases ofParameters_parameters hwhole route hnet hopen with
        ⟨fault, after, hfails, hreport⟩ | ⟨f, after, hbuilt, hsound, hroutes⟩
      · exact .inl ⟨fault, after, on_bind_of_error hfails, hreport⟩
      · rw [on_bind_of_ok hbuilt]
        exact .inr ⟨a, f, after, rfl, hsound, hroutes⟩

/-! ## Drawing -/

/-- The records of one route: they are lost where the route is, and nowhere else is there a
breakdown. -/
theorem records_on {f : Footprint} {route : String}
    (hroutes : f.allRoutes = if route = "" then [] else [route]) (a : Anchor) (board : Board) :
    ((f.setup a true).Lost board.nets f.net route ∧
      ∃ b after, (f.records a true).on board = (.error (.breakdown b), after)) ∨
    ¬(f.setup a true).Lost board.nets f.net route ∧
      ∀ fault after, (f.records a true).on board = (.error fault, after) → fault.OfRoute := by
  unfold Footprint.records
  rw [hroutes]
  by_cases hempty : route = ""
  · subst hempty
    have hscan : Route.scan "" = ⟨[], none⟩ := Route.scanFrom_nil 0
    refine .inr ⟨fun hlost => ?_, fun fault after h => by cases h⟩
    have hdraws := hlost.2
    rw [Route.Draws, hscan] at hdraws
    exact Route.not_drawsBehind_nil hdraws
  · rw [if_neg hempty, Footprint.runAll]
    rcases (f.setup a true).run_on_cases route f.net board with ⟨hlost, b, after, hrun⟩ | ⟨hfound, h⟩
    · exact .inl ⟨hlost, b, after, on_bind_of_error hrun⟩
    · refine .inr ⟨hfound, fun fault after hfails => ?_⟩
      rcases on_bind_eq_error hfails with hrun | ⟨records, between, -, hrest⟩
      · exact h fault after hrun
      · cases hrest

/-- The record cannot be written in a footprint of this precision. -/
def Unwritable (precision : Option Int) (r : Record) : Prop :=
  (∃ p ∈ precision, Record.placesLimit < p) ∨ Number.isWritable r.net.index = false

theorem not_unwritable_of_chunk {style : RecordStyle} {r : Record} {text : String}
    (h : r.chunk style = .ok text) : ¬Unwritable style.precision r := by
  obtain ⟨places, o, hplaces, houtline⟩ := Record.outline_of_chunk h
  rintro (⟨p, hp, hlimit⟩ | hindex)
  · rw [RecordStyle.places, Option.mem_def.1 hp] at hplaces
    dsimp only [Record.places?] at hplaces
    rw [if_neg (by omega)] at hplaces
    cases hplaces
  · rw [(Record.fit_of_outline houtline).2] at hindex
    cases hindex

/-- Records that have a text together have one each. -/
theorem exists_chunk_of_mapM {style : RecordStyle} {records : List Record} {chunks : List String}
    (h : records.mapM (fun r : Record => r.chunk style) = .ok chunks) :
    ∀ r ∈ records, ∃ text, r.chunk style = .ok text := by
  induction records generalizing chunks with
  | nil => simp
  | cons r records ih =>
    rw [List.mapM_cons] at h
    obtain ⟨text, htext, h⟩ := bind_eq_ok h
    obtain ⟨later, hlater, -⟩ := bind_eq_ok h
    exact List.forall_mem_cons.2 ⟨⟨text, htext⟩, ih hlater⟩

/-- The text of what a sound footprint draws breaks down at the records that cannot be written. -/
theorem recordsText_cases {f : Footprint} (hsound : f.Sound) {a : Anchor} {board after : Board}
    {records : List Record} (h : (f.records a true).on board = (.ok records, after)) :
    ((∃ r ∈ records, Unwritable f.precision r) ∧
      ∃ b, Footprint.recordsText f.style records = .error b) ∨
    (¬∃ r ∈ records, Unwritable f.precision r) ∧
      ∃ text, Footprint.recordsText f.style records = .ok text := by
  by_cases hunwritable : ∃ r ∈ records, Unwritable f.precision r
  · refine .inl ⟨hunwritable, ?_⟩
    cases htext : Footprint.recordsText f.style records with
    | error b => exact ⟨b, rfl⟩
    | ok text =>
      obtain ⟨r, hr, hno⟩ := hunwritable
      obtain ⟨chunks, hchunks, -⟩ := Footprint.chunks_of_recordsText htext
      obtain ⟨chunk, hchunk⟩ := exists_chunk_of_mapM hchunks r hr
      exact absurd hno (not_unwritable_of_chunk hchunk)
  · refine .inr ⟨hunwritable, ?_⟩
    have hwritable : ∀ r ∈ records, ¬Unwritable f.precision r := by simpa using hunwritable
    cases records with
    | nil => exact ⟨"", rfl⟩
    | cons r rest =>
      have hfits : f.Writable a true board := by
        refine ⟨fun p hp => ?_, fun records hrecords r' hr' => ?_⟩
        · have hlimit : ¬Record.placesLimit < p := fun hlt =>
            hwritable r List.mem_cons_self (.inl ⟨p, hp, hlt⟩)
          omega
        · rw [h] at hrecords
          obtain rfl : r :: rest = records := Option.some.inj hrecords
          have hindex : ¬Number.isWritable r'.net.index = false := fun hno =>
            hwritable r' hr' (.inr hno)
          simpa using hindex
      obtain ⟨chunks, -, htext⟩ := Footprint.chunks_of_sound hsound hfits h
      exact ⟨_, htext⟩

/-! ## The whole run -/

/-- How the work on a route breaks down although its arguments were accepted. -/
inductive Escapes (route anchor : String) (net : Option String) (nets : String)
    (settings : Settings) : Prop
  /-- for the net there are digits that make no number -/
  | net {a} : Anchor.ofOption anchor = .ok a → NetUnread net →
      Escapes route anchor net nets settings
  /-- the route draws something at an infinite angle -/
  | angle {a f board} :
      (prepare route anchor net nets settings).on newBoard = (.ok (a, f), board) →
      (f.setup a true).Lost board.nets f.net route → Escapes route anchor net nets settings
  /-- the route draws something that has more decimals than can be written, or too long an index -/
  | number {a f board records after r} :
      (prepare route anchor net nets settings).on newBoard = (.ok (a, f), board) →
      (f.records a true).on board = (.ok records, after) → r ∈ records →
      Unwritable f.precision r → Escapes route anchor net nets settings

section

variable {route anchor nets : String} {net : Option String} {settings : Settings}

/-- Once the footprint is built, what it draws decides. -/
theorem escapes_of_prepared_iff {a : Anchor} {f : Footprint} {board : Board}
    (hread : ¬((∃ a, Anchor.ofOption anchor = .ok a) ∧ NetUnread net))
    (hprepare : (prepare route anchor net nets settings).on newBoard = (.ok (a, f), board)) :
    Escapes route anchor net nets settings ↔
      (f.setup a true).Lost board.nets f.net route ∨
        ∃ records after, (f.records a true).on board = (.ok records, after) ∧
          ∃ r ∈ records, Unwritable f.precision r := by
  constructor
  · intro hescapes
    cases hescapes with
    | net hanchor hunread => exact absurd ⟨⟨_, hanchor⟩, hunread⟩ hread
    | angle hprepare' hlost =>
      cases hprepare.symm.trans hprepare'
      exact .inl hlost
    | number hprepare' hrecords hr hunwritable =>
      cases hprepare.symm.trans hprepare'
      exact .inr ⟨_, _, hrecords, _, hr, hunwritable⟩
  · rintro (hlost | ⟨records, after, hrecords, r, hr, hunwritable⟩)
    · exact .angle hprepare hlost
    · exact .number hprepare hrecords hr hunwritable

theorem routeText_on (hwhole : ∀ k : Setting, ¬(Parameter.setting k).Breaks (settings.get k))
    (route anchor : String) (net : Option String) (nets : String) :
    (Escapes route anchor net nets settings ∧
      ∃ b after, (routeText route anchor net nets settings).on newBoard =
        (.error (.breakdown b), after)) ∨
    ¬Escapes route anchor net nets settings ∧
      ((∃ fault after, (routeText route anchor net nets settings).on newBoard =
          (.error fault, after) ∧ fault.IsTold) ∨
        ∃ a f board text after,
          (prepare route anchor net nets settings).on newBoard = (.ok (a, f), board) ∧
          (f.render a true).on board = (.ok text, after) ∧
          (routeText route anchor net nets settings).on newBoard = (.ok text, after)) := by
  rw [routeText_eq]
  rcases prepare_on hwhole route anchor net nets with
    ⟨⟨⟨a, hanchor⟩, hunread⟩, b, after, hprepare⟩ | ⟨hread, ⟨fault, after, hprepare, hreport⟩ |
      ⟨a, f, board, hprepare, hsound, hroutes⟩⟩
  · exact .inl ⟨.net hanchor hunread, b, after, on_bind_of_error hprepare⟩
  · refine .inr ⟨fun hescapes => ?_, .inl ⟨fault, after, on_bind_of_error hprepare, hreport⟩⟩
    cases hescapes with
    | net hanchor hunread => exact hread ⟨⟨_, hanchor⟩, hunread⟩
    | angle hprepare' => cases hprepare.symm.trans hprepare'
    | number hprepare' => cases hprepare.symm.trans hprepare'
  · rw [on_bind_of_ok hprepare, escapes_of_prepared_iff hread hprepare]
    rcases records_on hroutes a board with ⟨hlost, b, after, hrecords⟩ | ⟨hfound, hofRoute⟩
    · exact .inl ⟨.inl hlost, b, after, on_bind_of_error hrecords⟩
    rcases hrecords : (f.records a true).on board with ⟨fault | records, after⟩
    · refine .inr ⟨?_, .inl ⟨fault, after, on_bind_of_error hrecords, ?_⟩⟩
      · rintro (hlost | ⟨records, after', hdrawn, -⟩)
        · exact hfound hlost
        · cases hdrawn
      · exact (hofRoute fault after hrecords).isTold
    · obtain ⟨final, -, hrender⟩ := Footprint.render_of_ok hrecords
      rcases recordsText_cases hsound hrecords with ⟨hunwritable, b, htext⟩ | ⟨hwritable, text, htext⟩
      · refine .inl ⟨.inr ⟨records, after, rfl, hunwritable⟩, b, final, ?_⟩
        exact hrender.trans (by rw [htext]; rfl)
      · rw [htext, on_orBreak_ok] at hrender
        refine .inr ⟨?_, .inr ⟨a, f, board, text, final, hprepare, hrender, hrender⟩⟩
        rintro (hlost | ⟨records', after', hdrawn, hunwritable⟩)
        · exact hfound hlost
        · obtain ⟨hsame, -⟩ := Prod.mk.inj hdrawn
          exact hwritable (Except.ok.inj hsame ▸ hunwritable)

end

/-- How the command for one route is meant to end: with the code zero, and then it has written just the
text, or with the code one, and then it has told an error and written nothing. -/
def Contained (route anchor : String) (net : Option String) (nets : String) (settings : Settings)
    (o : Outcome) : Prop :=
  (o.ending = .finished 0 ∧ ∃ a f board text after,
    (prepare route anchor net nets settings).on newBoard = (.ok (a, f), board) ∧
    (f.render a true).on board = (.ok text, after) ∧ o.output = .text text) ∨
  o.ending = .finished 1 ∧ (∃ events message, o.errors = events ++ "Error: " ++ message ++ "\n") ∧
    o.output = .text ""

section

variable {args : List String} {verbose : Bool} {route anchor nets : String} {net : Option String}
  {overrides : Overrides} {site : Settings.Site}

theorem run_route
    (hargs : Invocation.ofArguments args =
      .ok ⟨verbose, some (.route route anchor net nets overrides)⟩) (site : Settings.Site) :
    run args site = runRoute ⟨site, verbosityOf verbose⟩ route anchor net nets overrides := by
  rw [run, hargs]
  rfl

variable
  (hargs : Invocation.ofArguments args =
    .ok ⟨verbose, some (.route route anchor net nets overrides)⟩)
  (hload : (Settings.load site site.current).fault = none)

include hargs hload

theorem run_route_of_error {fault : Fault} {after : Board}
    (htext : (routeText route anchor net nets
      (overrides.apply (Settings.load site site.current).merged.settings)).on newBoard =
        (.error fault, after)) :
    ∃ started : Outcome, started.output = .text "" ∧ run args site = started.failed fault := by
  rw [run_route hargs, runRoute]
  exact withSettings_of_error (h := ⟨site, verbosityOf verbose⟩) _ hload htext

theorem run_route_of_ok {text : String} {after : Board}
    (htext : (routeText route anchor net nets
      (overrides.apply (Settings.load site site.current).merged.settings)).on newBoard =
        (.ok text, after)) :
    ∃ started : Outcome, started.ending = .finished 0 ∧
      run args site = { started with output := .text text } := by
  rw [run_route hargs, runRoute]
  exact withSettings_of_ok (h := ⟨site, verbosityOf verbose⟩) _ hload htext

end

/-- The command for one route, on arguments that are accepted and settings files that are read. It
ends as it is meant to unless something escapes it: a net of digits that make no number, a mark at an
infinite angle, or a record with more decimals or a longer index than can be written. Then it breaks
down, with nothing written. -/
theorem route_contained_unless_escapes {args : List String} {verbose : Bool}
    {route anchor nets : String} {net : Option String} {overrides : Overrides}
    {site : Settings.Site}
    (hargs : Invocation.ofArguments args =
      .ok ⟨verbose, some (.route route anchor net nets overrides)⟩)
    (hload : (Settings.load site site.current).fault = none) :
    let settings := overrides.apply (Settings.load site site.current).merged.settings
    let o := run args site
    (¬Escapes route anchor net nets settings → Contained route anchor net nets settings o) ∧
      (Escapes route anchor net nets settings →
        (∃ b, o.ending = .broken (.breakdown b)) ∧ o.output = .text "") := by
  intro settings o
  have hwhole : ∀ k : Setting, ¬(Parameter.setting k).Breaks (settings.get k) :=
    not_breaks_of_sound (Settings.load_sound site site.current) (isWritable_of_ofArguments hargs)
  rcases routeText_on hwhole route anchor net nets with ⟨hescapes, b, after, htext⟩ |
    ⟨hcontained, ⟨fault, after, htext, hreport⟩ |
      ⟨a, f, board, text, after, hprepare, hrender, htext⟩⟩
  · refine ⟨fun h => absurd hescapes h, fun _ => ?_⟩
    obtain ⟨started, houtput, hrun⟩ := run_route_of_error hargs hload htext
    have hended : o = started.failed (.breakdown b) := hrun
    rw [hended, Outcome.failed_of_breakdown]
    exact ⟨⟨b, rfl⟩, houtput⟩
  · refine ⟨fun _ => .inr ?_, fun h => absurd h hcontained⟩
    obtain ⟨started, houtput, hrun⟩ := run_route_of_error hargs hload htext
    have hended : o = started.failed fault := hrun
    obtain ⟨message, hfailed⟩ := started.failed_of_isTold hreport
    rw [hended, hfailed]
    exact ⟨rfl, ⟨started.errors, message, rfl⟩, houtput⟩
  · refine ⟨fun _ => .inl ?_, fun h => absurd h hcontained⟩
    obtain ⟨started, hending, hrun⟩ := run_route_of_ok hargs hload htext
    have hended : o = { started with output := .text text } := hrun
    rw [hended]
    exact ⟨hending, a, f, board, text, after, hprepare, hrender, rfl⟩

theorem netNames_empty : netNames "" = [] := by cbv

/-- A route on a net by its name, at an anchor and with a number of decimals, comes to its text. -/
theorem route_contained_unless_escapes_named_net :
    let args := ["route", "f(0,0)<A>(1,1)v", "--net", "GND", "--at", "10 20", "--precision", "2"]
    let overrides : Overrides := { precision := some 2 }
    let site : Settings.Site := ⟨⟨[]⟩, [], ["home"]⟩
    let settings := overrides.apply (Settings.load site site.current).merged.settings
    Invocation.ofArguments args =
        .ok ⟨false, some (.route "f(0,0)<A>(1,1)v" "10 20" (some "GND") "" overrides)⟩ ∧
      (Settings.load site site.current).fault = none ∧
      ¬Escapes "f(0,0)<A>(1,1)v" "10 20" (some "GND") "" settings ∧
      Contained "f(0,0)<A>(1,1)v" "10 20" (some "GND") "" settings (run args site) := by
  intro args overrides site settings
  have hargs : Invocation.ofArguments args =
      .ok ⟨false, some (.route "f(0,0)<A>(1,1)v" "10 20" (some "GND") "" overrides)⟩ := rfl
  have hload : (Settings.load site site.current).fault = none := rfl
  obtain ⟨hcontained, hescapes⟩ := route_contained_unless_escapes hargs hload
  have hend : (match (run args site).ending with
      | .finished code => code
      | _ => 2) = 0 := by
    rw [run_route hargs]
    unfold runRoute routeText
    rw [netNames_empty]
    decide +kernel
  have hwhole : ¬Escapes "f(0,0)<A>(1,1)v" "10 20" (some "GND") "" settings := by
    intro h
    obtain ⟨⟨b, hb⟩, -⟩ := hescapes h
    rw [hb] at hend
    cases hend
  exact ⟨hargs, hload, hwhole, hcontained hwhole⟩

/-- The command does not always end as it is meant to: a raised two counts as a digit but makes no
number, a number past the range of doubles is an infinite angle, and only so many decimals can be
written. -/
theorem route_not_contained :
    let site : Settings.Site := ⟨⟨[]⟩, [], ["home"]⟩
    let settings (overrides : Overrides) :=
      overrides.apply (Settings.load site site.current).merged.settings
    let net := ["route", "f(0,0)v", "--net", "²"]
    let angle := ["route", "f(0,0)v", "--at", "0 0 1e999"]
    let places := ["route", "f(0,0)v", "--precision", "2147483648"]
    let decimals : Overrides := { precision := some 2147483648 }
    (Settings.load site site.current).fault = none ∧
      (Invocation.ofArguments net = .ok ⟨false, some (.route "f(0,0)v" "0 0 0" (some "²") "" {})⟩ ∧
        ¬Contained "f(0,0)v" "0 0 0" (some "²") "" (settings {}) (run net site)) ∧
      (Invocation.ofArguments angle = .ok ⟨false, some (.route "f(0,0)v" "0 0 1e999" none "" {})⟩ ∧
        ¬Contained "f(0,0)v" "0 0 1e999" none "" (settings {}) (run angle site)) ∧
      Invocation.ofArguments places =
          .ok ⟨false, some (.route "f(0,0)v" "0 0 0" none "" decimals)⟩ ∧
        ¬Contained "f(0,0)v" "0 0 0" none "" (settings decimals) (run places site) := by
  intro site settings net angle places decimals
  have hbroken {o : Outcome} {route anchor nets : String} {option : Option String}
      {settings : Settings} (h : (match o.ending with
        | .broken (.breakdown _) => true
        | _ => false) = true) : ¬Contained route anchor option nets settings o := by
    rintro (⟨hend, -⟩ | ⟨hend, -⟩)
    · rw [hend] at h
      cases h
    · rw [hend] at h
      cases h
  have hnet : Invocation.ofArguments net =
    .ok ⟨false, some (.route "f(0,0)v" "0 0 0" (some "²") "" {})⟩ := rfl
  have hangle : Invocation.ofArguments angle =
    .ok ⟨false, some (.route "f(0,0)v" "0 0 1e999" none "" {})⟩ := rfl
  have hplaces : Invocation.ofArguments places =
    .ok ⟨false, some (.route "f(0,0)v" "0 0 0" none "" decimals)⟩ := rfl
  refine ⟨rfl, ⟨hnet, hbroken ?_⟩, ⟨hangle, hbroken ?_⟩, hplaces, hbroken ?_⟩
  · rw [run_route hnet, runRoute]
    unfold routeText
    rw [netNames_empty]
    decide +kernel
  · rw [run_route hangle, runRoute]
    unfold routeText
    rw [netNames_empty]
    decide +kernel
  · rw [run_route hplaces, runRoute]
    unfold routeText
    rw [netNames_empty]
    decide +kernel

end Command

end CopperRoute
