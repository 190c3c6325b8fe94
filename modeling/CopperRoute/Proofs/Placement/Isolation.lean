import CopperRoute.Proofs.Placement.Numbering
import CopperRoute.Proofs.Placement.Repeat
import Mathlib.Tactic.Choose

/-!
# Footprints on their own

The footprints of a document share the nets of its board, and through them one could tell on
another: what a footprint enters is known to all that come after it. Where every name that turns up
is listed (`Closed`), the table is complete before the first footprint is built, and all work on
footprints is settled by it (`Settles`):

    names ──register──▶ ofList names ──┬── entry ──ofEntry──▶ instance ──render──▶ block
                                       ├── entry ──ofEntry──▶ instance ──render──▶ block
                                       └── …

Main statement (`blocks_of_closed`): then the text is that of the footprints one after another, each
of them as it would be written if it stood alone, and every document with the same nets that picks
from these footprints is written from the same blocks.
-/

namespace CopperRoute.Placement

open Session

/-! ## Documents -/

def documentOf (names : List String) (entries : Table) : Value :=
  .table [(.text "nets", .list (names.map .text)), (.text "footprints", .table entries)]

/-- The text of a document, with a board of its own. -/
def standalone (settings : Settings) (file : String) (globalNets : Bool) (data : Value) :
    Except Fault String :=
  ((ofValue data settings file >>= fun p => p.render globalNets).on ⟨.empty true, []⟩).1

/-- All names that footprints give their nets and that their routes call are listed. -/
def Closed (names : List String) (entries : Table) : Prop :=
  ∀ name ∈ netTexts entries ++ routeCalls entries, name = "" ∨ name ∈ names

variable {settings : Settings} {file : String} {data : Value} {names : List String}
  {entries : Table} {globalNets : Bool} {board parsed after : Board} {placement : Placement}

theorem netNames_of_texts {t : Table} (h : t.get? "nets" = some (.list (names.map .text))) :
    netNames t file = .ok names := by
  rw [netNames, h]
  cases names with
  | nil => rfl
  | cons name names =>
    have hnames := Value.mapM_text?_eq_some.2 (rfl : (name :: names).map Value.text = _)
    rw [List.map_cons] at hnames ⊢
    simp only [Value.isGiven, Value.bare, List.isEmpty_cons, Bool.not_false, if_true, hnames]

theorem lists_documentOf (names : List String) (entries : Table) (file : String) :
    Lists (documentOf names entries) file names entries := by
  refine ⟨_, rfl, netNames_of_texts rfl, ?_⟩
  cases entries with
  | nil => rfl
  | cons e entries => rfl

theorem Lists.unique {others : List String} {entries' : Table} (h : Lists data file names entries)
    (h' : Lists data file others entries') : others = names ∧ entries' = entries := by
  obtain ⟨t, ht, hnames, hentries⟩ := h
  obtain ⟨t', ht', hothers, hentries'⟩ := h'
  obtain rfl := Except.ok.inj (ht.symm.trans ht')
  exact ⟨Except.ok.inj (hothers.symm.trans hnames), Except.ok.inj (hentries'.symm.trans hentries)⟩

/-! ## Settled documents -/

/-- A document whose footprints are settled by the listed nets is the placement of them. -/
theorem ofValue_of_settled {result : Key × Value → Instance} (hlists : Lists data file names entries)
    (h : ∀ e ∈ entries, Settles (.ofList names true) (Instance.ofEntry settings file e.1 e.2)
      (result e)) (log : List Log.Event) :
    ∃ parsed, (ofValue data settings file).on ⟨.empty true, log⟩ =
        (.ok ⟨entries.map result⟩, parsed) ∧
      parsed.nets = .ofList names true := by
  obtain ⟨registered, hregistered, hon⟩ := on_ofValue hlists settings ⟨.empty true, log⟩
  obtain ⟨built, hbuilt, hnets⟩ := settles_mapM h registered hregistered
  rw [hon, hbuilt]
  exact ⟨_, rfl, hnets⟩

/-- The text of settled instances is that of all of them in order. -/
theorem settles_render (p : Placement) {t : NetTable} {text : Instance → String}
    (h : ∀ i ∈ p.instances, Settles t (i.render globalNets) (text i)) :
    Settles t (p.render globalNets) (String.join (p.instances.map text)) := by
  unfold render
  exact (settles_mapM h).bind (settles_pure t _)

/-- In a closed document the instances are built by the listed nets alone, and once they are
rendered, so are their texts. -/
theorem settles_of_closed {text : String} {log : List Log.Event}
    (hlists : Lists data file names entries) (hclosed : Closed names entries)
    (hparse : (ofValue data settings file).on ⟨.empty true, log⟩ = (.ok placement, parsed))
    (hrender : (placement.render globalNets).on parsed = (.ok text, after)) :
    (∀ e ∈ entries, ∃ i ∈ placement.instances,
        Settles (.ofList names true) (Instance.ofEntry settings file e.1 e.2) i) ∧
      ∀ i ∈ placement.instances, ∃ text, Settles (.ofList names true) (i.render globalNets) text := by
  obtain ⟨others, entries', registered, built, hlists', hregistered, hentries, hparsed⟩ :=
    through_of_ofValue hparse
  obtain ⟨rfl, rfl⟩ := hlists.unique hlists'
  obtain ⟨hbuilt, -, hcalls⟩ := nets_of_entries hentries
  obtain ⟨texts, between, htexts, -⟩ := on_bind_eq_ok hrender
  have htexts := through_of_mapM_eq_ok htexts
  obtain ⟨records, hemitted⟩ := emitted_of_through htexts
  obtain ⟨hbetween, -⟩ := nets_of_emitted hemitted
  -- neither the footprints nor their routes come with a new name
  have hknown : ∀ name ∈ netTexts entries' ++ routeCalls entries',
      name = "" ∨ name ∈ (NetTable.ofList others true).names := by
    intro name hname
    rcases hclosed name hname with rfl | hname
    · exact .inl rfl
    · exact NetTable.mem_names_ofList hname true
  obtain ⟨htexts', hcalls'⟩ := List.forall_mem_append.1 hknown
  have hregistered : registered.nets = .ofList others true := hregistered
  rw [hregistered, NetTable.insertAll_of_forall_mem htexts'] at hbuilt
  rw [hcalls, hparsed, hbuilt, NetTable.insertAll_of_forall_mem hcalls'] at hbetween
  constructor
  · rw [← hbuilt]
    exact (hentries.settles fun e : Key × Value => Instance.repeats_ofEntry settings file e.1 e.2).2
  · intro i hi
    rw [← hbetween]
    obtain ⟨text, -, htext⟩ := (htexts.settles fun i => i.repeats_render globalNets).2 i hi
    exact ⟨text, htext⟩

/-! ## Blocks -/

/-- A document that is accepted and rendered, and that lists every name that its footprints and
their routes use. The table of its nets is that of the list, before it is rendered and afterwards,
and its text is made of one block for each footprint in order, the block being the text of the
document with the same nets and this footprint alone. Of any documents with the same nets and only
such footprints the same blocks make the text, whichever they leave out or repeat and whatever their
order is. -/
theorem blocks_of_closed {text : String} {log : List Log.Event}
    (hlists : Lists data file names entries) (hclosed : Closed names entries)
    (hparse : (ofValue data settings file).on ⟨.empty true, log⟩ = (.ok placement, parsed))
    (hrender : (placement.render globalNets).on parsed = (.ok text, after)) :
    parsed.nets = .ofList names true ∧ after.nets = .ofList names true ∧
      ∃ block : Key × Value → String,
        (∀ e ∈ entries, standalone settings file globalNets (documentOf names [e]) =
          .ok (block e)) ∧
        text = String.join (entries.map block) ∧
        ∀ data' entries', Lists data' file names entries' → entries' ⊆ entries →
          standalone settings file globalNets data' = .ok (String.join (entries'.map block)) := by
  obtain ⟨hinstances, htexts⟩ := settles_of_closed hlists hclosed hparse hrender
  have : Nonempty Instance := ⟨"", ⟨0, 0, 0⟩, {}⟩
  choose! result hmem hresult using hinstances
  choose! textOf htextOf using htexts
  -- one lemma for the document itself and for all others that pick from its footprints
  have hrun : ∀ data' entries', Lists data' file names entries' → entries' ⊆ entries → ∀ log,
      ∃ parsed after, (ofValue data' settings file).on ⟨.empty true, log⟩ =
          (.ok ⟨entries'.map result⟩, parsed) ∧ parsed.nets = .ofList names true ∧
        (render ⟨entries'.map result⟩ globalNets).on parsed =
          (.ok (String.join (entries'.map fun e => textOf (result e))), after) ∧
        after.nets = .ofList names true := by
    intro data' entries' hlists' hsub log
    obtain ⟨parsed, hparse, hparsed⟩ :=
      ofValue_of_settled hlists' (fun e he => hresult e (hsub he)) log
    have hrendered : ∀ i ∈ entries'.map result,
        Settles (.ofList names true) (i.render globalNets) (textOf i) := by
      rintro i hi
      obtain ⟨e, he, rfl⟩ := List.mem_map.1 hi
      exact htextOf _ (hmem e (hsub he))
    obtain ⟨after, hrender, hafter⟩ :=
      settles_render ⟨entries'.map result⟩ hrendered parsed hparsed
    rw [List.map_map] at hrender
    exact ⟨parsed, after, hparse, hparsed, hrender, hafter⟩
  have hstandalone : ∀ data' entries', Lists data' file names entries' → entries' ⊆ entries →
      standalone settings file globalNets data' =
        .ok (String.join (entries'.map fun e => textOf (result e))) := by
    intro data' entries' hlists' hsub
    obtain ⟨parsed, after, hparse, -, hrender, -⟩ := hrun data' entries' hlists' hsub []
    rw [standalone, on_bind_of_ok hparse, hrender]
  obtain ⟨parsed', after', hparse', hparsed, hrender', hafter⟩ :=
    hrun data entries hlists (List.Subset.refl _) log
  obtain ⟨hplacement, rfl⟩ := Prod.mk.inj (hparse.symm.trans hparse')
  obtain rfl := Except.ok.inj hplacement
  obtain ⟨htext, rfl⟩ := Prod.mk.inj (hrender.symm.trans hrender')
  refine ⟨hparsed, hafter, fun e => textOf (result e), fun e he => ?_, Except.ok.inj htext,
    hstandalone⟩
  rw [hstandalone _ [e] (lists_documentOf names [e] file) (by simpa using he)]
  simp [String.join]

/-- Two footprints, the second of which starts on no net and without a layer, whatever the first one
left: written in the other order, their blocks change places. -/
theorem blocks_of_two_footprints :
    let first : Value := .table [(.text "net", .text "VCC"),
      (.text "route", .text "f(0,0)<GND>(1,1)")]
    let second : Value := .table [(.text "routes", .list [.text "b(0,0)(1,0)<VCC>v"])]
    let left : Key × Value := (.text "left", .table [(.text "params", first)])
    let right : Key × Value := (.text "right", .table [(.text "params", second)])
    let names := ["GND", "VCC"]
    let written (entries : Table) := standalone {} "board.yaml" true (documentOf names entries)
    ∃ block block' : String, written [left] = .ok block ∧ written [right] = .ok block' ∧
      written [left, right] = .ok (block ++ block') ∧
      written [right, left] = .ok (block' ++ block) := by
  intro first second left right names written
  have hok : (written [left, right]).toOption.isSome = true := by decide +kernel
  have hlists := lists_documentOf names [left, right] "board.yaml"
  have hclosed : Closed names [left, right] := by
    unfold Closed
    decide +kernel
  obtain ⟨text, after, h⟩ := on_eq_ok_of_isSome hok
  obtain ⟨placement, parsed, hparse, hrender⟩ := on_bind_eq_ok h
  obtain ⟨-, -, block, hblock, -, hall⟩ := blocks_of_closed hlists hclosed hparse hrender
  refine ⟨block left, block right, hblock left (by simp), hblock right (by simp), ?_, ?_⟩
  · have hforth := hall _ [left, right] hlists (by simp)
    simpa [String.join] using hforth
  · have hback := hall _ [right, left] (lists_documentOf names _ _) (by simp)
    simpa [String.join] using hback

end CopperRoute.Placement
