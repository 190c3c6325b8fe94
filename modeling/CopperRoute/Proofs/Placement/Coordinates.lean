import CopperRoute.Proofs.Placement.Numbering
import CopperRoute.Proofs.Record.Reading
import CopperRoute.Proofs.Route.Position

/-!
# The coordinates in a text

Positions come from routes, which hold finite numbers only, and are put on the board by anchors,
which may hold any. Nothing behind the anchor looks at a coordinate again:

    route ──drawnFrom──▶ positions ──place──▶ points of records ──chunk──▶ coordinates in the text

Each arrow is followed by a lemma: what is drawn are the positions of the route in order
(`placed_of_draw`), what is written are the points of the records (`coordinates_of_contents`), and a
point is written in decimal numerals exactly if it is finite. Main statement
(`coordinates_isDecimal_iff`): a text has only decimal coordinates exactly if the anchors put all
positions that are drawn on finite points.
-/

namespace CopperRoute

open Session Sexp

/-! ## Points -/

def Point.IsFinite (p : Point) : Prop := Number.isFinite p.x = true ∧ Number.isFinite p.y = true

instance (p : Point) : Decidable p.IsFinite := inferInstanceAs (Decidable (_ ∧ _))

/-- The position has a place on the board, and that is a finite one. -/
def Anchor.PlacesFinite (a : Anchor) (p : Point) : Prop := ∃ q ∈ (a.place p).toOption, q.IsFinite

instance (a : Anchor) (p : Point) : Decidable (a.PlacesFinite p) :=
  decidable_of_iff ((a.place p).toOption.any fun q => decide q.IsFinite) (by
    simp [Anchor.PlacesFinite, Option.any_eq_true])

/-- Positions are placed on finite points exactly if the points that they are placed on are finite. -/
theorem Anchor.placesFinite_iff {a : Anchor} {ps qs : List Point}
    (h : List.Forall₂ (fun p q => a.place p = .ok q) ps qs) :
    (∀ q ∈ qs, q.IsFinite) ↔ ∀ p ∈ ps, a.PlacesFinite p := by
  induction h with
  | nil => simp
  | @cons p q ps qs hplace _ ih =>
    have hfirst : q.IsFinite ↔ a.PlacesFinite p := by
      constructor
      · exact fun hq => ⟨q, by rw [hplace]; rfl, hq⟩
      · rintro ⟨q', hplace', hq'⟩
        rw [hplace] at hplace'
        rwa [Option.some.inj hplace']
    rw [List.forall_mem_cons, List.forall_mem_cons, hfirst, ih]

/-- What is placed is moved to the anchor last, so that an anchor off the range of doubles takes every
position along. -/
theorem Anchor.PlacesFinite.isFinite {a : Anchor} {p : Point} (h : a.PlacesFinite p) :
    Number.isFinite a.x = true ∧ Number.isFinite a.y = true := by
  obtain ⟨q, hplace, hx, hy⟩ := h
  unfold Anchor.place at hplace
  cases hturn : Rotation.ofDegrees a.angle with
  | error b =>
    rw [hturn] at hplace
    cases hplace
  | ok r =>
    rw [hturn] at hplace
    obtain rfl := Option.some.inj hplace
    exact ⟨(Number.isFinite_of_isFinite_add hx).2, (Number.isFinite_of_isFinite_add hy).2⟩

def Record.points : Record → List Point
  | segment s => [s.start, s.stop]
  | via v => [v.centre]

/-! ## What is drawn -/

namespace Route

/-- The positions at which commands draw, from the cursor on that the commands before them left:
both ends of every trace, and the centre of every via. -/
def drawnFrom (cursor : Option Point) : List Command → List Point
  | [] => []
  | .point target :: rest =>
    (match cursor with
      | none => []
      | some start => [start, target]) ++ drawnFrom (some target) rest
  | .via :: rest => cursor.toList ++ drawnFrom cursor rest
  | .penUp :: rest => drawnFrom none rest
  | .layer _ :: rest | .net _ :: rest => drawnFrom cursor rest

def positions (route : String) : List Point :=
  drawnFrom none ((scan route).tokens.map Token.command)

theorem mem_drawnFrom {p : Point} {cursor : Option Point} {commands : List Command}
    (h : p ∈ drawnFrom cursor commands) : cursor = some p ∨ .point p ∈ commands := by
  induction commands generalizing cursor with
  | nil => cases h
  | cons c rest ih =>
    rw [List.mem_cons]
    cases c with
    | point target =>
      have hmoved (h : p ∈ drawnFrom (some target) rest) :
          cursor = some p ∨ Command.point p = .point target ∨ .point p ∈ rest := by
        rcases ih h with h | h
        · exact .inr (.inl (by rw [Option.some.inj h]))
        · exact .inr (.inr h)
      rcases List.mem_append.1 h with h | h
      · cases cursor with
        | none => cases h
        | some start =>
          simp only [List.mem_cons, List.not_mem_nil, or_false] at h
          rcases h with rfl | rfl
          · exact .inl rfl
          · exact .inr (.inl rfl)
      · exact hmoved h
    | via =>
      rcases List.mem_append.1 h with h | h
      · exact .inl (by simpa using h)
      · exact (ih h).imp_right .inr
    | penUp =>
      rcases ih h with h | h
      · cases h
      · exact .inr (.inr h)
    | layer | net => exact (ih h).imp_right .inr

theorem isFinite_of_position? {cs : List Char} {p : Point} (h : position? cs = some p) :
    p.IsFinite := by
  obtain ⟨_, _, _, _, _, hx, hy⟩ := position?_eq_some_iff.1 h
  exact ⟨hx, hy⟩

/-- A route draws at finite positions only. -/
theorem isFinite_of_mem_positions {route : String} {p : Point} (h : p ∈ positions route) :
    p.IsFinite := by
  rcases mem_drawnFrom h with h | h
  · cases h
  · obtain ⟨token, htoken, hcommand⟩ := List.mem_map.1 h
    obtain ⟨_, _, _, hspells, _⟩ := exists_spelled 0 route.toList
    have hitem := hspells.exists_item htoken
    rw [hcommand] at hitem
    generalize token.text.toList = text at hitem
    cases hitem with
    | point _ hposition => exact isFinite_of_position? hposition

namespace Setup

variable {s : Setup} {route : String} {board after : Board}

theorem placed_of_segment {start stop : Point} {layer : Layer} {net : Net} {r : Record}
    (h : s.segment start stop layer net = .ok r) :
    List.Forall₂ (fun p q => s.anchor.place p = .ok q) [start, stop] r.points := by
  obtain ⟨p, hstart, h⟩ := bind_eq_ok h
  obtain ⟨q, hstop, h⟩ := bind_eq_ok h
  cases h
  exact .cons hstart (.cons hstop .nil)

theorem placed_of_via {centre : Point} {net : Net} {r : Record} (h : s.via centre net = .ok r) :
    List.Forall₂ (fun p q => s.anchor.place p = .ok q) [centre] r.points := by
  obtain ⟨p, hcentre, h⟩ := bind_eq_ok h
  cases h
  exact .cons hcentre .nil

/-- A step draws at the positions of its token, and the others are drawn from the cursor that it
leaves. -/
theorem placed_of_step {pen next : Pen} {token : Token} {drawn : Option Record}
    (h : (s.step route pen token).on board = (.ok (next, drawn), after)) (rest : List Command) :
    ∃ here, drawnFrom pen.cursor (token.command :: rest) = here ++ drawnFrom next.cursor rest ∧
      List.Forall₂ (fun p q => s.anchor.place p = .ok q) here
        (drawn.toList.flatMap Record.points) := by
  obtain ⟨position, text, command⟩ := token
  cases command with
  | layer l =>
    obtain ⟨hresult, -⟩ := on_pure_eq_ok h
    obtain ⟨rfl, rfl⟩ := Prod.mk.inj hresult
    exact ⟨[], rfl, .nil⟩
  | penUp =>
    obtain ⟨hresult, -⟩ := on_pure_eq_ok h
    obtain ⟨rfl, rfl⟩ := Prod.mk.inj hresult
    exact ⟨[], rfl, .nil⟩
  | point target =>
    simp only [step] at h
    split at h
    · next hcursor =>
      obtain ⟨hresult, -⟩ := on_pure_eq_ok h
      obtain ⟨rfl, rfl⟩ := Prod.mk.inj hresult
      exact ⟨[], by rw [hcursor]; rfl, .nil⟩
    · cases h
    · next cursor layer hcursor _ =>
      obtain ⟨r, between, hdrawn, hmove⟩ := on_bind_eq_ok h
      obtain ⟨hr, -⟩ := on_orBreak_eq_ok hdrawn
      obtain ⟨hresult, -⟩ := on_pure_eq_ok hmove
      obtain ⟨rfl, rfl⟩ := Prod.mk.inj hresult
      exact ⟨[cursor, target], by rw [hcursor]; rfl, by simpa using placed_of_segment hr⟩
  | via =>
    simp only [step] at h
    split at h
    · cases h
    · next cursor hcursor =>
      obtain ⟨r, between, hdrawn, hmove⟩ := on_bind_eq_ok h
      obtain ⟨hr, -⟩ := on_orBreak_eq_ok hdrawn
      obtain ⟨hresult, -⟩ := on_pure_eq_ok hmove
      obtain ⟨rfl, rfl⟩ := Prod.mk.inj hresult
      exact ⟨[cursor], by rw [hcursor]; rfl, by simpa using placed_of_via hr⟩
  | net name =>
    simp only [step] at h
    split at h
    · obtain ⟨answer, between, -, hswitch⟩ := on_bind_eq_ok h
      rw [on_bind_of_ok (on_log ..)] at hswitch
      obtain ⟨hresult, -⟩ := on_pure_eq_ok hswitch
      obtain ⟨rfl, rfl⟩ := Prod.mk.inj hresult
      exact ⟨[], rfl, .nil⟩
    · cases h

theorem placed_of_draw {pen : Pen} {tokens : List Token} {records : List Record}
    (h : (s.draw route pen tokens).on board = (.ok records, after)) :
    List.Forall₂ (fun p q => s.anchor.place p = .ok q)
      (drawnFrom pen.cursor (tokens.map Token.command)) (records.flatMap Record.points) := by
  induction tokens generalizing pen board records with
  | nil =>
    obtain ⟨rfl, -⟩ := on_pure_eq_ok h
    exact .nil
  | cons token tokens ih =>
    rw [draw] at h
    obtain ⟨⟨next, drawn⟩, between, hstep, hrest⟩ := on_bind_eq_ok h
    obtain ⟨later, after', hdraw, hrecords⟩ := on_bind_eq_ok hrest
    obtain ⟨rfl, rfl⟩ := on_pure_eq_ok hrecords
    obtain ⟨here, hdrawn, hplaced⟩ := placed_of_step hstep (tokens.map Token.command)
    rw [List.map_cons, hdrawn, List.flatMap_append]
    exact List.rel_append hplaced (ih hdraw)

theorem placed_of_run {net : Net} {records : List Record}
    (h : (s.run route net).on board = (.ok records, after)) :
    List.Forall₂ (fun p q => s.anchor.place p = .ok q) (positions route)
      (records.flatMap Record.points) := by
  unfold run at h
  obtain ⟨drawn, between, hdraw, hrest⟩ := on_bind_eq_ok h
  split at hrest
  · cases hrest
  · rw [on_bind_of_ok (on_log ..)] at hrest
    obtain ⟨rfl, -⟩ := on_pure_eq_ok hrest
    exact placed_of_draw hdraw

end Setup

end Route

namespace Footprint

/-- The positions at which the routes of a footprint draw. -/
def positions (f : Footprint) : List Point := f.allRoutes.flatMap Route.positions

variable {f : Footprint} {board after : Board}

theorem placed_of_runAll {s : Route.Setup} {net : Net} {routes : List String}
    {records : List Record} (h : (runAll s net routes).on board = (.ok records, after)) :
    List.Forall₂ (fun p q => s.anchor.place p = .ok q) (routes.flatMap Route.positions)
      (records.flatMap Record.points) := by
  induction routes generalizing board records with
  | nil =>
    obtain ⟨rfl, -⟩ := on_pure_eq_ok h
    exact .nil
  | cons route routes ih =>
    rw [runAll] at h
    obtain ⟨first, between, hrun, hrest⟩ := on_bind_eq_ok h
    obtain ⟨later, after', hruns, hrecords⟩ := on_bind_eq_ok hrest
    obtain ⟨rfl, rfl⟩ := on_pure_eq_ok hrecords
    rw [List.flatMap_cons, List.flatMap_append]
    exact List.rel_append (Route.Setup.placed_of_run hrun) (ih hruns)

/-- The points of the records of a footprint are its positions as the anchor places them. -/
theorem placed_of_records {anchor : Anchor} {globalNets : Bool} {records : List Record}
    (h : (f.records anchor globalNets).on board = (.ok records, after)) :
    List.Forall₂ (fun p q => anchor.place p = .ok q) f.positions
      (records.flatMap Record.points) :=
  placed_of_runAll (s := f.setup anchor globalNets) h

theorem chunks_of_recordsText {style : RecordStyle} {records : List Record} {text : String}
    (h : recordsText style records = .ok text) :
    ∃ chunks, records.mapM (fun r : Record => r.chunk style) = .ok chunks ∧
      String.join chunks = text := by
  obtain ⟨chunks, hchunks, h⟩ := bind_eq_ok h
  exact ⟨chunks, hchunks, Except.ok.inj h⟩

end Footprint

/-! ## What is written -/

def Contents.coordinates (c : Contents) : List String :=
  (c.fields.filter fun field => field.1 ∈ ["start", "end", "at"]).flatMap (·.2)

namespace Record

variable {r : Record} {style : RecordStyle} {places : Nat}

theorem isFinite_of_sizeText {x : Float} {text : String} (h : sizeText x = .ok text) :
    Number.isFinite x = true := by
  unfold sizeText at h
  split at h
  · next v hv =>
    unfold Number.isFinite
    rw [hv]
  · cases h
  · cases h

theorem isFinite_of_sizeField {name : String} {x : Float} {f : Field}
    (h : sizeField name x = .ok f) : Number.isFinite x = true := by
  unfold sizeField at h
  cases htext : sizeText x with
  | error b => rw [htext] at h; cases h
  | ok text => exact isFinite_of_sizeText htext

theorem isWritable_of_netField {net : Net} {f : Field} (h : netField net = .ok f) :
    Number.isWritable net.index = true := by
  by_contra hno
  rw [netField, if_neg hno] at h
  cases h

/-- Only a record with finite sizes and a net that can be written has an outline. -/
theorem fit_of_outline {o : Outline} (h : r.outline places = .ok o) :
    (∀ x ∈ r.sizes, Number.isFinite x = true) ∧ Number.isWritable r.net.index = true := by
  cases r with
  | segment s =>
    obtain ⟨width, hwidth, h⟩ := bind_eq_ok h
    obtain ⟨net, hnet, -⟩ := bind_eq_ok h
    refine ⟨?_, isWritable_of_netField hnet⟩
    simpa [sizes] using isFinite_of_sizeField hwidth
  | via v =>
    obtain ⟨size, hsize, h⟩ := bind_eq_ok h
    obtain ⟨drill, hdrill, h⟩ := bind_eq_ok h
    obtain ⟨net, hnet, -⟩ := bind_eq_ok h
    refine ⟨?_, isWritable_of_netField hnet⟩
    simpa [sizes] using ⟨isFinite_of_sizeField hsize, isFinite_of_sizeField hdrill⟩

theorem outline_of_chunk {text : String} (h : r.chunk style = .ok text) :
    ∃ places o, style.places = .ok places ∧ r.outline places = .ok o := by
  obtain ⟨node, hnode, -⟩ := bind_eq_ok h
  obtain ⟨places, hplaces, hnode⟩ := bind_eq_ok hnode
  obtain ⟨o, houtline, -⟩ := bind_eq_ok hnode
  exact ⟨places, o, hplaces, houtline⟩

theorem coordinates_of_contents {locked : Bool} {c : Contents}
    (h : r.contents places locked = .ok c) :
    c.coordinates = r.points.flatMap fun p => pointTexts p places := by
  cases r with
  | segment s =>
    obtain ⟨width, -, h⟩ := bind_eq_ok h
    obtain rfl := Except.ok.inj h
    simp [Contents.coordinates, points]
  | via v =>
    obtain ⟨size, -, h⟩ := bind_eq_ok h
    obtain ⟨drill, -, h⟩ := bind_eq_ok h
    obtain rfl := Except.ok.inj h
    simp [Contents.coordinates, points]

theorem isDecimal_pointTexts_iff {p : Point} :
    (∀ s ∈ pointTexts p places, IsDecimal s) ↔ p.IsFinite := by
  simp [pointTexts, Point.IsFinite, isDecimal_coordinateText_iff]

theorem isDecimal_coordinates_iff {locked : Bool} {c : Contents}
    (h : r.contents places locked = .ok c) :
    (∀ s ∈ c.coordinates, IsDecimal s) ↔ ∀ p ∈ r.points, p.IsFinite := by
  rw [coordinates_of_contents h]
  constructor
  · intro hs p hp
    exact isDecimal_pointTexts_iff.1 fun s hsp => hs s (List.mem_flatMap.2 ⟨p, hp, hsp⟩)
  · intro hp s hs
    obtain ⟨p, hmem, hsp⟩ := List.mem_flatMap.1 hs
    exact isDecimal_pointTexts_iff.2 (hp p hmem) s hsp

/-- A record that was written is read back as a node that tells decimal numerals exactly if all its
points are finite. -/
theorem exists_node_of_chunk {text : String} (h : r.chunk style = .ok text) :
    ∃ (node : Sexp) (c : Contents), Spells text.toList node.tokens ∧ node.contents? = some c ∧
      ((∀ s ∈ c.coordinates, IsDecimal s) ↔ ∀ p ∈ r.points, p.IsFinite) := by
  obtain ⟨places, o, hplaces, houtline⟩ := outline_of_chunk h
  obtain ⟨hsizes, hnet⟩ := fit_of_outline houtline
  obtain ⟨o, head, fields, houtline, htells, hcontents⟩ := exists_outline hsizes hnet places
  obtain ⟨text', htext, hspells⟩ := spells_chunk hplaces houtline htells
  obtain rfl := Except.ok.inj (h.symm.trans htext)
  exact ⟨_, _, hspells, htells.contents?_node _ _, isDecimal_coordinates_iff (hcontents style.locked)⟩

theorem exists_nodes_of_chunks {records : List Record} {chunks : List String}
    (h : records.mapM (fun r : Record => r.chunk style) = .ok chunks) :
    ∃ (nodes : List Sexp) (contents : List Contents),
      Spells (String.join chunks).toList (allTokens nodes) ∧ nodes.map contents? = contents.map some ∧
      ((∀ c ∈ contents, ∀ s ∈ c.coordinates, IsDecimal s) ↔
        ∀ p ∈ records.flatMap points, p.IsFinite) := by
  induction records generalizing chunks with
  | nil =>
    obtain rfl := Except.ok.inj h
    exact ⟨[], [], spells_nil, rfl, by simp⟩
  | cons r records ih =>
    rw [List.mapM_cons] at h
    obtain ⟨text, htext, h⟩ := bind_eq_ok h
    obtain ⟨chunks, hchunks, h⟩ := bind_eq_ok h
    obtain rfl := Except.ok.inj h
    obtain ⟨node, c, hspells, htells, hfirst⟩ := exists_node_of_chunk htext
    obtain ⟨nodes, contents, hlater, hrest, hall⟩ := ih hchunks
    refine ⟨node :: nodes, c :: contents, ?_, ?_, ?_⟩
    · simpa using hspells.append hlater
    · rw [List.map_cons, List.map_cons, htells, hrest]
    · rw [List.forall_mem_cons, hfirst, hall, List.flatMap_cons, List.forall_mem_append]

end Record

/-! ## Texts of placements -/

namespace Placement

variable {board after : Board} {globalNets : Bool} {text : String}

def PlacesFinite (instances : List Instance) : Prop :=
  ∀ i ∈ instances, ∀ p ∈ i.footprint.positions, i.anchor.PlacesFinite p

/-- What is rendered is read back, and tells decimal numerals exactly if all positions are placed on
finite points. -/
theorem exists_nodes_of_emitted {instances : List Instance} {records : List Record}
    (h : Emitted globalNets board instances records text after) :
    ∃ (nodes : List Sexp) (contents : List Contents), Spells text.toList (allTokens nodes) ∧
      nodes.map contents? = contents.map some ∧
      ((∀ c ∈ contents, ∀ s ∈ c.coordinates, Record.IsDecimal s) ↔ PlacesFinite instances) := by
  induction h with
  | nil board => exact ⟨[], [], spells_nil, rfl, by simp [PlacesFinite]⟩
  | @cons i instances records later text rest board between after hrecords htext _ ih =>
    have hplaced := Footprint.placed_of_records hrecords
    obtain ⟨chunks, hchunks, rfl⟩ := Footprint.chunks_of_recordsText htext
    obtain ⟨nodes, contents, hspells, htells, hfirst⟩ := Record.exists_nodes_of_chunks hchunks
    obtain ⟨nodes', contents', hspells', htells', hlater⟩ := ih
    rw [Anchor.placesFinite_iff hplaced] at hfirst
    refine ⟨nodes ++ nodes', contents ++ contents', ?_, ?_, ?_⟩
    · simpa using hspells.append hspells'
    · rw [List.map_append, List.map_append, htells, htells']
    · rw [List.forall_mem_append, hfirst, hlater]
      unfold PlacesFinite
      rw [List.forall_mem_cons]

instance (instances : List Instance) : Decidable (PlacesFinite instances) :=
  inferInstanceAs (Decidable (∀ i ∈ instances, ∀ p ∈ i.footprint.positions, _))

/-- The text of a placement, rendered on any board, is read as nodes that all tell what they hold. The
routes draw at finite positions only, and the coordinates in the text are decimal numerals without
exception exactly if the anchors put all these positions on finite points of the board. For that all
anchors at which something is drawn have to be finite themselves. -/
theorem coordinates_isDecimal_iff {placement : Placement}
    (h : (placement.render globalNets).on board = (.ok text, after)) :
    (∀ i ∈ placement.instances, ∀ p ∈ i.footprint.positions, p.IsFinite) ∧
    (PlacesFinite placement.instances → ∀ i ∈ placement.instances, i.footprint.positions ≠ [] →
      Number.isFinite i.anchor.x = true ∧ Number.isFinite i.anchor.y = true) ∧
    ∃ (nodes : List Sexp) (contents : List Contents),
      read text = some nodes ∧ nodes.map contents? = contents.map some ∧
      ((∀ c ∈ contents, ∀ s ∈ c.coordinates, Record.IsDecimal s) ↔
        PlacesFinite placement.instances) := by
  obtain ⟨records, hemitted⟩ := emitted_of_render_eq_ok h
  obtain ⟨nodes, contents, hspells, htells, hiff⟩ := exists_nodes_of_emitted hemitted
  refine ⟨fun i _ p hp => ?_, fun hplaces i hi hdraws => ?_, nodes, contents,
    read_of_spells hspells, htells, hiff⟩
  · obtain ⟨route, -, hdrawn⟩ := List.mem_flatMap.1 hp
    exact Route.isFinite_of_mem_positions hdrawn
  · obtain ⟨p, hp⟩ := List.exists_mem_of_ne_nil _ hdraws
    exact (hplaces i hi p hp).isFinite

/-- A footprint beside the origin of the board, with a coordinate below zero. -/
theorem coordinates_isDecimal_of_finite_anchor :
    let placement : Placement :=
      ⟨[⟨"diode", { x := 10, y := -2.5 }, { route := "f(0,0)(1.5,2)v" }⟩]⟩
    ∃ (text : String) (nodes : List Sexp) (contents : List Contents),
      ((placement.render true).on ⟨.empty true, []⟩).1 = .ok text ∧ read text = some nodes ∧
        nodes.map contents? = contents.map some ∧
        ∀ c ∈ contents, ∀ s ∈ c.coordinates, Record.IsDecimal s := by
  intro placement
  have hok : ((placement.render true).on ⟨.empty true, []⟩).1.toOption.isSome = true := by
    decide +kernel
  obtain ⟨text, after, hrender⟩ := on_eq_ok_of_isSome hok
  obtain ⟨-, -, nodes, contents, hread, htells, hiff⟩ := coordinates_isDecimal_iff hrender
  exact ⟨text, nodes, contents, by rw [hrender], hread, htells, hiff.2 (by decide +kernel)⟩

/-- An anchor past the range of doubles is accepted, and it is written. -/
theorem overflowing_anchor_written :
    let definition : Value := .table [(.text "at", .text "(at 1e999 0)"),
      (.text "params", .table [(.text "route", .text "f(0,0)v")])]
    let data : Value := .table [(.text "footprints", .table [(.text "diode", definition)])]
    ∃ (placement : Placement) (parsed : Board) (text : String) (after : Board)
      (nodes : List Sexp) (contents : List Contents),
      (ofValue data {} "board.yaml").on ⟨.empty true, []⟩ = (.ok placement, parsed) ∧
      (placement.render true).on parsed = (.ok text, after) ∧ read text = some nodes ∧
      nodes.map contents? = contents.map some ∧
      ¬∀ c ∈ contents, ∀ s ∈ c.coordinates, Record.IsDecimal s := by
  intro definition data
  have hok : ((ofValue data {} "board.yaml" >>= fun p => p.render true).on
      ⟨.empty true, []⟩).1.toOption.isSome = true := by decide +kernel
  have hplaces : (((ofValue data {} "board.yaml").on ⟨.empty true, []⟩).1.toOption.any
      fun p => decide (PlacesFinite p.instances)) = false := by decide +kernel
  obtain ⟨text, after, h⟩ := on_eq_ok_of_isSome hok
  obtain ⟨placement, parsed, hparse, hrender⟩ := on_bind_eq_ok h
  rw [hparse] at hplaces
  obtain ⟨records, hemitted⟩ := emitted_of_render_eq_ok hrender
  obtain ⟨nodes, contents, hspells, htells, hiff⟩ := exists_nodes_of_emitted hemitted
  refine ⟨placement, parsed, text, after, nodes, contents, hparse, hrender,
    read_of_spells hspells, htells, fun hall => ?_⟩
  have hplaces : decide (PlacesFinite placement.instances) = false := hplaces
  exact of_decide_eq_false hplaces (hiff.1 hall)

end Placement

end CopperRoute
