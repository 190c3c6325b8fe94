import CopperRoute.Proofs.Record.Reading

/-!
# The records of a footprint

A run hands out nothing but what its set-up draws, so that every record has the sizes of the
footprint, whatever the route and the board (`drawn_of_records`). With finite sizes, a number of
decimals within the limit and indices short enough to be written, no record is refused a text
(`recordsText_of_fit`).
-/

namespace CopperRoute

open Session

/-! ## What a set-up draws -/

namespace Route.Setup

/-- A record that the set-up draws: a segment, or a via. -/
inductive Drawn (s : Setup) (r : Record) : Prop
  | segment {start stop layer net} : s.segment start stop layer net = .ok r → Drawn s r
  | via {centre net} : s.via centre net = .ok r → Drawn s r

variable {s : Setup} {r : Record} {route : String} {board after : Board}

/-- What is drawn has the sizes of the set-up. -/
theorem Drawn.sizes (h : s.Drawn r) : ∀ x ∈ r.sizes, x ∈ [s.width, s.viaSize, s.viaDrill] := by
  cases h with
  | @segment start stop layer net h =>
    unfold Setup.segment at h
    cases hstart : s.anchor.place start with
    | error b => rw [hstart] at h; cases h
    | ok p =>
      cases hstop : s.anchor.place stop with
      | error b => rw [hstart, hstop] at h; cases h
      | ok q =>
        rw [hstart, hstop] at h
        cases h
        simp [Record.sizes]
  | @via centre net h =>
    unfold Setup.via at h
    cases hcentre : s.anchor.place centre with
    | error b => rw [hcentre] at h; cases h
    | ok p =>
      rw [hcentre] at h
      cases h
      simp [Record.sizes]

theorem drawn_of_step {pen next : Pen} {token : Token} {drawn : Option Record}
    (h : (s.step route pen token).on board = (.ok (next, drawn), after)) :
    ∀ r ∈ drawn, s.Drawn r := by
  obtain ⟨position, text, command⟩ := token
  intro r hr
  obtain rfl := Option.mem_def.1 hr
  cases command with
  | layer l => cases on_pure_eq_ok h with | intro h _ => cases h
  | penUp => cases on_pure_eq_ok h with | intro h _ => cases h
  | point target =>
    simp only [step] at h
    split at h
    · cases on_pure_eq_ok h with | intro h _ => cases h
    · cases h
    · obtain ⟨r', between, hdrawn, hmove⟩ := on_bind_eq_ok h
      obtain ⟨hr', -⟩ := on_orBreak_eq_ok hdrawn
      obtain ⟨hresult, -⟩ := on_pure_eq_ok hmove
      obtain ⟨-, hsame⟩ := Prod.mk.inj hresult
      obtain rfl := Option.some.inj hsame
      exact .segment hr'
  | via =>
    simp only [step] at h
    split at h
    · cases h
    · obtain ⟨r', between, hdrawn, hmove⟩ := on_bind_eq_ok h
      obtain ⟨hr', -⟩ := on_orBreak_eq_ok hdrawn
      obtain ⟨hresult, -⟩ := on_pure_eq_ok hmove
      obtain ⟨-, hsame⟩ := Prod.mk.inj hresult
      obtain rfl := Option.some.inj hsame
      exact .via hr'
  | net name =>
    simp only [step] at h
    split at h
    · obtain ⟨answer, between, -, hswitch⟩ := on_bind_eq_ok h
      rw [on_bind_of_ok (on_log ..)] at hswitch
      cases on_pure_eq_ok hswitch with | intro h _ => cases h
    · cases h

theorem drawn_of_draw {pen : Pen} {tokens : List Token} {records : List Record}
    (h : (s.draw route pen tokens).on board = (.ok records, after)) :
    ∀ r ∈ records, s.Drawn r := by
  induction tokens generalizing pen board records with
  | nil =>
    obtain ⟨rfl, -⟩ := on_pure_eq_ok h
    simp
  | cons token tokens ih =>
    rw [draw] at h
    obtain ⟨⟨next, drawn⟩, between, hstep, hrest⟩ := on_bind_eq_ok h
    obtain ⟨later, after', hdraw, hrecords⟩ := on_bind_eq_ok hrest
    obtain ⟨rfl, rfl⟩ := on_pure_eq_ok hrecords
    intro r hr
    rcases List.mem_append.1 hr with hr | hr
    · exact drawn_of_step hstep r (by simpa using hr)
    · exact ih hdraw r hr

theorem drawn_of_run {net : Net} {records : List Record}
    (h : (s.run route net).on board = (.ok records, after)) : ∀ r ∈ records, s.Drawn r := by
  unfold run at h
  obtain ⟨drawn, between, hdraw, hrest⟩ := on_bind_eq_ok h
  split at hrest
  · cases hrest
  · rw [on_bind_of_ok (on_log ..)] at hrest
    obtain ⟨rfl, -⟩ := on_pure_eq_ok hrest
    exact drawn_of_draw hdraw

end Route.Setup

namespace Footprint

variable {f : Footprint} {board after : Board}

theorem drawn_of_runAll {s : Route.Setup} {net : Net} {routes : List String} {records : List Record}
    (h : (runAll s net routes).on board = (.ok records, after)) : ∀ r ∈ records, s.Drawn r := by
  induction routes generalizing board records with
  | nil =>
    obtain ⟨rfl, -⟩ := on_pure_eq_ok h
    simp
  | cons route routes ih =>
    rw [runAll] at h
    obtain ⟨first, between, hrun, hrest⟩ := on_bind_eq_ok h
    obtain ⟨later, after', hruns, hrecords⟩ := on_bind_eq_ok hrest
    obtain ⟨rfl, rfl⟩ := on_pure_eq_ok hrecords
    exact List.forall_mem_append.2 ⟨Route.Setup.drawn_of_run hrun, ih hruns⟩

theorem drawn_of_records {anchor : Anchor} {globalNets : Bool} {records : List Record}
    (h : (f.records anchor globalNets).on board = (.ok records, after)) :
    ∀ r ∈ records, (f.setup anchor globalNets).Drawn r :=
  drawn_of_runAll h

/-! ## Their text -/

/-- The sizes of a footprint are positive and finite, and a number of decimals is not negative. -/
structure Sound (f : Footprint) : Prop where
  width : Number.isFinite f.width = true ∧ 0 < f.width
  viaSize : Number.isFinite f.viaSize = true ∧ 0 < f.viaSize
  viaDrill : Number.isFinite f.viaDrill = true ∧ 0 < f.viaDrill
  precision : ∀ p ∈ f.precision, 0 ≤ p

/-- The numbers that a footprint would have written on a board are within the limits of writing: the
decimals that it asks for, and the index of every net that one of its records is on. -/
structure Writable (f : Footprint) (anchor : Anchor) (globalNets : Bool) (board : Board) :
    Prop where
  precision : ∀ p ∈ f.precision, p ≤ Record.placesLimit
  indices : ∀ records ∈ ((f.records anchor globalNets).on board).1.toOption, ∀ r ∈ records,
    Number.isWritable r.net.index = true

/-- The records of a sound footprint all have a text. -/
theorem chunks_of_sound {anchor : Anchor} {globalNets : Bool} {records : List Record}
    (hsound : f.Sound) (hwritable : f.Writable anchor globalNets board)
    (h : (f.records anchor globalNets).on board = (.ok records, after)) :
    ∃ chunks, records.mapM (fun r => r.chunk f.style) = .ok chunks ∧
      recordsText f.style records = .ok (String.join chunks) := by
  have hsizes : ∀ r ∈ records, ∀ x ∈ r.sizes, Number.isFinite x = true := by
    intro r hr x hx
    have hx := (drawn_of_records h r hr).sizes x hx
    simp only [List.mem_cons, List.not_mem_nil, or_false] at hx
    rcases hx with rfl | rfl | rfl
    · exact hsound.width.1
    · exact hsound.viaSize.1
    · exact hsound.viaDrill.1
  rcases Record.places_cases f.style hsound.precision with hplaces | ⟨⟨p, hp, hlimit⟩, -⟩
  · obtain ⟨-, chunks, -, -, hchunks, -⟩ :=
      Record.exists_chunks hplaces hsizes (hwritable.indices records (by rw [h]; rfl))
    refine ⟨chunks, hchunks, ?_⟩
    rw [recordsText, hchunks]
    rfl
  · have hle := hwritable.precision p hp
    omega

end Footprint

end CopperRoute
