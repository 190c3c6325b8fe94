import CopperRoute.Proofs.Footprint.Safety

/-!
# Routes at an infinite angle

An anchor with an infinite angle puts no position on the board. A command that draws nothing does not
ask for one, so that a route is followed there as at any other angle up to the first mark:

    tokens    accepted, and none draws    the first that draws
    run       as without an angle         breaks down

Main statement (`run_on_cases`): a run breaks down exactly if the angle is infinite and some token
draws before any is refused (`Lost`). If it fails in another way, it is the fault of the route.
-/

namespace CopperRoute.Route

open Session

/-- Behind the commands in `before` one of the tokens draws, and none of those in front of it is
refused. -/
def DrawsBehind (globalNets : Bool) (t : NetTable) (net : Net) (route : String)
    (before : List Command) (tokens : List Token) : Prop :=
  ∃ earlier token later, tokens = earlier ++ token :: later ∧
    Accepted globalNets t route before earlier ∧
    (stroke? t net (before ++ earlier.map Token.command) token.command).isSome = true

/-- The route draws something before any of its tokens is refused. -/
def Draws (globalNets : Bool) (t : NetTable) (net : Net) (route : String) : Prop :=
  DrawsBehind globalNets t net route [] (scan route).tokens

section

variable {globalNets : Bool} {t : NetTable} {net : Net} {route : String} {before : List Command}
  {token : Token} {tokens : List Token}

theorem not_drawsBehind_nil : ¬DrawsBehind globalNets t net route before [] := by
  rintro ⟨earlier, token, later, htokens, -⟩
  simp at htokens

theorem drawsBehind_of_stroke (tokens : List Token)
    (h : (stroke? t net before token.command).isSome = true) :
    DrawsBehind globalNets t net route before (token :: tokens) := by
  refine ⟨[], token, tokens, rfl, accepted_nil globalNets t route before, ?_⟩
  rwa [List.map_nil, List.append_nil]

theorem not_drawsBehind_of_refused {fault : Fault}
    (hrefused : Refused globalNets t route before token fault)
    (hnone : stroke? t net before token.command = none) :
    ¬DrawsBehind globalNets t net route before (token :: tokens) := by
  rintro ⟨earlier, other, later, htokens, haccepted, hstroke⟩
  cases earlier with
  | nil =>
    obtain ⟨rfl, -⟩ := List.cons.inj htokens
    rw [List.map_nil, List.append_nil, hnone] at hstroke
    cases hstroke
  | cons first earlier =>
    obtain ⟨rfl, -⟩ := List.cons.inj htokens
    have hfirst := haccepted [] token earlier fault rfl
    rw [List.map_nil, List.append_nil] at hfirst
    exact hfirst hrefused

/-- A token that passes and draws nothing leaves it to the others. -/
theorem drawsBehind_cons_iff (hpasses : ∀ fault, ¬Refused globalNets t route before token fault)
    (hnone : stroke? t net before token.command = none) :
    DrawsBehind globalNets t net route before (token :: tokens) ↔
      DrawsBehind globalNets t net route (before ++ [token.command]) tokens := by
  constructor
  · rintro ⟨earlier, other, later, htokens, haccepted, hstroke⟩
    cases earlier with
    | nil =>
      obtain ⟨rfl, -⟩ := List.cons.inj htokens
      rw [List.map_nil, List.append_nil, hnone] at hstroke
      cases hstroke
    | cons first earlier =>
      obtain ⟨rfl, hrest⟩ := List.cons.inj htokens
      refine ⟨earlier, other, later, hrest, ?_, by simpa using hstroke⟩
      intro sooner third between fault hearlier
      have hthird := haccepted (token :: sooner) third between fault (by rw [hearlier]; rfl)
      simpa using hthird
  · rintro ⟨earlier, other, later, rfl, haccepted, hstroke⟩
    exact ⟨token :: earlier, other, later, rfl, haccepted.cons hpasses, by simpa using hstroke⟩

end

namespace Setup

variable {s : Setup} {b : Breakdown} {t : NetTable} {net : Net} {route : String}
  {before : List Command} {board after : Board} {fault : Fault}

/-- The set-up at an anchor that nothing is turned at. -/
def unturned (s : Setup) : Setup := { s with anchor := {} }

theorem exists_turn_unturned (s : Setup) :
    ∃ turn, Rotation.ofDegrees s.unturned.anchor.angle = .ok turn := by
  have hfinite : Number.isFinite 0 = true := by decide +kernel
  exact exists_turn hfinite

/-! ## Steps -/

/-- A step that draws nothing does not look at the anchor. -/
theorem step_unturned {token : Token} (h : stroke? t net before token.command = none) :
    s.step route (penAfter t net before) token =
      s.unturned.step route (penAfter t net before) token := by
  obtain ⟨position, text, command⟩ := token
  cases command with
  | point target =>
    simp only [stroke?] at h
    simp only [step, penAfter]
    cases hcursor : cursorAfter before with
    | none => rfl
    | some start =>
      cases hlayer : layerAfter before with
      | none => rfl
      | some layer => simp [hcursor, hlayer] at h
  | via =>
    simp only [stroke?] at h
    simp only [step, penAfter]
    cases hcursor : cursorAfter before with
    | none => rfl
    | some centre => simp [hcursor] at h
  | _ => rfl

/-- A step that draws breaks down where nothing can be turned. -/
theorem step_on_of_no_turn (hturn : Rotation.ofDegrees s.anchor.angle = .error b) (route : String)
    {token : Token} (h : (stroke? t net before token.command).isSome = true) (board : Board) :
    (s.step route (penAfter t net before) token).on board = (.error (.breakdown b), board) := by
  obtain ⟨position, text, command⟩ := token
  have hplace (p : Point) : s.anchor.place p = .error b := by
    rw [Anchor.place, hturn]
    rfl
  cases command with
  | point target =>
    simp only [stroke?] at h
    simp only [step, penAfter]
    cases hcursor : cursorAfter before with
    | none => simp [hcursor] at h
    | some start =>
      cases hlayer : layerAfter before with
      | none => simp [hcursor, hlayer] at h
      | some layer =>
        dsimp only
        rw [segment, hplace]
        rfl
  | via =>
    simp only [stroke?] at h
    simp only [step, penAfter]
    cases hcursor : cursorAfter before with
    | none => simp [hcursor] at h
    | some centre =>
      dsimp only
      rw [via, hplace]
      rfl
  | _ => cases h

/-! ## Whole routes -/

/-- Where nothing can be turned, tokens are followed up to the first that draws. The induction is on
the tokens; the pen, the board and the calls are those of the commands before. -/
theorem draw_on_of_no_turn (hturn : Rotation.ofDegrees s.anchor.angle = .error b) (net : Net)
    (route : String) (tokens : List Token) (hboard : board.nets = tableAfter t before)
    (hcalled : Called t before) :
    (DrawsBehind s.globalNets t net route before tokens ∧
      ∃ after, (s.draw route (penAfter t net before) tokens).on board =
        (.error (.breakdown b), after)) ∨
    ¬DrawsBehind s.globalNets t net route before tokens ∧
      (s.draw route (penAfter t net before) tokens).on board =
        (s.unturned.draw route (penAfter t net before) tokens).on board := by
  induction tokens generalizing before board with
  | nil => exact .inr ⟨not_drawsBehind_nil, rfl⟩
  | cons token tokens ih =>
    rw [draw, draw]
    cases hstroke : stroke? t net before token.command with
    | some stroke =>
      have hsome : (stroke? t net before token.command).isSome = true := by rw [hstroke]; rfl
      have hstep := step_on_of_no_turn hturn route hsome board
      exact .inl ⟨drawsBehind_of_stroke tokens hsome, board, on_bind_of_error hstep⟩
    | none =>
      obtain ⟨turn, hunturned⟩ := s.exists_turn_unturned
      rw [step_unturned hstroke]
      rcases step_on hunturned net route token hboard hcalled with
        ⟨fault, hrefused, hstep⟩ | ⟨hpasses, hcalled', between, hstep, hbetween⟩
      · refine .inr ⟨not_drawsBehind_of_refused hrefused hstroke, ?_⟩
        rw [on_bind_of_error hstep, on_bind_of_error hstep]
      · have hpasses : ∀ fault, ¬Refused s.globalNets t route before token fault := hpasses
        rw [drawsBehind_cons_iff hpasses hstroke, on_bind_of_ok hstep, on_bind_of_ok hstep]
        rcases ih hbetween hcalled' with ⟨hdraws, after, hdraw⟩ | ⟨hnot, hdraw⟩
        · exact .inl ⟨hdraws, after, on_bind_of_error hdraw⟩
        · refine .inr ⟨hnot, ?_⟩
          dsimp only
          rcases hlater : (s.unturned.draw route (penAfter t net (before ++ [token.command]))
            tokens).on between with ⟨fault | later, after⟩
          · rw [hlater] at hdraw
            rw [on_bind_of_error hdraw, on_bind_of_error hlater]
          · rw [hlater] at hdraw
            rw [on_bind_of_ok hdraw, on_bind_of_ok hlater]

theorem run_on_of_no_turn (hturn : Rotation.ofDegrees s.anchor.angle = .error b) (route : String)
    (net : Net) (board : Board) :
    (Draws s.globalNets board.nets net route ∧
      ∃ after, (s.run route net).on board = (.error (.breakdown b), after)) ∨
    ¬Draws s.globalNets board.nets net route ∧
      (s.run route net).on board = (s.unturned.run route net).on board := by
  have hcalled : Called board.nets [] := fun _ => rfl
  have hdraw := draw_on_of_no_turn hturn net route (scan route).tokens rfl hcalled
  -- the pen that a run starts with is the one behind no commands
  have hpen : penAfter board.nets net [] = { net := net } := rfl
  rw [hpen] at hdraw
  unfold run
  dsimp only
  rcases hdraw with ⟨hdraws, after, hdraw⟩ | ⟨hnot, hdraw⟩
  · exact .inl ⟨hdraws, after, on_bind_of_error hdraw⟩
  · refine .inr ⟨hnot, ?_⟩
    rcases hrecords : (s.unturned.draw route { net := net } (scan route).tokens).on board with
      ⟨fault | records, after⟩
    · rw [hrecords] at hdraw
      rw [on_bind_of_error hdraw, on_bind_of_error hrecords]
    · rw [hrecords] at hdraw
      rw [on_bind_of_ok hdraw, on_bind_of_ok hrecords]

/-- The route draws something, at an infinite angle. -/
def Lost (s : Setup) (t : NetTable) (net : Net) (route : String) : Prop :=
  (∃ negative, Number.exact s.anchor.angle = .infinite negative) ∧ Draws s.globalNets t net route

/-- There is no turn by an infinite angle, and by no other angle is there none. -/
theorem ofDegrees_eq_error_iff {angle : Float} :
    (∃ b, Rotation.ofDegrees angle = .error b) ↔
      ∃ negative, Number.exact angle = .infinite negative := by
  unfold Rotation.ofDegrees
  constructor
  · rintro ⟨b, h⟩
    split at h
    · cases h
    · split at h
      · next negative hexact => exact ⟨negative, hexact⟩
      · cases h
  · rintro ⟨negative, hexact⟩
    have hzero : ¬(angle == 0) = true := by
      intro hzero
      have hfinite := Number.isFinite_of_beq_zero hzero
      rw [Number.isFinite, hexact] at hfinite
      cases hfinite
    rw [if_neg hzero, hexact]
    exact ⟨_, rfl⟩

/-- A run that fails breaks down if the route is lost, and ends with a fault of the route if not. -/
theorem run_on_cases (s : Setup) (route : String) (net : Net) (board : Board) :
    (s.Lost board.nets net route ∧
      ∃ b after, (s.run route net).on board = (.error (.breakdown b), after)) ∨
    ¬s.Lost board.nets net route ∧
      ∀ fault after, (s.run route net).on board = (.error fault, after) → fault.OfRoute := by
  by_cases hangle : ∃ negative, Number.exact s.anchor.angle = .infinite negative
  · obtain ⟨b, hturn⟩ := ofDegrees_eq_error_iff.2 hangle
    rcases run_on_of_no_turn hturn route net board with ⟨hdraws, after, hrun⟩ | ⟨hnot, hrun⟩
    · exact .inl ⟨⟨hangle, hdraws⟩, b, after, hrun⟩
    · refine .inr ⟨fun hlost => hnot hlost.2, fun fault after h => ?_⟩
      have hunturned : ∀ negative, Number.exact s.unturned.anchor.angle ≠ .infinite negative := by
        have hfinite : ∀ negative, Number.exact 0 ≠ .infinite negative := by decide +kernel
        exact hfinite
      rw [hrun] at h
      exact ofRoute_of_run hunturned h
  · have hangle' := not_exists.1 hangle
    exact .inr ⟨fun hlost => hangle hlost.1, fun fault after h => ofRoute_of_run hangle' h⟩

end Setup

end CopperRoute.Route
