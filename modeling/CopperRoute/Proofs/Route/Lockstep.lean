import CopperRoute.Proofs.Session
import CopperRoute.Route.Run

/-!
# Runs in lockstep

A step reads the command of its token and the nets of the board; the route and the place of the
token only stand in what a refusal tells. So two lists of tokens with the same commands, followed
from the same pen on boards with the same nets, come to the same, or fail at tokens of the same
number.

    ReadsNets        one run on two boards with the same nets
    InStep           two outcomes: one result, or faults that correspond; the nets are the same
    step_inStep      one step
    draw_inStep      all tokens, with the number of the token that fails
-/

namespace CopperRoute.Route

open Session

/-! ## Runs read nets alone -/

namespace Setup

theorem readsNets_step (s : Setup) (route : String) (pen : Pen) (token : Token) :
    ReadsNets (s.step route pen token) := by
  obtain ⟨position, text, command⟩ := token
  cases command with
  | layer l => exact readsNets_pure _
  | penUp => exact readsNets_pure _
  | point target =>
    simp only [step]
    split
    · exact readsNets_pure _
    · exact readsNets_throw _
    · exact (readsNets_orBreak _).bind fun _ => readsNets_pure _
  | via =>
    simp only [step]
    split
    · exact readsNets_throw _
    · exact (readsNets_orBreak _).bind fun _ => readsNets_pure _
  | net name =>
    simp only [step]
    split
    · exact (readsNets_resolve name).bind fun _ => (readsNets_log _).bind fun _ => readsNets_pure _
    · exact readsNets_throw _

theorem readsNets_draw (s : Setup) (route : String) (pen : Pen) (tokens : List Token) :
    ReadsNets (s.draw route pen tokens) := by
  induction tokens generalizing pen with
  | nil => exact readsNets_pure _
  | cons token tokens ih =>
    rw [draw]
    exact (readsNets_step s route pen token).bind fun step =>
      (ih step.1).bind fun _ => readsNets_pure _

theorem readsNets_run (s : Setup) (route : String) (net : Net) : ReadsNets (s.run route net) := by
  unfold run
  refine (readsNets_draw s route _ _).bind fun records => ?_
  split
  · exact readsNets_throw _
  · exact (readsNets_log _).bind fun _ => readsNets_pure _

end Setup

/-! ## Outcomes in step -/

/-- Two faults of one cause. A fault of a route tells its own route and position, any other fault
tells neither. -/
inductive Corresponds (route : String) (position : Nat) (route' : String) (position' : Nat) :
    Fault → Fault → Prop
  | route {cause} : Corresponds route position route' position'
      (.route ⟨cause, some route, some position⟩) (.route ⟨cause, some route', some position'⟩)
  | other {fault} : (∀ f, fault ≠ .route f) → Corresponds route position route' position' fault fault

/-- Two outcomes on boards with the same nets: the same result, or faults as `related` tells. -/
inductive InStep {α : Type} (related : Fault → Fault → Prop) :
    Except Fault α × Board → Except Fault α × Board → Prop
  | ok {a after after'} : after.nets = after'.nets → InStep related (.ok a, after) (.ok a, after')
  | error {fault fault' after after'} : related fault fault' → after.nets = after'.nets →
      InStep related (.error fault, after) (.error fault', after')

section

variable {α β : Type} {related : Fault → Fault → Prop} {work work' : Session α}
  {next next' : α → Session β} {board board' : Board}

/-- Corresponding faults are of one kind. -/
theorem Corresponds.kind?_eq {route route' : String} {position position' : Nat}
    {fault fault' : Fault} (h : Corresponds route position route' position' fault fault') :
    fault.kind? = fault'.kind? := by
  cases h <;> rfl

theorem InStep.bind (h : InStep related (work.on board) (work'.on board'))
    (hnext : ∀ a after after', after.nets = after'.nets →
      InStep related ((next a).on after) ((next' a).on after')) :
    InStep related ((work >>= next).on board) ((work' >>= next').on board') := by
  generalize hwork : work.on board = outcome at h
  generalize hwork' : work'.on board' = outcome' at h
  cases h with
  | ok hnets =>
    rw [on_bind_of_ok hwork, on_bind_of_ok hwork']
    exact hnext _ _ _ hnets
  | error hfault hnets =>
    rw [on_bind_of_error hwork, on_bind_of_error hwork']
    exact .error hfault hnets

/-- Outcomes with one and the same fault come to the same. -/
theorem InStep.eq {outcome outcome' : Except Fault α × Board} (h : InStep Eq outcome outcome') :
    outcome.1 = outcome'.1 ∧ outcome.2.nets = outcome'.2.nets := by
  cases h with
  | ok hnets => exact ⟨rfl, hnets⟩
  | error hfault hnets => exact ⟨congrArg Except.error hfault, hnets⟩

theorem InStep.symm {outcome outcome' : Except Fault α × Board} (h : InStep Eq outcome outcome') :
    InStep Eq outcome' outcome := by
  cases h with
  | ok hnets => exact .ok hnets.symm
  | error hfault hnets => exact .error hfault.symm hnets.symm

theorem InStep.trans {outcome between outcome' : Except Fault α × Board}
    (h : InStep Eq outcome between) (h' : InStep Eq between outcome') : InStep Eq outcome outcome' := by
  cases h with
  | ok hnets => cases h' with | ok hnets' => exact .ok (hnets.trans hnets')
  | error hfault hnets =>
    cases h' with
    | error hfault' hnets' => exact .error (hfault.trans hfault') (hnets.trans hnets')

theorem InStep.exists_ok {a : α} {after : Board} {outcome : Except Fault α × Board}
    (h : InStep related (.ok a, after) outcome) :
    ∃ after', outcome = (.ok a, after') ∧ after.nets = after'.nets := by
  cases h with
  | ok hnets => exact ⟨_, rfl, hnets⟩

theorem InStep.exists_error {fault : Fault} {after : Board} {outcome : Except Fault α × Board}
    (h : InStep Eq (.error fault, after) outcome) :
    ∃ after', outcome = (.error fault, after') ∧ after.nets = after'.nets := by
  cases h with
  | error hfault hnets => exact ⟨_, by rw [hfault], hnets⟩

/-- Work that reads the nets only is in step with itself. -/
theorem InStep.of_readsNets (h : ReadsNets work) (hnets : board.nets = board'.nets)
    (hfault : ∀ fault, (work.on board).1 = .error fault → related fault fault) :
    InStep related (work.on board) (work.on board') := by
  obtain ⟨hresult, hafter⟩ := h board board' hnets
  rcases hwork : work.on board with ⟨result, after⟩
  rcases hwork' : work.on board' with ⟨result', after'⟩
  rw [hwork] at hresult hafter hfault
  rw [hwork'] at hresult hafter
  obtain rfl : result = result' := hresult
  cases result with
  | ok a => exact .ok hafter
  | error fault => exact .error (hfault fault rfl) hafter

end

/-! ## One step -/

variable {s : Setup} {route route' : String} {pen : Pen} {token token' : Token}
  {tokens tokens' : List Token} {board board' : Board} {position position' : Nat}

theorem orBreak_inStep {α : Type} (x : Except Breakdown α) (hnets : board.nets = board'.nets) :
    InStep (Corresponds route position route' position') ((orBreak x).on board)
      ((orBreak x).on board') := by
  refine .of_readsNets (readsNets_orBreak x) hnets fun fault hfault => .other fun f hf => ?_
  subst hf
  cases x <;> cases hfault

theorem resolve_inStep (name : String) (hnets : board.nets = board'.nets) :
    InStep (Corresponds route position route' position') ((resolve name).on board)
      ((resolve name).on board') := by
  refine .of_readsNets (readsNets_resolve name) hnets fun fault hfault => .other fun f hf => ?_
  subst hf
  by_cases hanswer : board.nets.allocate = true ∨ (board.nets.find? name).isSome
  · obtain ⟨after, hon, -⟩ := on_resolve_ok (NetTable.resolve_eq_ok hanswer)
    rw [hon] at hfault
    cases hfault
  · obtain ⟨hclosed, hnone⟩ := not_or.1 hanswer
    have herror := NetTable.resolve_eq_error (by simpa using hclosed) (by simpa using hnone)
    rw [on_resolve_error herror] at hfault
    cases hfault

/-- A step does the same at tokens with one command, wherever they stand in their routes. -/
theorem Setup.step_inStep (s : Setup) (pen : Pen) (hcommand : token.command = token'.command)
    (hnets : board.nets = board'.nets) :
    InStep (Corresponds route token.position route' token'.position)
      ((s.step route pen token).on board) ((s.step route' pen token').on board') := by
  obtain ⟨position, text, command⟩ := token
  obtain ⟨position', text', command'⟩ := token'
  obtain rfl : command = command' := hcommand
  cases command with
  | layer layer => exact .ok hnets
  | penUp => exact .ok hnets
  | point target =>
    simp only [step]
    cases pen.cursor with
    | none => exact .ok hnets
    | some cursor =>
      cases pen.layer with
      | none => exact .error .route hnets
      | some layer =>
        exact (orBreak_inStep _ hnets).bind fun _ _ _ hafter => .ok hafter
  | via =>
    simp only [step]
    cases pen.cursor with
    | none => exact .error .route hnets
    | some cursor => exact (orBreak_inStep _ hnets).bind fun _ _ _ hafter => .ok hafter
  | net name =>
    simp only [step]
    by_cases hglobal : s.globalNets = true
    · rw [if_pos hglobal, if_pos hglobal]
      exact (resolve_inStep name hnets).bind fun _ _ _ hafter => .ok hafter
    · rw [if_neg hglobal, if_neg hglobal]
      exact .error .route hnets

/-! ## Following tokens -/

/-- Followed from `pen` on `board`, `tokens` fail at the token number `i`, counted from 0: the steps
before it succeed, and its own ends with `fault` and leaves the board `after`. -/
inductive FailsAt (s : Setup) (route : String) :
    Pen → Board → List Token → Nat → Fault → Board → Prop
  | here {pen board token rest fault after} :
      (s.step route pen token).on board = (.error fault, after) →
      FailsAt s route pen board (token :: rest) 0 fault after
  | later {pen board token rest pen' record between i fault after} :
      (s.step route pen token).on board = (.ok (pen', record), between) →
      FailsAt s route pen' between rest i fault after →
      FailsAt s route pen board (token :: rest) (i + 1) fault after

/-- To fail at a token is to fail. -/
theorem FailsAt.draw_eq {i : Nat} {fault : Fault} {after : Board}
    (h : FailsAt s route pen board tokens i fault after) :
    (s.draw route pen tokens).on board = (.error fault, after) := by
  induction h with
  | here hstep => exact on_bind_of_error hstep
  | later hstep _ ih =>
    rw [Setup.draw, on_bind_of_ok hstep]
    exact on_bind_of_error ih

/-- Tokens with the same commands draw the same, or fail at the same number. The induction is on the
tokens of one list; the boards stay in step, with different logs. -/
theorem Setup.draw_inStep (s : Setup) (route route' : String) (pen : Pen)
    (hcommands : tokens.map Token.command = tokens'.map Token.command)
    (hnets : board.nets = board'.nets) :
    (∃ records after after', (s.draw route pen tokens).on board = (.ok records, after) ∧
      (s.draw route' pen tokens').on board' = (.ok records, after') ∧ after.nets = after'.nets) ∨
    ∃ i token token' fault fault' after after',
      tokens[i]? = some token ∧ tokens'[i]? = some token' ∧
      FailsAt s route pen board tokens i fault after ∧
      FailsAt s route' pen board' tokens' i fault' after' ∧
      Corresponds route token.position route' token'.position fault fault' ∧
      after.nets = after'.nets := by
  induction tokens generalizing tokens' pen board board' with
  | nil =>
    obtain rfl : tokens' = [] := List.map_eq_nil_iff.1 hcommands.symm
    exact .inl ⟨[], board, board', rfl, rfl, hnets⟩
  | cons token tokens ih =>
    obtain ⟨token', rest', rfl, hcommand, hrest⟩ := List.map_eq_cons_iff.1 hcommands.symm
    have hstep : InStep (Corresponds route token.position route' token'.position) _ _ :=
      s.step_inStep pen hcommand.symm hnets
    generalize hon : (s.step route pen token).on board = outcome at hstep
    generalize hon' : (s.step route' pen token').on board' = outcome' at hstep
    cases hstep with
    | error hfault hafter =>
      exact .inr ⟨0, token, token', _, _, _, _, rfl, rfl, .here hon, .here hon', hfault, hafter⟩
    | @ok moved between between' hbetween =>
      obtain ⟨pen', record⟩ := moved
      rcases ih pen' hrest.symm hbetween with ⟨records, after, after', hdraw, hdraw', hafter⟩ |
        ⟨i, failing, failing', fault, fault', after, after', hat, hat', hfails, hfails', hfault,
          hafter⟩
      · refine .inl ⟨record.toList ++ records, after, after', ?_, ?_, hafter⟩
        · rw [draw, on_bind_of_ok hon]
          exact on_bind_of_ok hdraw
        · rw [draw, on_bind_of_ok hon']
          exact on_bind_of_ok hdraw'
      · exact .inr ⟨i + 1, failing, failing', fault, fault', after, after', hat, hat',
          .later hon hfails, .later hon' hfails', hfault, hafter⟩

end CopperRoute.Route
