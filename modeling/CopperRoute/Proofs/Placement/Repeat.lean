import CopperRoute.Placement
import CopperRoute.Proofs.Session

/-!
# Rendering again

Rendering enters the names that the routes call, and it may stop half way. A second rendering starts
on the board that the first one left, on which every name that was answered is known. So it takes
the same way: each step of it is work that can be done again (`Repeats`), from one token up to all
footprints, and so is each step in which a footprint is built. Main statement (`render_again`): the
second rendering comes to the same text or the same fault, and the nets stay as the first one left
them.
-/

namespace CopperRoute

open Session

namespace Route.Setup

theorem repeats_step (s : Setup) (route : String) (pen : Pen) (token : Token) :
    Repeats (s.step route pen token) := by
  obtain ⟨position, text, command⟩ := token
  cases command with
  | layer l => exact repeats_pure _
  | penUp => exact repeats_pure _
  | point target =>
    simp only [step]
    split
    · exact repeats_pure _
    · exact repeats_throw _
    · exact (repeats_orBreak _).bind fun _ => repeats_pure _
  | via =>
    simp only [step]
    split
    · exact repeats_throw _
    · exact (repeats_orBreak _).bind fun _ => repeats_pure _
  | net name =>
    simp only [step]
    split
    · exact (repeats_resolve name).bind fun _ => (repeats_log _).bind fun _ => repeats_pure _
    · exact repeats_throw _

theorem repeats_draw (s : Setup) (route : String) (pen : Pen) (tokens : List Token) :
    Repeats (s.draw route pen tokens) := by
  induction tokens generalizing pen with
  | nil => exact repeats_pure _
  | cons token tokens ih =>
    rw [draw]
    exact (repeats_step s route pen token).bind fun step =>
      (ih step.1).bind fun _ => repeats_pure _

theorem repeats_run (s : Setup) (route : String) (net : Net) : Repeats (s.run route net) := by
  unfold run
  refine (repeats_draw s route _ _).bind fun records => ?_
  split
  · exact repeats_throw _
  · exact (repeats_log _).bind fun _ => repeats_pure _

end Route.Setup

namespace Footprint

theorem repeats_runAll (s : Route.Setup) (net : Net) (routes : List String) :
    Repeats (runAll s net routes) := by
  induction routes with
  | nil => exact repeats_pure _
  | cons route routes ih =>
    rw [runAll]
    exact (Route.Setup.repeats_run s route net).bind fun _ => ih.bind fun _ => repeats_pure _

theorem repeats_render (f : Footprint) (anchor : Anchor) (globalNets : Bool) :
    Repeats (f.render anchor globalNets) := by
  unfold render
  exact (repeats_runAll _ _ _).bind fun _ => (repeats_log _).bind fun _ => repeats_orBreak _

theorem repeats_netOf (v : Value) : Repeats (netOf v) := by
  unfold netOf
  split
  · exact repeats_pure _
  · exact repeats_pure _
  · split
    · exact repeats_pure _
    · exact repeats_resolve _
  · exact repeats_pure _
  · split
    · exact (repeats_lift _).bind fun _ => (repeats_lift _).bind fun _ => repeats_pure _
    · exact repeats_lift _
  · exact repeats_lift _

theorem repeats_ofParameters (params : Value) (settings : Settings) :
    Repeats (ofParameters params settings) := by
  unfold ofParameters
  -- only the net is asked of the board, all other parameters are read without it
  refine (repeats_lift _).bind fun t => (repeats_lift _).bind fun _ => (repeats_lift _).bind
    fun _ => (repeats_lift _).bind fun _ => (repeats_lift _).bind fun _ => (repeats_lift _).bind
    fun _ => (repeats_netOf _).bind fun _ => ?_
  exact (repeats_lift _).bind fun _ => (repeats_lift _).bind fun _ => (repeats_lift _).bind
    fun _ => repeats_pure _

end Footprint

namespace Instance

theorem repeats_ofEntry (settings : Settings) (file : String) (key : Key) (definition : Value) :
    Repeats (ofEntry settings file key definition) := by
  unfold ofEntry
  dsimp only
  split
  · refine ((Footprint.repeats_ofParameters _ settings).retold (blame key)).bind fun _ => ?_
    split
    · exact repeats_throw _
    · exact (repeats_lift _).bind fun _ => repeats_pure _
  · exact repeats_throw _

theorem repeats_render (i : Instance) (globalNets : Bool) : Repeats (i.render globalNets) :=
  i.footprint.repeats_render i.anchor globalNets

end Instance

namespace Placement

theorem repeats_render (p : Placement) (globalNets : Bool) : Repeats (p.render globalNets) := by
  unfold render
  exact (repeats_mapM (fun i => i.repeats_render globalNets) _).bind fun _ => repeats_pure _

/-- A placement that is rendered twice in a row, with the nets of any board or without, comes both
times to the same text, or both times to the same fault with the same report, and the second time
leaves the nets as the first left them. -/
theorem render_again (p : Placement) (globalNets : Bool) (board : Board) :
    let first := (p.render globalNets).on board
    let second := (p.render globalNets).on first.2
    second.1 = first.1 ∧ second.2.nets = first.2.nets :=
  (p.repeats_render globalNets).twice board

end Placement

end CopperRoute
