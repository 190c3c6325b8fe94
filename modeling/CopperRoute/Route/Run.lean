import CopperRoute.Anchor
import CopperRoute.Record
import CopperRoute.Route.Scan
import CopperRoute.Session

/-!
# Running a route

    route ──scan──▶ tokens ──draw──▶ records

A run follows the tokens with a pen, which knows the net, the layer and the cursor. A position draws
a segment from the cursor if there is one and moves the cursor; a via is placed at the cursor and
changes the layer to the opposite one; lifting the pen forgets the cursor alone. What stops the scan
counts only after all tokens before it were followed.
-/

namespace CopperRoute.Route

/-- What all routes of a footprint share: the anchor, the sizes in millimetres, and whether routes
may name nets of the board. -/
structure Setup where
  anchor : Anchor
  width : Float
  viaSize : Float
  viaDrill : Float
  globalNets : Bool

/-- The state between two commands. -/
structure Pen where
  net : Net
  layer : Option Layer := none
  cursor : Option Point := none

namespace Setup

def segment (s : Setup) (start stop : Point) (layer : Layer) (net : Net) :
    Except Breakdown Record := do
  let start ← s.anchor.place start
  let stop ← s.anchor.place stop
  pure (.segment ⟨start, stop, s.width, layer, net⟩)

def via (s : Setup) (centre : Point) (net : Net) : Except Breakdown Record := do
  let centre ← s.anchor.place centre
  pure (.via ⟨centre, s.viaSize, s.viaDrill, Layer.viaPair, net⟩)

/-- Follows one token of `route`: the pen afterwards and the record that was drawn. -/
def step (s : Setup) (route : String) (pen : Pen) (token : Token) :
    Session (Pen × Option Record) := do
  let refuse {α : Type} (cause : RouteCause) : Session α :=
    throw (.route ⟨cause, some route, some token.position⟩)
  match token.command with
  | .layer layer => pure ({ pen with layer := some layer }, none)
  | .point target =>
    let moved := { pen with cursor := some target }
    match pen.cursor, pen.layer with
    -- the first position of a trace draws nothing
    | none, _ => pure (moved, none)
    | some _, none => refuse .noLayer
    | some cursor, some layer =>
      let record ← Session.orBreak (s.segment cursor target layer pen.net)
      pure (moved, some record)
  | .via =>
    match pen.cursor with
    | none => refuse .noCursor
    | some cursor =>
      let record ← Session.orBreak (s.via cursor pen.net)
      -- before a layer is chosen there is none to flip
      pure ({ pen with layer := pen.layer.map Layer.flip }, some record)
  | .penUp => pure ({ pen with cursor := none }, none)
  | .net name =>
    if s.globalNets then
      let net ← Session.resolve name
      Session.log (.switched net token.position)
      pure ({ pen with net := net }, none)
    else refuse .noGlobalNets

/-- Follows `tokens` and gathers the records in order. -/
def draw (s : Setup) (route : String) (pen : Pen) : List Token → Session (List Record)
  | [] => pure []
  | token :: rest => do
    let (pen, record) ← s.step route pen token
    let later ← s.draw route pen rest
    pure (record.toList ++ later)

def run (s : Setup) (route : String) (net : Net) : Session (List Record) := do
  let scan := scan route
  let records ← s.draw route { net := net } scan.tokens
  match scan.stop with
  | some (position, cause) => throw (.route ⟨cause, some route, some position⟩)
  | none =>
    Session.log (.finished route records.length)
    pure records

end Setup

end CopperRoute.Route
