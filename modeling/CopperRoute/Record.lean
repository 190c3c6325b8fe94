import CopperRoute.Number.Root
import CopperRoute.Text.Character

/-!
# Records and what they are made of

A record is what a route comes to on the board. It lies at points, on layers, and belongs to a net.
-/

namespace CopperRoute

/-! ## Points

Positions in millimetres, in the frame of a footprint or of the board.
-/

structure Point where
  x : Float
  y : Float

def Point.distance (a b : Point) : Float := Number.hypotenuse (b.x - a.x) (b.y - a.y)

/-! ## Copper layers

A board has two copper layers. Vias join them, and a route names one by a letter.
-/

inductive Layer where
  | front
  | back
deriving Repr, DecidableEq

namespace Layer

def name : Layer → String
  | front => "F.Cu"
  | back => "B.Cu"

def flip : Layer → Layer
  | front => back
  | back => front

/-- The layer that a letter selects, in either case. -/
def ofLetter? (letter : String) : Option Layer :=
  let letter := Text.lowered letter
  if letter == "f" then some front
  else if letter == "b" then some back
  else none

/-- The layers that every via joins. -/
def viaPair : List Layer := [front, back]

@[simp] theorem flip_flip (l : Layer) : l.flip.flip = l := by cases l <;> rfl

end Layer

/-! ## Nets

A net is one electrical connection of a board. Records name it by its index.
-/

structure Net where
  index : Int
  name : String
deriving Repr, DecidableEq

namespace Net

def none : Net := ⟨0, ""⟩

/-- How a net is shown: by its name, or by its index if it has none. -/
def text (n : Net) : String := if n.name.isEmpty then s!"Net_{n.index}" else n.name

end Net

/-! ## Records

What a route comes to on the board: trace segments, and vias that join the layers. Positions are
board positions; they are rounded only when a record is written.
-/

/-- A straight piece of trace. -/
structure Segment where
  start : Point
  stop : Point
  width : Float
  layer : Layer
  net : Net

/-- A plated hole through the board. -/
structure Via where
  centre : Point
  size : Float
  drill : Float
  layers : List Layer
  net : Net

inductive Record where
  | segment (segment : Segment)
  | via (via : Via)

end CopperRoute
