import CopperRoute.Breakdown
import CopperRoute.Fault
import CopperRoute.Number.Numeral
import CopperRoute.Number.Shortest
import CopperRoute.Record

/-!
# Anchors

A footprint stands on the board at an anchor: a position and a rotation in degrees. Positions inside
the footprint are written relative to it, and `Anchor.place` puts them on the board. The y axis of a
board points down, so a positive rotation turns from x toward negative y.
-/

namespace CopperRoute

/-- The placement of a footprint: a board position and a rotation in degrees. -/
structure Anchor where
  x : Float := 0
  y : Float := 0
  angle : Float := 0

/-- A rotation, by the cosine and the sine of its angle. -/
structure Rotation where
  cos : Float
  sin : Float

def radiansPerDegree : Float := 3.141592653589793 / 180

/-- The rotation by an angle in degrees. An infinite angle has none. A footprint that is not turned
keeps its coordinates as they are. -/
def Rotation.ofDegrees (angle : Float) : Except Breakdown Rotation :=
  if angle == 0 then .ok ⟨1, angle⟩
  else
    match Number.exact angle with
    | .infinite _ => .error .unfitValue
    | _ =>
      let radians := angle * radiansPerDegree
      .ok ⟨radians.cos, radians.sin⟩

namespace Anchor

/-- Turns the position `p` and moves it to the anchor. -/
def shift (a : Anchor) (r : Rotation) (p : Point) : Point :=
  ⟨r.cos * p.x + r.sin * p.y + a.x, r.cos * p.y - r.sin * p.x + a.y⟩

/-- The board position of a position `p` of the footprint. -/
def place (a : Anchor) (p : Point) : Except Breakdown Point :=
  (Rotation.ofDegrees a.angle).map fun r => a.shift r p

def written (a : Anchor) : String :=
  s!"Anchor(x={Number.text a.x}, y={Number.text a.y}, angle={Number.text a.angle})"

end Anchor

end CopperRoute

namespace CopperRoute.Anchor

/-! ## Reading anchors

An anchor is written as a placement expression such as `(at 10 20 90)`, as a list of two or three
numbers, or as a table with the entries `x`, `y` and an angle under one of three names. The rotation
may be left out.
-/

open CopperRoute.Number CopperRoute.Text

/-! ### Placement expressions -/

/-- Whether `cs` has the outline of a number of a placement expression: no sign but a minus, digits
and points, and an exponent at most. -/
def isNumberOutline (cs : List Char) : Bool :=
  let unsigned :=
    match cs with
    | '-' :: rest => rest
    | cs => cs
  let inMantissa (c : Char) : Bool := isDecimal c || c == '.'
  !(unsigned.takeWhile inMantissa).isEmpty && (exponent? (unsigned.dropWhile inMantissa)).isSome

/-- The words between the parentheses that `cs` starts and ends with. -/
def innerWords? (cs : List Char) : Option (List (List Char)) :=
  match trim cs with
  | '(' :: rest => if rest.getLast? == some ')' then some (words rest.dropLast) else none
  | _ => none

/-- The outlines of the numbers of a placement expression. -/
def outlines? (cs : List Char) : Option (List (List Char)) :=
  match innerWords? cs with
  | some (['a', 't'] :: numbers) =>
    if (numbers.length == 2 || numbers.length == 3) && numbers.all isNumberOutline then some numbers
    else none
  | _ => none

/-- The anchor with the given numbers, where a rotation that is missing is zero. -/
def ofNumbers? : List Float → Option Anchor
  | [x, y] => some ⟨x, y, 0⟩
  | [x, y, angle] => some ⟨x, y, angle⟩
  | _ => none

def ofExpression (text : String) : Except AnchorCause Anchor :=
  match outlines? text.toList with
  | none => .error (.badForm text)
  | some outlines =>
    let anchor := do
      let numbers ← outlines.mapM fun cs => (Numeral.ofChars? cs).map Numeral.toFloat
      ofNumbers? numbers
    match anchor with
    | some anchor => .ok anchor
    | none => .error (.badNumber text)

/-- Reads an anchor given as bare numbers or as a placement expression. -/
def ofOption (text : String) : Except AnchorCause Anchor :=
  if (trim text.toList).head? == some '(' then ofExpression text
  else ofExpression s!"(at {text})"

/-! ### Loose values -/

/-- Whether a value is a number. A truth value is none. -/
def isNumber : Value → Bool
  | .int _ | .float _ => true
  | _ => false

def number : Value → Except Fault Float
  | .int i =>
    match ofInt? i with
    | some x => .ok x
    | none => .error (.breakdown .outOfRange)
  | .float x => .ok x
  | _ => .error (.breakdown .wrongType)

/-- The names that a rotation can have, the first one counting. -/
def angleNames : List String := ["r", "rotation", "angle"]

/-- The numbers of an anchor as far as a value has the right shape for one. -/
def shape? (value : Value) : Option (List Value) :=
  match value.bare with
  | .list items => if items.length == 2 || items.length == 3 then some items else none
  | .pair a b => some [a, b]
  | .table t =>
    let angle := (angleNames.findSome? (Table.get? t)).getD (.int 0)
    some [(Table.get? t "x").getD (.int 0), (Table.get? t "y").getD (.int 0), angle]
  | _ => none

/-- The anchor that a value gives for a footprint. Null stands for the origin. -/
def ofValue (value : Value) (footprint : String) : Except Fault Anchor :=
  match value with
  | .null => .ok {}
  | .text s => (ofExpression s).mapError fun _ => .anchor (.badText footprint s)
  | value =>
    let refuse : Except Fault Anchor :=
      .error (.ofWritable value.isWritable (.anchor (.badValue footprint value)))
    match shape? value with
    | none => refuse
    | some parts =>
      if parts.all isNumber then do
        let numbers ← parts.mapM number
        match ofNumbers? numbers with
        | some anchor => pure anchor
        | none => refuse
      else refuse

end CopperRoute.Anchor
