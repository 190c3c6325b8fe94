import CopperRoute.Breakdown
import CopperRoute.Number.Numeral
import CopperRoute.Number.Shortest
import CopperRoute.Record
import CopperRoute.Text.Character
import CopperRoute.Text.Printable

/-!
# Written records

    record ──outline──▶ head and fields ──block, line──▶ text

How a record is written is up to a format and a number of decimals. What it says is the same in
either format.
-/

namespace CopperRoute

/-! ## Record formats

Records are written in one of two ways: as blocks over several lines, or each on a line of its own
with a bare flag for locked records. A format is chosen by name, in any case and with blanks around
it.
-/

inductive RecordFormat where
  /-- blocks over several lines -/
  | kicad8
  /-- one line a record -/
  | legacy
deriving Repr, DecidableEq

namespace RecordFormat

def name : RecordFormat → String
  | kicad8 => "kicad8"
  | legacy => "legacy"

def all : List RecordFormat := [kicad8, legacy]

/-- A format's name freed of case and of blanks at its ends. -/
def plainName (s : String) : String := Text.trimmed (Text.lowered s)

def ofName? (s : String) : Option RecordFormat := all.find? (·.name == plainName s)

def unknownText (s : String) : String :=
  let names := ", ".intercalate (all.map name)
  s!"Unknown record format {Text.quoted s} (expected one of: {names})"

/-- How many decimals coordinates have unless a footprint says otherwise. -/
def places : RecordFormat → Nat
  | kicad8 => 3
  | legacy => 5

/-- A format is found under its own name. -/
theorem ofName?_name (f : RecordFormat) : ofName? f.name = some f := by
  cases f <;> decide +kernel

end RecordFormat

namespace Record

/-! ## Figures in records

Coordinates are rounded to a number of decimals and written without trailing zeros; zero has no
sign. With so many decimals that the digits do not fit beside them only a zero is left. Sizes are
written in full: a whole number without a point, any other as the shortest decimal that reads back.
-/

open Number

def dropTrailingZeros (fraction : List Char) : List Char :=
  (fraction.reverse.dropWhile (· == '0')).reverse

/-- The coordinate `units` units of the last of `places` decimals. -/
def unitsText (negative : Bool) (units places : Nat) : String :=
  let (whole, fraction) := pointParts units places
  pointText (negative && units != 0) whole (dropTrailingZeros fraction)

/-- The most decimals that a coordinate can be asked for. -/
def placesLimit : Int := 2147483647

/-- Whether a value is written with all of its digits. Those before the point and the decimals that
are asked for have one limit together; only a short whole number has no need of it. -/
def hasRoom (v : Number.Dyadic) (places : Nat) : Bool :=
  v.wholeDigits = 0 || v.wholeDigits + places ≤ placesLimit || v.isWhole && v.wholeDigits ≤ 15

/-- A coordinate with at most `places` decimals. A value without room for its digits loses all of
them. -/
def coordinateText (x : Float) (places : Nat) : String :=
  match exact x with
  | .finite v => if hasRoom v places then unitsText v.negative (v.units places) places else "0"
  | .infinite negative => infinityText negative
  | .undefined => "nan"

/-- A size. Infinity and what is no number have no written form. -/
def sizeText (x : Float) : Except Breakdown String :=
  match exact x with
  | .finite v => .ok (if v.isWhole then toString v.truncate else text x)
  | .infinite _ => .error .outOfRange
  | .undefined => .error .unfitValue

def places? (precision : Int) : Except Breakdown Nat :=
  if 0 ≤ precision ∧ precision ≤ placesLimit then .ok precision.toNat else .error .unfitValue

def coordinate (x : Float) (precision : Int) : Except Breakdown String :=
  (places? precision).map (coordinateText x)

end Record

/-! ## Records as nodes

A record is a node with a head and named fields between parentheses. In the block format each field
has a line of its own and one of them tells whether the record is locked; in the line format all
fields stand on one line, behind the bare word `locked` if the record is locked.
-/

structure RecordStyle where
  format : RecordFormat
  locked : Bool := false
  /-- decimals of coordinates, if not those of the format -/
  precision : Option Int := none

def RecordStyle.places (s : RecordStyle) : Except Breakdown Nat :=
  match s.precision with
  | none => .ok s.format.places
  | some precision => Record.places? precision

structure Field where
  name : String
  atoms : List String

def Field.text (f : Field) : String := "(" ++ f.name ++ " " ++ " ".intercalate f.atoms ++ ")"

namespace Record

/-- What a record holds besides its lock: its head, and its fields before and after the place of the
lock. -/
structure Outline where
  head : String
  front : List Field
  back : List Field

def pointField (name : String) (p : Point) (places : Nat) : Field :=
  ⟨name, [coordinateText p.x places, coordinateText p.y places]⟩

def sizeField (name : String) (x : Float) : Except Breakdown Field :=
  (sizeText x).map fun text => ⟨name, [text]⟩

/-- The field of a net, unless its index is too long to be written. -/
def netField (net : Net) : Except Breakdown Field :=
  if Number.isWritable net.index then .ok ⟨"net", [toString net.index]⟩ else .error .unfitValue

def outline (places : Nat) : Record → Except Breakdown Outline
  | .segment s => do
    let width ← sizeField "width" s.width
    let net ← netField s.net
    pure ⟨"segment", [pointField "start" s.start places, pointField "end" s.stop places, width],
      [⟨"layer", [s.layer.name]⟩, net]⟩
  | .via v => do
    let size ← sizeField "size" v.size
    let drill ← sizeField "drill" v.drill
    let net ← netField v.net
    let layers := v.layers.map fun l => "\"" ++ l.name ++ "\""
    pure ⟨"via", [pointField "at" v.centre places, size, drill, ⟨"layers", layers⟩], [net]⟩

/-- An outline as a block, each of whose lines starts with `indent`. -/
def Outline.block (o : Outline) (locked : Bool) (indent : String) : String :=
  let lock : Field := ⟨"locked", [if locked then "yes" else "no"]⟩
  let lines := (o.front ++ lock :: o.back).map fun f => indent ++ indent ++ f.text ++ "\n"
  indent ++ "(" ++ o.head ++ "\n" ++ String.join lines ++ indent ++ ")"

def Outline.line (o : Outline) (locked : Bool) : String :=
  let lock := if locked then "locked " else ""
  let fields := " ".intercalate ((o.front ++ o.back).map Field.text)
  "(" ++ o.head ++ " " ++ lock ++ fields ++ ")"

def node (r : Record) (style : RecordStyle) (indent : String) : Except Breakdown String := do
  let places ← style.places
  let outline ← r.outline places
  match style.format with
  | .kicad8 => pure (outline.block style.locked indent)
  | .legacy => pure (outline.line style.locked)

/-- A record as it is appended to the text of a footprint: blocks start on a fresh line, and every
record ends its last line. -/
def chunk (r : Record) (style : RecordStyle) : Except Breakdown String := do
  let node ← r.node style "  "
  match style.format with
  | .kicad8 => pure ("\n" ++ node ++ "\n")
  | .legacy => pure (node ++ "\n")

end Record

end CopperRoute
