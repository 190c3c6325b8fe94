import CopperRoute.Breakdown
import CopperRoute.Fault.Report
import CopperRoute.Record.Written

/-!
# Faults

Every way in which the work of this library can fail, as a cause with what it concerns. The wording
is decided here and nowhere else: `Fault.report?` gives the report of a fault, which is none only
for a breakdown.
-/

namespace CopperRoute

/-! ### Routes -/

inductive RouteCause where
  /-- a character that starts no item -/
  | unknownCharacter (c : Char)
  /-- a position without its closing parenthesis -/
  | openPosition
  /-- a net name without its closing angle bracket -/
  | openNet
  /-- a net name that is blank all over -/
  | blankNet
  /-- a position that does not hold two finite numbers -/
  | badPosition (text : String)
  /-- a segment while no layer is chosen -/
  | noLayer
  /-- a via while the cursor is nowhere -/
  | noCursor
  /-- a net name where the host offers no nets -/
  | noGlobalNets
deriving Repr, DecidableEq

/-- A cause at its place: the whole route, and the position of the item or character. -/
structure RouteFault where
  cause : RouteCause
  route : Option String
  position : Option Nat
deriving Repr, DecidableEq

namespace RouteFault

def positionText (f : RouteFault) : String :=
  match f.position with
  | some p => toString p
  | none => "None"

/-- The character that a malformed item starts with. -/
def character : RouteCause → Option String
  | .unknownCharacter c => some c.toString
  | .openPosition => some "("
  | .openNet | .blankNet => some "<"
  | _ => none

def kind (f : RouteFault) : Kind :=
  match f.cause with
  | .unknownCharacter _ | .openPosition | .openNet | .blankNet => .malformed
  | .badPosition _ => .badValue
  | .noLayer | .noCursor => .notReady
  | .noGlobalNets => .unsupported

def message (f : RouteFault) : String :=
  let route := f.route.getD "None"
  match f.cause with
  | .unknownCharacter c => s!"Unsupported character '{c}' at position {f.positionText}."
  | .openPosition =>
    s!"Unclosed position parenthesis in {route} at character position {f.positionText}"
  | .openNet => s!"Unclosed net parenthesis in {route} at character position {f.positionText}"
  | .blankNet => s!"Empty net name at character position {f.positionText}"
  | .badPosition text => s!"Invalid position encountered: {text}"
  | .noLayer =>
    "Can't place segment before layer is set, use 'f' or 'b', to set starting layer"
  | .noCursor => "Can't place via when position is not set, use (x,y) to set position"
  | .noGlobalNets =>
    s!"Global nets are not supported by this host (character position {f.positionText})"

def suggestions (f : RouteFault) : List String :=
  match f.cause with
  | .unknownCharacter _ => ["Valid commands are f, b, v, x, |, (x,y) and <net_name>"]
  | .badPosition _ =>
    ["Positions are written as (x,y) or (x y) with finite numeric x and y"]
  | .noGlobalNets => ["Pass a net resolver (e.g. a NetTable) to the router"]
  | _ => []

/-- The text that a fault is about, apart from the route. -/
def text : RouteCause → Option String
  | .badPosition text => some text
  | _ => none

def report (f : RouteFault) : Report :=
  Report.make f.kind f.message
    { character := character f.cause
      text := text f.cause
      route := f.route
      position := f.position.map Int.ofNat }
    [] f.suggestions

end RouteFault

/-! ### Anchors -/

inductive AnchorCause where
  /-- text that is no placement expression -/
  | badForm (text : String)
  /-- a placement expression with a part that is no number -/
  | badNumber (text : String)
  /-- the text under a footprint that gives no anchor -/
  | badText (footprint : String) (text : String)
  /-- the value under a footprint that gives no anchor -/
  | badValue (footprint : String) (value : Value)

def AnchorCause.report : AnchorCause → Report
  | badForm text =>
    Report.make .badValue s!"Could not get x and y coordinates from placement: {text}"
      { text := some text } [] ["Use the form '(at X Y)' or '(at X Y ROTATION)'"]
  | badNumber text =>
    Report.make .badValue s!"Invalid number in placement: {text}" { text := some text } [] []
  | badText footprint text =>
    Report.make .configuration s!"Invalid placement for footprint '{footprint}': {text}" {} [] []
  | badValue footprint value =>
    Report.make .configuration
      s!"Invalid placement for footprint '{footprint}': {value.written}" {} []
      ["Use \x7bx: X, y: Y, r: R\x7d, [X, Y, R] or '(at X Y R)'"]

/-! ### Footprint parameters -/

def parameterNames : List String :=
  ["net", "width", "via_size", "via_drill", "locked", "route", "routes", "precision", "format"]

inductive ParameterCause where
  | unknownNames (names : List String)
  | route (value : Value)
  | routes
  | precision (value : Value)
  | formatType (value : Value)
  | formatName (name : String)
  | locked (value : Value)
  | size (name : String) (value : Value)
  | netIndex (value : Value)
  | net (value : Value)

namespace ParameterCause

def message : ParameterCause → String
  | unknownNames names =>
    let list := ", ".intercalate names
    s!"Unknown router parameter(s): {list}"
  | route v => s!"'route' must be a string, got {v.typeName}"
  | routes => "'routes' must be a list of strings"
  | precision v => s!"'precision' must be a non-negative integer, got {v.written}"
  | formatType v => s!"'format' must be a string, got {v.written}"
  | formatName name => RecordFormat.unknownText name
  | locked v => s!"'locked' must be true or false, got {v.written}"
  | size name v => s!"'{name}' must be a positive number, got {v.written}"
  | netIndex v => s!"Invalid net index: {v.written}"
  | net v => s!"Invalid net: {v.written}"

def isWritable : ParameterCause → Bool
  | precision v | formatType v | locked v | size _ v | netIndex v | net v => v.isWritable
  | unknownNames _ | route _ | routes | formatName _ => true

def report (c : ParameterCause) : Report :=
  let context : Context :=
    match c with
    | unknownNames _ => [("known", .text (", ".intercalate parameterNames))]
    | _ => []
  Report.make .configuration c.message {} context []

end ParameterCause

/-! ### Placement files -/

inductive PlacementCause where
  /-- text that is no YAML document, with what is wrong -/
  | notYaml (detail : String)
  | notTable
  | nets
  | footprints
  | footprint (name : Key)

def PlacementCause.message : PlacementCause → String
  | notYaml detail => s!"Invalid YAML: {detail}"
  | notTable => "Placement file must contain a mapping at the top level"
  | nets => "'nets' must be a list of net names"
  | footprints => "'footprints' must be a mapping of footprint names to definitions"
  | footprint name => s!"Footprint '{name.shown}' must be a mapping"

/-! ### Settings files -/

inductive SettingsCause where
  /-- a file that the system does not give, with what the system says -/
  | unreadable (detail : String)
  /-- text that is no TOML document, with what is wrong -/
  | notToml (detail : String)
  | notTable
  | wrongType (name : String) (value : Value)
  | notPositive (name : String)
  | negativePrecision
  | format (name : String)

/-- What is said of the settings file `source`. -/
def SettingsCause.message (source : String) : SettingsCause → String
  | unreadable detail => s!"Cannot read config file {source}: {detail}"
  | notToml detail => s!"Invalid TOML in {source}: {detail}"
  | notTable => s!"'router' must be a table in {source}"
  | wrongType name value => s!"Invalid value for 'router.{name}' in {source}: {value.written}"
  | notPositive name => s!"'router.{name}' must be a positive number in {source}"
  | negativePrecision => s!"'router.precision' must not be negative in {source}"
  | format name => s!"{RecordFormat.unknownText name} in {source}"

def SettingsCause.isWritable : SettingsCause → Bool
  | wrongType _ value => value.isWritable
  | _ => true

/-! ### All faults -/

inductive Fault where
  | route (fault : RouteFault)
  | anchor (cause : AnchorCause)
  /-- a net that a table without allocation does not know, and the nets it knows -/
  | unknownNet (name : String) (known : List String)
  /-- a footprint parameter, and the key of the footprint if it stands in a placement -/
  | parameter (cause : ParameterCause) (footprint : Option Key)
  /-- a placement document, and the file it came from -/
  | placement (cause : PlacementCause) (file : String)
  /-- a placement file that is not there -/
  | missingFile (file : String)
  /-- a settings file -/
  | settings (cause : SettingsCause) (source : String)
  | breakdown (cause : Breakdown)

namespace Fault

/-- What the user is told. A breakdown has no report. -/
def report? : Fault → Option Report
  | route f => some f.report
  | anchor c => some c.report
  | unknownNet name known =>
    some (Report.make .netLookup s!"Unknown net: {name}" {}
      [("net", .text name), ("known", .list (known.map .text))]
      ["Declare the net in the placement file 'nets' list"])
  | parameter c none => some c.report
  | parameter c (some key) => some (c.report.note "footprint" key.toValue)
  | placement c file => some (Report.make .fileFormat c.message { file := some file } [] [])
  | missingFile file =>
    some (Report.make .fileMissing "Placement file not found" {} [("file", .text file)]
      ["Check the path passed on the command line"])
  | settings c source => some (Report.make .settings (c.message source) {} [] [])
  | breakdown _ => none

/-- Whether the report of a fault can be told. What its message holds was seen to when the fault was
made; only the key of a footprint comes to the report later. -/
def canTell : Fault → Bool
  | parameter _ (some key) => key.isWritable
  | _ => true

def IsTold (f : Fault) : Prop := f.report? ≠ none ∧ f.canTell = true

/-- The fault `fault`, if what it tells can be written, and a breakdown if not. -/
def ofWritable (writable : Bool) (fault : Fault) : Fault :=
  if writable then fault else breakdown .unfitValue

def kind? (f : Fault) : Option Kind := f.report?.map (·.kind)

/-- Only a breakdown has no report. -/
theorem report?_eq_none_iff (f : Fault) : f.report? = none ↔ ∃ b, f = breakdown b := by
  cases f with
  | parameter c footprint => cases footprint <;> simp [report?]
  | _ => simp [report?]

end Fault

end CopperRoute
