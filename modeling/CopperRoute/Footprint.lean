import CopperRoute.Number.Numeral
import CopperRoute.Record.Written
import CopperRoute.Route.Run
import CopperRoute.Settings

/-!
# Footprints

    loose parameters ──ofParameters──▶ Footprint ──records──▶ records ──▶ text

A router footprint holds route strings that share a net, sizes and a style, and is written wherever
it is placed. Every route stands on its own: it starts on the net of the footprint, without a layer
and without a cursor. If a route fails, so does the footprint, and nothing of it is written.
-/

namespace CopperRoute

structure Footprint where
  net : Net := Net.none
  width : Float := 0.25
  viaSize : Float := 0.6
  viaDrill : Float := 0.3
  locked : Bool := false
  route : String := ""
  routes : List String := []
  precision : Option Int := none
  format : RecordFormat := .kicad8

namespace Footprint

/-- All routes in order: the single one, unless it is empty, and then the list. -/
def allRoutes (f : Footprint) : List String :=
  (if f.route.isEmpty then [] else [f.route]) ++ f.routes

def style (f : Footprint) : RecordStyle := ⟨f.format, f.locked, f.precision⟩

/-- What the routes of a footprint share. -/
def setup (f : Footprint) (anchor : Anchor) (globalNets : Bool) : Route.Setup :=
  ⟨anchor, f.width, f.viaSize, f.viaDrill, globalNets⟩

/-- The records of `routes`, each of which is run on its own. -/
def runAll (s : Route.Setup) (net : Net) : List String → Session (List Record)
  | [] => pure []
  | route :: rest => do
    let records ← s.run route net
    let later ← runAll s net rest
    pure (records ++ later)

def records (f : Footprint) (anchor : Anchor) (globalNets : Bool) : Session (List Record) :=
  runAll (f.setup anchor globalNets) f.net f.allRoutes

def recordsText (style : RecordStyle) (records : List Record) : Except Breakdown String :=
  (records.mapM fun r : Record => r.chunk style).map String.join

def render (f : Footprint) (anchor : Anchor) (globalNets : Bool) : Session String := do
  let records ← f.records anchor globalNets
  Session.log (.rendered records.length anchor)
  Session.orBreak (recordsText f.style records)

end Footprint

/-! ## Footprints from loose parameters

A footprint is built from a table of parameters, where what is missing comes from the settings.
Names are checked first, then every parameter in a fixed order; the net comes after the checks that
need no board and before the sizes, so that a footprint that is refused for a size has its net in
the table already.
-/

namespace Footprint

def refuse {α : Type} (cause : ParameterCause) : Except Fault α :=
  .error (.ofWritable cause.isWritable (.parameter cause none))

def breakOn {α : Type} (cause : Breakdown) : Except Fault α := .error (.breakdown cause)

/-! ### Names -/

/-- `names` in ascending order of their characters, each once. -/
def ordered (names : List String) : List String :=
  names.eraseDups.mergeSort fun a b => !(b < a)

def isKnown (name : String) : Bool := parameterNames.contains name

/-- What is said of the values that are no parameter names. Only text can be named. -/
def refuseNames {α : Type} (unknown : List Value) : Except Fault α :=
  match unknown.mapM Value.text? with
  | some names => refuse (.unknownNames (ordered names))
  | none => breakOn .wrongType

def isKnownValue (v : Value) : Bool := v.text?.any isKnown

/-- What is said of values in the place of parameters. Known names alone have nothing to give. -/
def refuseItems {α : Type} (items : List Value) : Except Fault α :=
  let unknown := items.filter (!isKnownValue ·)
  if unknown.isEmpty then breakOn .noSuchPart else refuseNames unknown

/-- The parameters as a table whose names are all known. What is made of parts passes for a table as
far as its items, characters or bytes go. -/
def named (params : Value) : Except Fault Table :=
  match params.bare with
  | .table t =>
    let unknown := ((Table.keys t).map Key.toValue).filter (!isKnownValue ·)
    if unknown.isEmpty then .ok t else refuseNames unknown
  | .list items => refuseItems items
  | .pair a b => refuseItems [a, b]
  | .set members => refuseItems (members.map Key.toValue)
  | .text s => refuseItems (s.toList.map fun c => .text c.toString)
  | .bytes bs => refuseItems (bs.map fun b => .int b.toNat)
  | .null | .bool _ | .int _ | .float _ | .moment _ | .net _ | .knot .. => breakOn .wrongType

/-! ### Values -/

def route? (t : Table) : Except Fault String :=
  match t.get? "route" with
  | none => .ok ""
  | some v =>
    if v.isGiven then
      match v with
      | .text s => .ok s
      | v => refuse (.route v)
    else .ok ""

/-- The list of routes. The members of a set and the keys of a table pass for a list. -/
def routes? (t : Table) : Except Fault (List String) :=
  let texts (items : List Value) : Except Fault (List String) :=
    match items.mapM Value.text? with
    | some routes => .ok routes
    | none => refuse .routes
  match t.get? "routes" with
  | none => .ok []
  | some v =>
    if v.isGiven then
      match v.bare with
      | .list items => texts items
      | .pair a b => texts [a, b]
      | .set members => texts (members.map Key.toValue)
      | .table entries => texts (Table.keys entries |>.map Key.toValue)
      | .text _ | .bytes _ => refuse .routes
      | .null | .bool _ | .int _ | .float _ | .moment _ | .net _ | .knot .. => breakOn .wrongType
    else .ok []

/-- A number of decimals; null leaves it to the format. -/
def precisionOf (v : Value) : Except Fault (Option Int) :=
  match v with
  | .null => .ok none
  | .int i => if 0 ≤ i then .ok (some i) else refuse (.precision v)
  | v => refuse (.precision v)

def formatOf (v : Value) : Except Fault RecordFormat :=
  match v with
  | .text name =>
    match RecordFormat.ofName? name with
    | some format => .ok format
    | none => refuse (.formatName name)
  | v => refuse (.formatType v)

def lockedOf (v : Value) : Except Fault Bool :=
  match v with
  | .bool b => .ok b
  | v => refuse (.locked v)

/-- A size: a positive number within the range of doubles. -/
def sizeOf (name : String) (v : Value) : Except Fault Float :=
  match v with
  | .int i =>
    match Number.ofInt? i with
    | none => breakOn .outOfRange
    | some x => if 0 < i then .ok x else refuse (.size name v)
  | .float x => if Number.isFinite x && 0 < x then .ok x else refuse (.size name v)
  | v => refuse (.size name v)

/-- The whole number that bytes write in basic characters. -/
def wholeBytes? (bs : List UInt8) : Option Int :=
  if bs.all (· < 128) then
    Number.wholeLiteral? (String.ofList (bs.map fun b => Char.ofNat b.toNat))
  else none

/-- The index of a net as a value gives it. A number is cut to a whole one. -/
def netIndexOf (v : Value) : Except Fault Int :=
  match v with
  | .bool b => .ok (if b then 1 else 0)
  | .int i => .ok i
  | .float x =>
    match Number.exact x with
    | .finite d => .ok d.truncate
    | .infinite _ => breakOn .outOfRange
    | .undefined => refuse (.netIndex v)
  | .text s =>
    match Number.wholeLiteral? s with
    | some i => .ok i
    | none => refuse (.netIndex v)
  | .bytes bs =>
    match wholeBytes? bs with
    | some i => .ok i
    | none => refuse (.netIndex v)
  | v => refuse (.netIndex v)

/-- The name of a net as a value gives it; without one it is empty. -/
def netNameOf (v : Option Value) : Except Fault String :=
  match v with
  | none => .ok ""
  | some v => if v.isWritable then .ok v.shown else breakOn .unfitValue

/-- The net that a value gives: by its name on the board, by its index, or by both. -/
def netOf (v : Value) : Session Net :=
  match v.bare with
  | .null => pure Net.none
  | .net n => pure n
  | .text s => if s.isEmpty then pure Net.none else Session.resolve s
  | .int i => pure ⟨i, ""⟩
  | .table t =>
    match Table.get? t "index" with
    | some index => do
      let index ← netIndexOf index
      let name ← netNameOf (Table.get? t "name")
      pure ⟨index, name⟩
    | none => refuse (.net v)
  | _ => refuse (.net v)

/-! ### The footprint -/

/-- The value of a parameter, or of the setting in its place. -/
def valueOf (t : Table) (settings : Settings) (k : Setting) : Value :=
  (t.get? k.name).getD (settings.get k)

/-- The footprint that parameters describe, with the settings for what they leave out. -/
def ofParameters (params : Value) (settings : Settings) : Session Footprint := do
  let t ← named params
  let route ← route? t
  let routes ← routes? t
  let precision ← precisionOf (valueOf t settings .precision)
  let format ← formatOf (valueOf t settings .format)
  let locked ← lockedOf (valueOf t settings .locked)
  -- from here on the board may have one more net
  let net ← netOf ((t.get? "net").getD .null)
  let width ← sizeOf Setting.width.name (valueOf t settings .width)
  let viaSize ← sizeOf Setting.viaSize.name (valueOf t settings .viaSize)
  let viaDrill ← sizeOf Setting.viaDrill.name (valueOf t settings .viaDrill)
  pure { net, width, viaSize, viaDrill, locked, route, routes, precision, format }

end Footprint

end CopperRoute
