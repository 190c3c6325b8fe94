import CopperRoute.Anchor
import CopperRoute.Disk
import CopperRoute.Footprint
import CopperRoute.Yaml.Document

/-!
# Placements

A placement lists the nets of a board and its router footprints, each with an anchor and parameters:

    loose document ──ofValue──▶ instances, on a board with their nets ──render──▶ text

Footprints are taken in their order and the first that is not fit ends the work; what is wrong with
its parameters is told with the footprint's name. All footprints share the nets of the board.
-/

namespace CopperRoute

/-- A footprint at its place, under its name. -/
structure Instance where
  name : String
  anchor : Anchor
  footprint : Footprint

structure Placement where
  instances : List Instance

namespace Instance

def records (i : Instance) (globalNets : Bool) : Session (List Record) :=
  i.footprint.records i.anchor globalNets

def render (i : Instance) (globalNets : Bool) : Session String :=
  i.footprint.render i.anchor globalNets

/-- Names the footprint in a fault of its parameters. -/
def blame (key : Key) : Fault → Fault
  | .parameter cause none => .parameter cause (some key)
  | fault => fault

def ofEntry (settings : Settings) (file : String) (key : Key) (definition : Value) :
    Session Instance := do
  let definition := if definition.isGiven then definition else .table []
  match definition.bare with
  | .table t =>
    let params := (Table.get? t "params").getD .null
    let params := if params.isGiven then params else .table []
    -- parameters come before the anchor: of two faults theirs is told
    let footprint ← tryCatch (Footprint.ofParameters params settings) fun fault =>
      throw (blame key fault)
    if !key.isWritable then throw (.breakdown .unfitValue)
    let anchor ← Anchor.ofValue ((Table.get? t "at").getD .null) key.shown
    pure ⟨key.shown, anchor, footprint⟩
  | _ => throw (.ofWritable key.isWritable (.placement (.footprint key) file))

end Instance

namespace Placement

def netNames (t : Table) (file : String) : Except Fault (List String) :=
  let refuse : Except Fault (List String) := .error (.placement .nets file)
  match t.get? "nets" with
  | none => .ok []
  | some v =>
    if v.isGiven then
      match v.bare with
      | .list items =>
        match items.mapM Value.text? with
        | some names => .ok names
        | none => refuse
      | _ => refuse
    else .ok []

def definitions (t : Table) (file : String) : Except Fault Table :=
  match t.get? "footprints" with
  | none => .ok []
  | some v =>
    if v.isGiven then
      match v.bare with
      | .table t => .ok t
      | _ => .error (.placement .footprints file)
    else .ok []

/-- The document as a table. Null stands for an empty one. -/
def document (data : Value) (file : String) : Except Fault Table :=
  match data.bare with
  | .null => .ok []
  | .table t => .ok t
  | _ => .error (.placement .notTable file)

/-- Builds the placement of a document, on a board that has no nets yet. -/
def ofValue (data : Value) (settings : Settings) (file : String) : Session Placement := do
  let t ← document data file
  let names ← netNames t file
  Session.register names
  let entries ← definitions t file
  let instances ← entries.mapM fun e => Instance.ofEntry settings file e.1 e.2
  let board ← get
  Session.log (.loaded instances.length board.nets.names.length)
  pure ⟨instances⟩

def render (p : Placement) (globalNets : Bool) : Session String := do
  let texts ← p.instances.mapM fun i => i.render globalNets
  pure (String.join texts)

end Placement

end CopperRoute

namespace CopperRoute.Placement

/-! ## Placement files

A placement file is a YAML document in a file tree.
-/

def ofFile (d : Disk) (current : Place) (path : Path) (settings : Settings) :
    Session Placement := do
  if !(← Session.orBreak (d.exists? current path)) then throw (.missingFile path.text)
  let content ← Session.orBreak (d.read current path)
  match Yaml.ofBytes content with
  | .error (.malformed detail) => throw (.placement (.notYaml detail) path.text)
  | .error (.breakdown b) => throw (.breakdown b)
  | .ok data =>
    Session.log (.reading path.text)
    ofValue data settings path.text

end CopperRoute.Placement
