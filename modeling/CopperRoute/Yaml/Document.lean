import CopperRoute.Yaml.Body

/-!
# YAML documents

    Source ──ofSource?──▶ Graph ──bodies──▶ bodies ──valueOf──▶ Value

The value of a document. Values are built from the inside out, in the order in which the nodes came
to their end. Where a node holds one that is not ready by then, it holds itself in the end: such a
document is unrolled, layer by layer, as far as anything can look into it, and its lists and tables
become knots.
-/

namespace CopperRoute.Yaml

namespace Body

/-- A value as a knot, if the document has any. -/
def tied (knotted : Bool) (n : Nat) (v : Value) : Value := if knotted then .knot n v else v

/-- The value of the node `n` by the values of all nodes so far. -/
def valueIn (values : Array Value) (knotted : Bool) (n : Nat) : Body → Value
  | value v => v
  | list items => tied knotted n (.list (items.map fun i => values.getD i .null))
  | pairs items =>
    let pair (e : Nat × Nat) : Value := .pair (values.getD e.1 .null) (values.getD e.2 .null)
    tied knotted n (.list (items.map pair))
  | set members => .set members
  | table entries =>
    tied knotted n (.table (entries.map fun e => (e.1, values.getD e.2 .null)))

/-- The nodes that are held before they are ready, where `order` is the order in which they become
so. -/
def early (bodies : Array (Option Body)) (order : List Nat) : List Nat :=
  let ready := Array.replicate bodies.size false
  let step (state : Array Bool × List Nat) (n : Nat) : Array Bool × List Nat :=
    match bodies.getD n none with
    | none => state
    | some body =>
      let (ready, found) := state
      let held := body.parts.filter fun i => !ready.getD i true
      (ready.set! n true, held ++ found)
  (order.foldl step (ready, [])).2.eraseDups

/-- The values of all nodes, one layer deeper than `values` where a node is held early. -/
def layer (bodies : Array (Option Body)) (order : List Nat) (knotted : Bool)
    (values : Array Value) : Array Value :=
  order.foldl (fun values n =>
    match bodies.getD n none with
    | none => values
    | some body => values.set! n (body.valueIn values knotted n)) values

def layers (bodies : Array (Option Body)) (order : List Nat) (knotted : Bool) :
    Nat → Array Value
  | 0 => Array.replicate bodies.size .null
  | count + 1 => layer bodies order knotted (layers bodies order knotted count)

/-- How many steps lead from a document to what is looked at in it or written of it. -/
def reach : Nat := 8

/-- The value of the node `root`. A written form goes through each node once, so there is a layer
for each that is held early, and some more for the way to where it begins. -/
def valueOf (bodies : Array (Option Body)) (order : List Nat) (root : Nat) : Value :=
  let held := early bodies order
  let count := if held.isEmpty then 1 else held.length + reach
  (layers bodies order (!held.isEmpty) count).getD root .null

end Body

/-- The value of a document. An empty one stands for null. -/
def ofSource (s : Source) : Except Unreadable Value := do
  match ← Graph.ofSource? s with
  | none => pure .null
  | some g => pure (Body.valueOf (← g.bodies) g.order g.root)

def ofText (text : String) : Except Unreadable Value := ofSource (.ofChars text.toList)

def ofBytes (bytes : ByteArray) : Except Unreadable Value := ofSource (.ofBytes bytes)

end CopperRoute.Yaml
