import CopperRoute.Value
import CopperRoute.Yaml.Graph
import CopperRoute.Yaml.Scalar

/-!
# What YAML nodes stand for

    Graph ──bodies──▶ bodies, by the numbers of the nodes

A text stands for its value, and a collection for what its items and entries stand for. Of two
entries with one key the last counts. An entry `<<` stands for the entries of the mapping, or of the
sequence of mappings, that is its value; they come before those of the mapping itself.

Texts are read as soon as something holds them, and collections after everything that was met before
them: level by level, each from left to right. So of two faults the one nearer to the root is found.
-/

/-! ## The order of a set

A set has no order of its own, yet it is written in one. Its members are dropped one by one into a
row of slots, and written as they lie there in the end. A number falls into the slot that its
remainder points to, or, where that one is taken, into the next one that it tries. What is no number
points to no slot that could be foretold: a set that holds such a member keeps the order in which
they came.
-/

namespace CopperRoute.Yaml.Arrangement

/-- The modulus of the remainders, a prime. Powers of two repeat after 61 of them. -/
def modulus : Nat := Nat.pow 2 61 - 1

/-- The remainder of the value `± mantissa · 2 ^ exponent`. -/
def dyadicRemainder (v : Number.Dyadic) : Nat :=
  v.mantissa * Nat.pow 2 (v.exponent % 61).toNat % modulus

/-- A remainder with a sign as a word, where minus one is left out. -/
def word (negative : Bool) (remainder : Nat) : UInt64 :=
  if !negative then remainder.toUInt64
  else if remainder = 1 then (0 : UInt64) - 2
  else (0 : UInt64) - remainder.toUInt64

def mark? : Key → Option UInt64
  | .int i => some (word (i < 0) (i.natAbs % modulus))
  | .bool b => some (if b then 1 else 0)
  | .float x =>
    match Number.exact x with
    | .finite v => some (word v.negative (dyadicRemainder v))
    | .infinite negative => some (word negative 314159)
    | .undefined => none
  | .null | .text _ | .moment _ | .bytes _ => none

/-- The number of slots for `count` members: eight for up to four of them, and else the least power
of two that is more than twice as many. -/
def slotCount (count : Nat) : Nat := if count < 5 then 8 else Nat.pow 2 ((2 * count).log2 + 1)

/-- The first free slot that a member tries. It tries runs of ten neighbours, or of one where ten do
not fit; the first run starts at `start`, and the bits of `mark` lead from one start to the next.
The last argument bounds the number of runs. -/
def freeSlot? (row : Array (Option Key)) (start : Nat) (mark : UInt64) : Nat → Option Nat
  | 0 => none
  | runs + 1 =>
    let run := if start + 9 < row.size then 10 else 1
    match (List.range run).find? fun i => (row.getD (start + i) none).isNone with
    | some i => some (start + i)
    | none =>
      let mark := mark >>> 5
      freeSlot? row ((start * 5 + 1 + mark.toNat) % row.size) mark runs

/-- The row with a member more. After thirteen runs the bits of its remainder are used up, and the
starts go round through all slots. -/
def place (row : Array (Option Key)) (key : Key) (mark : UInt64) : Array (Option Key) :=
  match freeSlot? row (mark.toNat % row.size) mark (row.size + 13) with
  | some i => row.set! i (some key)
  | none => row

/-- The members of a set in the order in which they are written. -/
def arranged (members : List Key) : List Key :=
  match members.mapM fun key => (mark? key).map (key, ·) with
  | none => members
  | some marked =>
    let row := Array.replicate (slotCount members.length) none
    (marked.foldl (fun row (key, mark) => place row key mark) row).toList.filterMap id

end CopperRoute.Yaml.Arrangement

namespace CopperRoute.Yaml

/-! ## Bodies -/

/-- What a node stands for. What it holds is told by the numbers of other nodes. -/
inductive Body where
  | value (value : Value)
  | list (items : List Nat)
  | pairs (items : List (Nat × Nat))
  | set (members : List Key)
  | table (entries : List (Key × Nat))

namespace Body

def parts : Body → List Nat
  | value _ | set _ => []
  | list items => items
  | pairs items => items.flatMap fun e => [e.1, e.2]
  | table entries => entries.map (·.2)

/-! ### Making bodies -/

/-- The state of making bodies: the nodes as they are by now, the bodies so far, and the collections
that wait for what they hold, the last one first. -/
structure Making where
  nodes : Array Node
  bodies : Array (Option Body)
  waiting : List Nat := []

abbrev Make := StateT Making (Except Unreadable)

namespace Make

def refuse {α : Type} (detail : String) : Make α := throw (.malformed detail)

def nodeAt (n : Nat) : Make Node := do pure ((← get).nodes.getD n default)

def putNode (n : Nat) (node : Node) : Make Unit :=
  modify fun s => { s with nodes := s.nodes.set! n node }

def bodyAt? (n : Nat) : Make (Option Body) := do pure ((← get).bodies.getD n none)

def putBody (n : Nat) (body : Body) : Make Unit :=
  modify fun s => { s with bodies := s.bodies.set! n (some body) }

/-! ### Texts -/

/-- How many steps lead from one node to the next before they are too many. -/
def stepLimit : Nat := 980

def defaultOf? : List (Nat × Nat) → Make (Option Nat)
  | [] => pure none
  | (k, v) :: rest => do
    if (← nodeAt k).tag = .default then pure (some v)
    else defaultOf? rest

/-- The text that a node is as a scalar: its own, or that of the value under its default key. The
first argument bounds the number of steps. -/
def textOf : Nat → Nat → Make String
  | 0, _ => throw (.breakdown .tooDeep)
  | steps + 1, n => do
    match ← nodeAt n with
    | .scalar _ text => pure text
    | .sequence .. => refuse "a sequence where a text is needed"
    | .mapping _ entries =>
      match ← defaultOf? entries with
      | some v => textOf steps v
      | none => refuse "a mapping where a text is needed"

def scalarOf (n : Nat) (node : Node) : Make Value := do
  if [.merge, .default, .other].contains node.tag then refuse "a type that no value has"
  let text ← textOf stepLimit n
  match node.tag, node with
  -- moments are read off the content of the node itself
  | .moment, .mapping .. => throw (.breakdown .wrongType)
  | tag, _ => liftM (Scalar.value text tag)

/-- Makes the body of a node, unless it was made. A collection is left empty and has to wait. -/
def make (n : Nat) : Make Unit := do
  if (← bodyAt? n).isSome then return
  let node ← nodeAt n
  if node.tag.isCollection then
    putBody n (.list [])
    modify fun s => { s with waiting := n :: s.waiting }
  else putBody n (.value (← scalarOf n node))

def keyOf (n : Nat) : Make Key := do
  match ← bodyAt? n with
  | some (.value v) =>
    match Key.ofValue? v with
    | some key => pure key
    | none => refuse "a key that is no scalar"
  | _ => refuse "a key that is a collection"

/-! ### Entries taken over -/

/-- The entries of a node that has to be a mapping, after `flatten` was done with it. -/
def flattened (flatten : Nat → Make Unit) (n : Nat) : Make (List (Nat × Nat)) := do
  let .mapping .. ← nodeAt n | refuse "something else where a mapping is needed"
  flatten n
  match ← nodeAt n with
  | .mapping _ entries => pure entries
  | _ => pure []

/-- The entries that a mapping takes over from the value of `<<`. Those of the last mapping in a
sequence come first. -/
def takenOver (flatten : Nat → Make Unit) (n : Nat) : Make (List (Nat × Nat)) := do
  match ← nodeAt n with
  | .sequence _ items =>
    let parts ← items.mapM (flattened flatten)
    pure parts.reverse.flatten
  | _ => flattened flatten n

/-- Goes through the entries of the mapping `n` behind `kept`, which are in reverse: takes away the
keys `<<`, and makes a default key a text. The result is what is to be taken over. -/
def takeOver (flatten : Nat → Make Unit) (n : Nat) (tag : Tag) (taken kept : List (Nat × Nat)) :
    List (Nat × Nat) → Make (List (Nat × Nat))
  | [] => pure taken
  | (k, v) :: rest => do
    let key ← nodeAt k
    if key.tag = .merge then
      let left := kept.reverse ++ rest
      putNode n (.mapping tag left)
      let more ← takenOver flatten v
      let taken := taken ++ more
      match ← nodeAt n with
      | .mapping _ now =>
        -- a mapping that takes over from itself has been gone through by now
        if now = left then takeOver flatten n tag taken kept rest else pure taken
      | _ => pure taken
    else
      if key.tag = .default then putNode k (key.retag .text)
      takeOver flatten n tag taken ((k, v) :: kept) rest

/-- Puts the entries that a mapping takes over in front of its own. The first argument bounds the
number of steps from one mapping to the next. -/
def flatten : Nat → Nat → Make Unit
  | 0, _ => throw (.breakdown .tooDeep)
  | steps + 1, n => do
    if let .mapping tag entries := (← nodeAt n) then
      let taken ← takeOver (flatten steps) n tag [] [] entries
      if let .mapping _ now := (← nodeAt n) then
        if !taken.isEmpty then putNode n (.mapping tag (taken ++ now))

/-! ### Collections -/

def keyedEntries (n : Nat) : Make (List (Key × Nat)) := do
  let entries ← flattened (flatten stepLimit) n
  entries.mapM fun (k, v) => do
    make k
    let key ← keyOf k
    make v
    pure (key, v)

def soleEntry (n : Nat) : Make (Nat × Nat) := do
  match ← nodeAt n with
  | .mapping _ [(k, v)] =>
    make k
    make v
    pure (k, v)
  | _ => refuse "an item that is not one entry"

/-- Makes what a collection holds. -/
def fill (n : Nat) : Make Unit := do
  let node ← nodeAt n
  match node.tag, node with
  | .list, .sequence _ items =>
    items.forM make
    putBody n (.list items)
  | .pairs, .sequence _ items => putBody n (.pairs (← items.mapM soleEntry))
  | .set, .mapping .. =>
    putBody n (.set (Arrangement.arranged ((Table.ofEntries (← keyedEntries n)).map (·.1))))
  | .table, .mapping .. => putBody n (.table (Table.ofEntries (← keyedEntries n)))
  | _, _ => refuse "a type that does not fit its node"

/-- Fills the collections that wait, then those that have come to wait, and so on. The argument
bounds the number of rounds. -/
def fillAll : Nat → Make Unit
  | 0 => pure ()
  | rounds + 1 => do
    let waiting := (← get).waiting.reverse
    if waiting.isEmpty then return
    modify fun s => { s with waiting := [] }
    waiting.forM fill
    fillAll rounds

end Make

end Body

/-- The bodies of the nodes that the document holds. -/
def Graph.bodies (g : Graph) : Except Unreadable (Array (Option Body)) := do
  let size := g.nodes.size
  let work : Body.Make Unit := do
    Body.Make.make g.root
    -- every round fills a collection that was not filled before
    Body.Make.fillAll (size + 1)
  let (_, s) ← work.run { nodes := g.nodes, bodies := Array.replicate size none }
  pure s.bodies

end CopperRoute.Yaml
