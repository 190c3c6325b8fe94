import CopperRoute.Yaml.Form
import CopperRoute.Yaml.Node
import CopperRoute.Yaml.Scan

/-!
# Reading YAML nodes

    Source ──ofSource?──▶ Graph

The tokens of a document are put together to nodes, which get their numbers as they begin. A node
can be referred to as soon as it has begun; a name is given once.
-/

namespace CopperRoute.Yaml.Graph

/-- The state of reading: the nodes so far, and what the names and handles stand for. -/
structure Draft where
  scanner : Scanner
  handles : List (String × String) := Tag.handles
  nodes : Array Node := #[]
  /-- the nodes that came to their end, the last one first -/
  ended : List Nat := []
  named : List (String × Nat) := []

abbrev Build := StateT Draft (Except Unreadable)

namespace Build

def refuse {α : Type} (detail : String) : Build α := throw (.malformed detail)

/-- Does a step of reading tokens. -/
def scan {α : Type} (work : Scan α) : Build α := do
  let d ← get
  let (a, scanner) ← (work.run d.scanner : Except Unreadable (α × Scanner))
  set { d with scanner }
  pure a

def peek : Build (Option Token) := scan Scan.peekToken

def skip : Build Unit := scan Scan.skipToken

/-- Passes over the token `t` if it comes next, and says whether it does. -/
def accept (t : Token) : Build Bool := do
  let found := (← peek) == some t
  if found then skip
  pure found

def isNext (ts : List Token) : Build Bool := do pure ((← peek).any ts.contains)

/-! ### Properties of nodes -/

/-- What may stand before a node: a name for it and its tag. -/
structure Properties where
  name : Option String := none
  tag : Option (Option String × String) := none

/-- Takes the properties of a node, each at most once. The argument bounds their number. -/
def properties : Nat → Properties → Build Properties
  | 0, p => pure p
  | count + 1, p => do
    match ← peek, p.name, p.tag with
    | some (.label name), none, _ =>
      skip
      properties count { p with name := some name }
    | some (.tag handle name), _, none =>
      skip
      properties count { p with tag := some (handle, name) }
    | _, _, _ => pure p

/-- The name of a type that a tag gives, with its handle filled in. -/
def typeName? (tag : Option (Option String × String)) : Build (Option String) := do
  match tag with
  | none => pure none
  | some (none, name) => pure (some name)
  | some (some handle, name) =>
    match (← get).handles.lookup handle with
    | some start => pure (some (start ++ name))
    | none => refuse "a handle that was not declared"

/-- The type of a node that has the type `own` by its form, if the tag leaves it open. -/
def tagOr (own : Tag) (typeName : Option String) : Tag :=
  match typeName with
  | none => own
  | some name => if name == Tag.unspecified then own else Tag.ofName name

def tagOfText (typeName : Option String) (text : String) (plain : Bool) : Tag :=
  -- a tag that leaves the type open brings out the form of a text in quotes too
  if typeName.isNone && !plain then .text else tagOr (Form.tag text) typeName

/-! ### Numbers of nodes -/

/-- Gives the next number, and a name if there is one, to a node that begins. -/
def begin (name : Option String) (node : Node) : Build Nat := do
  let d ← get
  if (name.bind (d.named.lookup ·)).isSome then refuse "a name given twice"
  let n := d.nodes.size
  set { d with nodes := d.nodes.push node, named := (name.map (·, n)).toList ++ d.named }
  pure n

def finish (n : Nat) (node : Node) : Build Nat := do
  modify fun d => { d with nodes := d.nodes.set! n node, ended := n :: d.ended }
  pure n

def addText (name : Option String) (tag : Tag) (text : String) : Build Nat := do
  let node := Node.scalar tag text
  finish (← begin name node) node

/-- The node where a document says nothing. -/
def empty : Build Nat := addText none .null ""

/-- How many levels of nodes are left within one of them. -/
def deeper (levels : Nat) : Build Nat :=
  match levels with
  | 0 => throw (.breakdown .tooDeep)
  | levels + 1 => pure levels

/-- Adds a sequence, where its items are read by `items`. -/
def addSequence (name : Option String) (tag : Tag) (items : Build (List Nat)) : Build Nat := do
  let n ← begin name (.sequence tag [])
  let items ← items
  finish n (.sequence tag items)

def addMapping (name : Option String) (tag : Tag) (entries : Build (List (Nat × Nat))) :
    Build Nat := do
  let n ← begin name (.mapping tag [])
  let entries ← entries
  finish n (.mapping tag entries)

/-! ### Nodes -/

/-- Where a node stands: in a block, in a flow collection, or as the value of a block's key, where a
sequence need not be indented. -/
inductive Setting where
  | block
  | flow
  | blockValue
deriving DecidableEq

mutual

/-- The node that comes next. The first argument of this and the following functions bounds the
number of steps, the second tells how many levels nodes may go on. -/
def node : Nat → Nat → Setting → Build Nat
  | 0, _, _ => refuse "no node where one is needed"
  | steps + 1, levels, place => do
    if let some (.reference name) := (← peek) then
      skip
      match (← get).named.lookup name with
      | some n => return n
      | none => refuse "a reference to a name that was not given"
    let p ← properties 2 {}
    let typeName ← typeName? p.tag
    match ← peek with
    | some (.scalar text plain) =>
      skip
      addText p.name (tagOfText typeName text plain) text
    | some .flowSequence =>
      let levels ← deeper levels
      addSequence p.name (tagOr .list typeName) (skip *> flowItems steps levels true)
    | some .flowMapping =>
      let levels ← deeper levels
      addMapping p.name (tagOr .table typeName) (skip *> flowEntries steps levels true)
    | some .blockSequence =>
      if place = .flow then refuse "a block inside a flow collection"
      let levels ← deeper levels
      addSequence p.name (tagOr .list typeName) (skip *> blockItems steps levels)
    | some .blockMapping =>
      if place = .flow then refuse "a block inside a flow collection"
      let levels ← deeper levels
      addMapping p.name (tagOr .table typeName) (skip *> blockEntries steps levels)
    | next =>
      -- the items of a sequence may stand in the column of its key
      if next == some .blockEntry && place = .blockValue then
        let levels ← deeper levels
        addSequence p.name (tagOr .list typeName) (flushItems steps levels)
      else if p.name.isSome || p.tag.isSome then
        addText p.name (tagOfText typeName "" true) ""
      else refuse "no node where one is needed"

/-- The node that comes next, or the empty one before the tokens `ts`. -/
def nodeUnless : Nat → Nat → Setting → List Token → Build Nat
  | 0, _, _, _ => refuse "no node where one is needed"
  | steps + 1, levels, place, ts => do
    if ← isNext ts then empty
    else node steps levels place

def blockItems : Nat → Nat → Build (List Nat)
  | 0, _ => refuse "a sequence without end"
  | steps + 1, levels => do
    if ← accept .blockEntry then
      let item ← nodeUnless steps levels .block [.blockEntry, .blockEnd]
      return item :: (← blockItems steps levels)
    else if ← accept .blockEnd then return []
    else refuse "a sequence with something else in it"

/-- The items of a sequence that is not indented. -/
def flushItems : Nat → Nat → Build (List Nat)
  | 0, _ => refuse "a sequence without end"
  | steps + 1, levels => do
    if ← accept .blockEntry then
      let item ← nodeUnless steps levels .block [.blockEntry, .key, .value, .blockEnd]
      return item :: (← flushItems steps levels)
    else return []

def blockEntries : Nat → Nat → Build (List (Nat × Nat))
  | 0, _ => refuse "a mapping without end"
  | steps + 1, levels => do
    let bounds := [.key, .value, .blockEnd]
    if ← accept .key then
      let key ← nodeUnless steps levels .blockValue bounds
      let value ← if ← accept .value then nodeUnless steps levels .blockValue bounds else empty
      return (key, value) :: (← blockEntries steps levels)
    else if ← accept .blockEnd then return []
    else refuse "a mapping with something else in it"

/-- The items of a flow sequence, up to its end. An entry with a key is a mapping of its own. -/
def flowItems : Nat → Nat → Bool → Build (List Nat)
  | 0, _, _ => refuse "a sequence without end"
  | steps + 1, levels, first => do
    if ← accept .flowSequenceEnd then return []
    if !first then
      if !(← accept .flowEntry) then refuse "items of a sequence without a comma"
    if ← accept .key then
      let inner ← deeper levels
      let item ← addMapping none .table do
        let entry ← flowEntry steps inner .flowSequenceEnd
        pure [entry]
      return item :: (← flowItems steps levels false)
    else if ← accept .flowSequenceEnd then return []
    else
      let item ← node steps levels .flow
      return item :: (← flowItems steps levels false)

def flowEntries : Nat → Nat → Bool → Build (List (Nat × Nat))
  | 0, _, _ => refuse "a mapping without end"
  | steps + 1, levels, first => do
    if ← accept .flowMappingEnd then return []
    if !first then
      if !(← accept .flowEntry) then refuse "entries of a mapping without a comma"
    if ← accept .key then
      let entry ← flowEntry steps levels .flowMappingEnd
      return entry :: (← flowEntries steps levels false)
    else if ← accept .flowMappingEnd then return []
    else
      let key ← node steps levels .flow
      let value ← empty
      return (key, value) :: (← flowEntries steps levels false)

/-- The entry behind the mark of a key in a flow collection that ends with `closing`. -/
def flowEntry : Nat → Nat → Token → Build (Nat × Nat)
  | 0, _, _ => refuse "a mapping without end"
  | steps + 1, levels, closing => do
    let bounds := [.flowEntry, closing]
    let key ← nodeUnless steps levels .flow (.value :: bounds)
    let value ← if ← accept .value then nodeUnless steps levels .flow bounds else empty
    return (key, value)

end

/-! ### Documents -/

/-- Takes the directives before a document, each handle and the version at most once, and gives what
the handles stand for. The first argument bounds the number of directives. -/
def directives : Nat → Bool → List (String × String) → Build (List (String × String))
  | 0, _, handles => pure handles
  | count + 1, versioned, handles => do
    match ← peek with
    | some (.directive d) =>
      skip
      match d with
      | .version major =>
        if versioned then refuse "a version given twice"
        if major != 1 then refuse "an unknown version"
        directives count true handles
      | .handle handle start =>
        if (handles.lookup handle).isSome then refuse "a handle declared twice"
        directives count versioned ((handle, start) :: handles)
      | .other => directives count versioned handles
    | _ => pure handles

/-- Whether a token cannot start the content of a document. -/
def isBetween : Token → Bool
  | .directive _ | .documentStart | .documentEnd => true
  | _ => false

/-- Passes over tokens equal to `t`. The first argument bounds their number. -/
def skipAll (t : Token) : Nat → Build Unit
  | 0 => pure ()
  | count + 1 => do
    if ← accept t then skipAll t count

def levelLimit : Nat := 490

/-- The only document that the tokens hold; none if they hold nothing. -/
def document (steps : Nat) : Build (Option Nat) := do
  let root ←
    match ← peek with
    | none => return none
    | some t =>
      if isBetween t && t != .documentEnd then
        let handles ← directives steps false []
        modify fun d => { d with handles := handles ++ Tag.handles }
        if !(← accept .documentStart) then refuse "a directive without a document"
        -- only behind its mark a document may be empty
        if (← peek).all isBetween then empty else node steps levelLimit .block
      else node steps levelLimit .block
  skipAll .documentEnd steps
  if (← peek).isSome then
    discard (directives steps false [])
    refuse "more than one document"
  return some root

end Build

/-- The nodes of the document that a source holds; none if there is nothing. -/
def ofSource? (s : Source) : Except Unreadable (Option Graph) := do
  let scanner := Scanner.ofSource s
  -- a character gives four tokens at most, and each of them takes a few steps
  let (root, d) ← (Build.document (32 * scanner.size)).run { scanner }
  pure (root.map fun root => ⟨d.nodes, d.ended.reverse, root⟩)

end CopperRoute.Yaml.Graph
