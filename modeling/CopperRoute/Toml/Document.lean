import CopperRoute.Toml.Moment
import CopperRoute.Toml.Number

/-!
# TOML documents

    text ──ofText──▶ Table

A document is a list of lines: a key with a value, a header that opens a table, or a header that
adds a table to an array. Nothing may be said twice. To this end the reader keeps, beside the table
it builds, the paths that are closed: those of tables that a header or a dotted key has defined, and
those of inline tables and arrays, which nothing outside may extend. Dotted keys close their path
only when the next header comes.
-/

namespace CopperRoute.Toml

open Reader

/-! ### Keys -/

/-- One part of a key: bare, or a text on one line. -/
def keyPart : Reader String := do
  let bare ← takeWhile isBareKey
  if !bare.isEmpty then pure (String.ofList bare)
  else if ← accept "'" then String.ofList <$> literal
  else if ← accept "\"" then String.ofList <$> basic false
  else refuse "no key where one is needed"

/-- The parts of a key behind the first. The argument bounds their number. -/
def keyRest : Nat → Reader (List String)
  | 0 => pure []
  | parts + 1 => do
    spaces
    if ← accept "." then
      spaces
      let part ← keyPart
      return part :: (← keyRest parts)
    else pure []

def key : Reader (List String) := do
  let cs ← get
  let first ← keyPart
  return first :: (← keyRest cs.length)

/-! ### Tables -/

/-- Changes the table at `path` below `t`, which is made if there is none. Where an array of tables
stands in the way its last table counts, if `arrays` allows. -/
def atPath (arrays : Bool) (change : Table → Option Table) : List String → Table → Option Table
  | [], t => change t
  | name :: rest, t =>
    match t.get? name with
    | none => do
      let inner ← atPath arrays change rest []
      pure (Table.insert t (.text name) (.table inner))
    | some (.table inner) => do
      let inner ← atPath arrays change rest inner
      pure (Table.insert t (.text name) (.table inner))
    | some (.list items) =>
      match arrays, items.getLast? with
      | true, some (.table inner) => do
        let inner ← atPath arrays change rest inner
        pure (Table.insert t (.text name) (.list (items.dropLast ++ [.table inner])))
      | _, _ => none
    | some _ => none

def putNew (name : String) (value : Value) (t : Table) : Option Table :=
  match t.get? name with
  | none => some (t ++ [(.text name, value)])
  | some _ => none

/-- Adds an empty table to the array under a name. -/
def addTable (name : String) (t : Table) : Option Table :=
  match t.get? name with
  | none => some (t ++ [(.text name, .list [.table []])])
  | some (.list items) => some (Table.insert t (.text name) (.list (items ++ [.table []])))
  | some _ => none

def isNested : Value → Bool
  | .table _ | .list _ => true
  | _ => false

/-! ### Values -/

/-- Whether `path` lies in or below one of the `closed` ones. -/
def isBelow (closed : List (List String)) (path : List String) : Bool :=
  closed.any (·.isPrefixOf path)

/-- Adds an entry of an inline table, if none of the `closed` paths is in its way. -/
def addInline (t : Table) (closed : List (List String)) (path : List String) (value : Value) :
    Option Table :=
  if isBelow closed path then none
  else atPath false (putNew (path.getLast?.getD "") value) path.dropLast t

/-- How deeply values may be nested, an array counting two and an inline table three. -/
def levelLimit : Nat := 986

/-- The levels that are left within a value that counts `count` of them. -/
def deeper (count levels : Nat) : Reader Nat :=
  if levels < count then throw (.breakdown .tooDeep) else pure (levels - count)

mutual

/-- A value. The first argument of this and the next two bounds the number of steps, the second
tells how many levels are left. -/
def value : Nat → Nat → Reader Value
  | 0, _ => refuse "no value where one is needed"
  | steps + 1, levels => do
    if let some text ← text? then return .text (String.ofList text)
    if ← accept "true" then return .bool true
    if ← accept "false" then return .bool false
    if ← accept "[" then
      let levels ← deeper 2 levels
      gaps
      if ← accept "]" then return .list []
      return .list (← items steps levels)
    if ← accept "\x7b" then
      let levels ← deeper 3 levels
      spaces
      if ← accept "\x7d" then return .table []
      return .table (← entries steps levels [] [])
    if let some m ← moment? then return .moment m
    match ← number? with
    | some v => return v
    | none => refuse "no value where one is needed"

/-- The items of an array from the next one on. -/
def items : Nat → Nat → Reader (List Value)
  | 0, _ => refuse "an array without end"
  | steps + 1, levels => do
    let item ← value steps levels
    gaps
    if ← accept "]" then return [item]
    if !(← accept ",") then refuse "an array without end"
    gaps
    if ← accept "]" then return [item]
    return item :: (← items steps levels)

/-- The entries of an inline table from the next one on, added to `t`. -/
def entries : Nat → Nat → Table → List (List String) → Reader Table
  | 0, _, _, _ => refuse "an inline table without end"
  | steps + 1, levels, t, closed => do
    let path ← key
    if !(← accept "=") then refuse "no value behind a key"
    spaces
    let v ← value steps levels
    match addInline t closed path v with
    | none => refuse "a key of an inline table twice"
    | some t =>
      spaces
      if ← accept "\x7d" then return t
      if !(← accept ",") then refuse "an inline table without end"
      spaces
      -- what is complete cannot be extended by a later dotted key
      entries steps levels t (if isNested v then path :: closed else closed)

end

/-! ### Lines -/

structure Draft where
  table : Table := []
  /-- the path of the open table -/
  header : List String := []
  /-- paths that no header may define any more, and no dotted key extend -/
  defined : List (List String) := []
  /-- paths of dotted keys that count as defined from the next header on -/
  pending : List (List String) := []
  /-- paths of values that nothing may extend -/
  frozen : List (List String) := []

namespace Draft

/-- The draft at a new header: what dotted keys have defined counts from here on. -/
def settle (d : Draft) : Draft := { d with defined := d.pending ++ d.defined, pending := [] }

def openTable (d : Draft) (path : List String) : Option Draft := do
  if d.defined.contains path || isBelow d.frozen path then none
  else
    let table ← atPath true some path d.table
    pure { d with table, header := path, defined := path :: d.defined }

/-- Opens a new table of the array at `path`. What was said of the tables below the last one does
not bind the new one. -/
def openItem (d : Draft) (path : List String) : Option Draft := do
  if isBelow d.frozen path then none
  else
    let table ← atPath true (addTable (path.getLast?.getD "")) path.dropLast d.table
    -- the tables of the item before it may be opened once more
    let keep := d.defined.filter (!path.isPrefixOf ·)
    pure { d with
      table
      header := path
      defined := path :: keep
      frozen := d.frozen.filter (!path.isPrefixOf ·) }

def dotted (d : Draft) (path : List String) : List (List String) :=
  (List.range (path.length - 1)).map fun n => d.header ++ path.take (n + 1)

/-- Puts a value into the open table. -/
def put (d : Draft) (path : List String) (value : Value) : Option Draft := do
  let through := d.dotted path
  -- the table that takes the last part of the key
  let parent := d.header ++ path.dropLast
  if through.any d.defined.contains || isBelow d.frozen parent then none
  else
    let table ← atPath true (putNew (path.getLast?.getD "") value) parent d.table
    let frozen := if isNested value then (d.header ++ path) :: d.frozen else d.frozen
    pure { d with table, frozen, pending := through ++ d.pending }

end Draft

def statement (d : Draft) (steps : Nat) : Reader Draft := do
  if ← accept "[[" then
    spaces
    let path ← key
    match d.settle.openItem path with
    | none => refuse "a table twice"
    | some d =>
      if ← accept "]]" then pure d
      else refuse "a header without end"
  else if ← accept "[" then
    spaces
    let path ← key
    match d.settle.openTable path with
    | none => refuse "a table twice"
    | some d =>
      if ← accept "]" then pure d
      else refuse "a header without end"
  else
    let path ← key
    if !(← accept "=") then refuse "no value behind a key"
    spaces
    let v ← value steps levelLimit
    match d.put path v with
    | none => refuse "a key twice"
    | some d => pure d

/-- The lines from here to the end, taken into the draft. The first argument bounds their number. -/
def lines : Nat → Draft → Reader Draft
  | 0, d => pure d
  | steps + 1, d => do
    spaces
    let d ←
      match ← peek? with
      | none => pure d
      | some c => if c == '\n' || c == '#' then pure d else statement d steps
    spaces
    comment
    match ← peek? with
    | none => pure d
    | some c =>
      if c == '\n' then
        skip 1
        lines steps d
      else refuse "text behind the end of a line"

/-- The text with all line ends written alike. -/
def plainLines : List Char → List Char
  | '\r' :: '\n' :: rest => '\n' :: plainLines rest
  | c :: rest => c :: plainLines rest
  | [] => []

def ofText (text : String) : Except Unreadable Table :=
  let cs := plainLines text.toList
  (fun r => r.1.table) <$> (lines (2 * cs.length + 2) {}).run cs

end CopperRoute.Toml
