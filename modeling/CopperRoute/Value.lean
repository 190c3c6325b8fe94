import CopperRoute.Moment
import CopperRoute.Record
import CopperRoute.Number.Numeral
import CopperRoute.Number.Shortest
import CopperRoute.Text.Printable

/-!
# Loose values

The content of a settings file or a placement file before it has been checked: null, truth values,
numbers, text, moments, bytes, lists, sets and tables. A caller that builds footprints itself may
also put a net in place.

A table keeps its entries in the order in which their keys first appeared, and `Table.insert` leaves
the place of a key that is already there. Keys are compared as numbers where both are numbers or
truth values, so that `1`, `1.0` and `true` are one key.

A document may hold a list or table that holds itself. Such a value is a knot: it carries a label
that tells it from others, and its inside is unrolled as far as anything looks. The written form of
a knot stops where a label comes again.
-/

namespace CopperRoute

inductive Key where
  | null
  | bool (value : Bool)
  | int (value : Int)
  | float (value : Float)
  | text (value : String)
  | moment (value : Moment)
  | bytes (content : List UInt8)

inductive Value where
  | null
  | bool (value : Bool)
  | int (value : Int)
  | float (value : Float)
  | text (value : String)
  | moment (value : Moment)
  | bytes (content : List UInt8)
  | list (items : List Value)
  | pair (first second : Value)
  | set (members : List Key)
  | table (entries : List (Key × Value))
  | net (value : Net)
  /-- a list or table that holds itself, under its label -/
  | knot (label : Nat) (body : Value)

instance : Inhabited Value := ⟨.null⟩

/-- The entries of a table, in the order of their keys' first appearance. -/
abbrev Table := List (Key × Value)

/-! ### Keys -/

namespace Key

def toValue : Key → Value
  | null => .null
  | bool b => .bool b
  | int i => .int i
  | float x => .float x
  | text s => .text s
  | moment m => .moment m
  | bytes bs => .bytes bs

/-- The key that a value can serve as; nets and what holds other values cannot. -/
def ofValue? : Value → Option Key
  | .null => some null
  | .bool b => some (bool b)
  | .int i => some (int i)
  | .float x => some (float x)
  | .text s => some (text s)
  | .moment m => some (moment m)
  | .bytes bs => some (bytes bs)
  | .list _ | .pair .. | .set _ | .table _ | .net _ | .knot .. => none

/-- The whole number that a key counts as, if any. -/
def whole? : Key → Option Int
  | bool b => some (if b then 1 else 0)
  | int i => some i
  | float x =>
    match Number.exact x with
    | .finite v => if v.isWhole then some v.truncate else none
    | _ => none
  | null | text _ | moment _ | bytes _ => none

/-- Whether two keys name the same entry. What is no number counts as one key. -/
def same (a b : Key) : Bool :=
  match a, b with
  | null, null => true
  | text s, text t => s == t
  | float x, float y => x == y || (x.isNaN && y.isNaN)
  | moment m, moment n => m.same n
  | bytes bs, bytes cs => bs == cs
  | a, b =>
    match a.whole?, b.whole? with
    | some i, some j => i == j
    | _, _ => false

def isText (s : String) : Key → Bool
  | text t => t == s
  | _ => false

end Key

/-! ### Tables -/

namespace Table

def get? (t : Table) (s : String) : Option Value := (t.find? (·.1.isText s)).map (·.2)

/-- Puts `value` under `key`: at the place of the same key if there is one, at the end if not. -/
def insert {α : Type} (t : List (Key × α)) (key : Key) (value : α) : List (Key × α) :=
  if t.any (·.1.same key) then t.map fun e => if e.1.same key then (e.1, value) else e
  else t ++ [(key, value)]

/-- The table of the given entries, where of two values under one key the last counts. -/
def ofEntries {α : Type} (entries : List (Key × α)) : List (Key × α) :=
  entries.foldl (fun t e => insert t e.1 e.2) []

def keys (t : Table) : List Key := t.map (·.1)

end Table

/-! ### The written form -/

def Net.written (n : Net) : String := s!"Net(index={n.index}, name={Text.quoted n.name})"

namespace Key

def written : Key → String
  | null => "None"
  | bool b => if b then "True" else "False"
  | int i => toString i
  | float x => Number.text x
  | text s => Text.quoted s
  | moment m => m.written
  | bytes bs => Text.quotedBytes bs

/-- Whether a key can be written: a whole number that is too long cannot. -/
def isWritable : Key → Bool
  | int i => Number.isWritable i
  | _ => true

end Key

namespace Value

/-- A value without the label of a knot. -/
def bare : Value → Value
  | knot _ body => body.bare
  | v => v

/-- What stands in the written form for a value inside itself. -/
def ellipsis : Value → String
  | table _ => "\x7b...\x7d"
  | _ => "[...]"

def writtenSet (members : List Key) : String :=
  if members.isEmpty then "set()"
  else "\x7b" ++ ", ".intercalate (members.map Key.written) ++ "\x7d"

mutual

/-- A value in written form, text quoted, inside of the knots with the labels `around`. -/
def writtenIn (around : List Nat) : Value → String
  | null => "None"
  | bool b => if b then "True" else "False"
  | int i => toString i
  | float x => Number.text x
  | text s => Text.quoted s
  | moment m => m.written
  | bytes bs => Text.quotedBytes bs
  | list items => "[" ++ ", ".intercalate (writtenItems around items) ++ "]"
  | pair a b => "(" ++ writtenIn around a ++ ", " ++ writtenIn around b ++ ")"
  | set members => writtenSet members
  | table entries => "\x7b" ++ ", ".intercalate (writtenEntries around entries) ++ "\x7d"
  | net n => n.written
  | knot label body =>
    if around.contains label then body.ellipsis else writtenIn (label :: around) body

def writtenItems (around : List Nat) : List Value → List String
  | [] => []
  | v :: rest => writtenIn around v :: writtenItems around rest

def writtenEntries (around : List Nat) : List (Key × Value) → List String
  | [] => []
  | (k, v) :: rest => (k.written ++ ": " ++ writtenIn around v) :: writtenEntries around rest

end

def written (v : Value) : String := writtenIn [] v

mutual

def isWritableIn (around : List Nat) : Value → Bool
  | int i => Number.isWritable i
  | net n => Number.isWritable n.index
  | list items => areWritable around items
  | pair a b => isWritableIn around a && isWritableIn around b
  | set members => members.all Key.isWritable
  | table entries => haveWritable around entries
  | knot label body => around.contains label || isWritableIn (label :: around) body
  | null | bool _ | float _ | text _ | moment _ | bytes _ => true

def areWritable (around : List Nat) : List Value → Bool
  | [] => true
  | v :: rest => isWritableIn around v && areWritable around rest

def haveWritable (around : List Nat) : List (Key × Value) → Bool
  | [] => true
  | (k, v) :: rest => k.isWritable && isWritableIn around v && haveWritable around rest

end

/-- Whether a value can be written: a whole number that is too long cannot, nor what holds one. -/
def isWritable (v : Value) : Bool := isWritableIn [] v

/-- A value as it is shown inside a message: text and moments stand for themselves. -/
def shown : Value → String
  | text s => s
  | moment m => m.text
  | net n => n.text
  | v => v.written

def typeName : Value → String
  | null => "NoneType"
  | bool _ => "bool"
  | int _ => "int"
  | float _ => "float"
  | text _ => "str"
  | moment m => m.typeName
  | bytes _ => "bytes"
  | list _ => "list"
  | pair .. => "tuple"
  | set _ => "set"
  | table _ => "dict"
  | net _ => "Net"
  | knot _ body => body.typeName

/-- Whether a value counts as given: null, false, zero and whatever is empty do not. -/
def isGiven : Value → Bool
  | null => false
  | bool b => b
  | int i => i != 0
  | float x => x != 0
  | text s => !s.isEmpty
  | bytes bs => !bs.isEmpty
  | list items => !items.isEmpty
  | set members => !members.isEmpty
  | table entries => !entries.isEmpty
  | knot _ body => body.isGiven
  | moment _ | pair .. | net _ => true

def text? : Value → Option String
  | text s => some s
  | _ => none

end Value

def Key.shown (k : Key) : String := k.toValue.shown

end CopperRoute
