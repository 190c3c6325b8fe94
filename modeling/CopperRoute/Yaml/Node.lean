/-!
# YAML nodes

What a document is made of before its values are looked at: nodes, each of a type.
-/

namespace CopperRoute.Yaml

/-! ## Types of YAML nodes

A node has a type, which its tag names or its form shows. The types of the language itself have
names with a common start; a node with a name of another kind has no value.
-/

inductive Tag where
  | null
  | bool
  | int
  | float
  | text
  | moment
  | bytes
  | list
  | table
  | set
  /-- a list of entries -/
  | pairs
  /-- the key under which a mapping takes over the entries of others -/
  | merge
  /-- the key under which a mapping has the value that it is as a scalar -/
  | default
  /-- a type that is not known -/
  | other
deriving Repr, DecidableEq

namespace Tag

/-- The tag that leaves the type to the form of the node. -/
def unspecified : String := "!"

/-- The common start of the names of the types of the language itself. -/
def coreStart : String := "tag:yaml.org,2002:"

def coreNames : List (String × Tag) :=
  [("null", null), ("bool", bool), ("int", int), ("float", float), ("str", text),
    ("timestamp", moment), ("binary", bytes), ("seq", list), ("map", table), ("set", set),
    ("omap", pairs), ("pairs", pairs), ("merge", merge), ("value", default)]

def ofName (name : String) : Tag :=
  ((coreNames.find? fun e => coreStart ++ e.1 == name).map (·.2)).getD other

/-- What the handles of tags stand for where no directive says otherwise. -/
def handles : List (String × String) := [("!", "!"), ("!!", coreStart)]

def isCollection : Tag → Bool
  | list | table | set | pairs => true
  | null | bool | int | float | text | moment | bytes | merge | default | other => false

end Tag

/-! ## YAML nodes

A node is a text, a sequence or a mapping, with its type. A document may refer to a node in several
places, also inside the node itself, so what a node holds is told by the numbers of other nodes.
-/

inductive Node where
  | scalar (tag : Tag) (text : String)
  | sequence (tag : Tag) (items : List Nat)
  | mapping (tag : Tag) (entries : List (Nat × Nat))

namespace Node

instance : Inhabited Node := ⟨.scalar .null ""⟩

def tag : Node → Tag
  | scalar t _ | sequence t _ | mapping t _ => t

def retag (t : Tag) : Node → Node
  | scalar _ text => scalar t text
  | sequence _ items => sequence t items
  | mapping _ entries => mapping t entries

end Node

structure Graph where
  /-- the nodes by number -/
  nodes : Array Node
  /-- the numbers of all nodes in the order in which they came to their end -/
  order : List Nat
  /-- the number of the node that the document is -/
  root : Nat

end CopperRoute.Yaml
