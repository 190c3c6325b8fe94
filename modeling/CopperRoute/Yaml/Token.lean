import CopperRoute.Yaml.Source

/-!
# YAML tokens

The units that a YAML document is read in: marks of its structure, most of which come from
indentation, and the names, tags and texts between them.

Tokens are read one by one, as they are asked for. The scanner keeps those that were read and not
yet taken, since a mark may come to stand before tokens that are there already.
-/

namespace CopperRoute.Yaml

inductive Directive where
  /-- the version of the language, by its first number -/
  | version (major : Nat)
  /-- the text that a handle stands for in tags -/
  | handle (handle start : String)
  | other
deriving Repr, DecidableEq

inductive Token where
  | directive (directive : Directive)
  | documentStart
  | documentEnd
  | blockSequence
  | blockMapping
  | blockEnd
  | flowSequence
  | flowSequenceEnd
  | flowMapping
  | flowMappingEnd
  | blockEntry
  | flowEntry
  | key
  | value
  /-- the node that was given a name -/
  | reference (name : String)
  /-- a name for the node that follows -/
  | label (name : String)
  /-- the type of the node that follows: its name, or a handle and the rest of its name -/
  | tag (handle : Option String) (name : String)
  /-- a text, and whether it stands without quotes -/
  | scalar (text : String) (plain : Bool)
deriving Repr, DecidableEq

/-- A place where a key may have begun that only a later colon shows to be one. -/
structure OpenKey where
  /-- how many tokens came before it -/
  place : Nat
  /-- whether it has to turn out to be a key -/
  required : Bool
  index : Nat
  line : Nat
  column : Nat

structure Scanner where
  cursor : Cursor
  /-- why nothing can be read behind the text that is left -/
  beyond : Option Unreadable
  /-- a bound for the steps of each loop: more than the text has characters -/
  size : Nat
  /-- the tokens that were read and not yet taken -/
  queue : List Token := []
  /-- how many tokens were taken -/
  taken : Nat := 0
  /-- whether the end of the text was reached -/
  done : Bool := false
  /-- how many flow collections are open -/
  flow : Nat := 0
  /-- the column of the open block; -1 outside of all -/
  indent : Int := -1
  /-- the columns of the blocks around it -/
  outer : List Int := []
  /-- whether a key may begin here -/
  keyAllowed : Bool := true
  /-- the places where keys may have begun, by the number of open flow collections -/
  openKeys : List (Nat × OpenKey) := []

def Scanner.ofSource (s : Source) : Scanner :=
  { cursor := { rest := s.text }, beyond := s.beyond, size := s.text.length + 1 }

abbrev Scan := StateT Scanner (Except Unreadable)

namespace Scan

def refuse {α : Type} (detail : String) : Scan α := throw (.malformed detail)

def rest : Scan (List Char) := do pure (← get).cursor.rest

/-- A bound for the steps of a loop. -/
def size : Scan Nat := do pure (← get).size

/-- The character `n` places on; none at the end of the text. -/
def peekAt (n : Nat) : Scan (Option Char) := do
  let s ← get
  match s.cursor.rest[n]?, s.beyond with
  | none, some fault => throw fault
  | c, _ => pure c

def peek : Scan (Option Char) := peekAt 0

def ahead (n : Nat) : Scan (List Char) := do
  discard (peekAt (n - 1))
  pure ((← rest).take n)

/-- Passes over `n` characters. What comes behind them has to be there. -/
def forward (n : Nat) : Scan Unit := do
  discard (peekAt n)
  modify fun s => { s with cursor := s.cursor.skip n }

def column : Scan Nat := do pure (← get).cursor.column

def emit (t : Token) : Scan Unit := modify fun s => { s with queue := s.queue ++ [t] }

def allowKey (allowed : Bool) : Scan Unit := modify fun s => { s with keyAllowed := allowed }

def inFlow : Scan Bool := do pure ((← get).flow != 0)

def takeWhile (p : Char → Bool) : Scan (List Char) := do
  let cs := (← rest).takeWhile p
  forward cs.length
  pure cs

/-- Takes a line end, if there is one. All of them but the two separators count as a line feed. -/
def lineBreak : Scan (List Char) := do
  match ← peek with
  | none => pure []
  | some c =>
    if c == '\r' then
      forward (if (← peekAt 1) == some '\n' then 2 else 1)
      pure ['\n']
    else if c == '\n' || c == '\x85' then
      forward 1
      pure ['\n']
    else if isBreak c then
      forward 1
      pure [c]
    else pure []

def atDocumentMark : Scan Bool := do
  let mark := String.ofList (← ahead 3)
  if mark == "---" || mark == "..." then return endsWord (← peekAt 3)
  else return false

end Scan

end CopperRoute.Yaml
