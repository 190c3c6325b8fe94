import CopperRoute.Breakdown
import CopperRoute.Value

/-!
# Reports

What a user is told about a failure: a message, the context it happened in, and suggestions. The
kind of a report decides which particulars enter its context on their own account.

The context keeps the entries in the order in which they were first made. An entry that is there is
never replaced: neither by a particular of the report nor by `Report.note`, which adds an entry
later on.
-/

namespace CopperRoute

/-- Named circumstances of a failure, in the order in which they were first noted. -/
abbrev Context := List (String × Value)

namespace Context

/-- Adds an entry at the end, unless there is one under the same key. -/
def note (c : Context) (key : String) (value : Value) : Context :=
  if c.any (·.1 == key) then c else c ++ [(key, value)]

def note? (c : Context) (key : String) (value : Option Value) : Context :=
  match value with
  | some v => c.note key v
  | none => c

/-- Adds entries one after the other, each unless there is one under the same key. -/
def noteAll (c : Context) (entries : List (String × Value)) : Context :=
  entries.foldl (fun c e => c.note e.1 e.2) c

def isWritable (c : Context) : Bool := c.all (·.2.isWritable)

end Context

inductive Kind where
  /-- any failure of the router -/
  | general
  /-- a route that cannot be read as records -/
  | route
  /-- a route with a character or a group that is none of its items -/
  | malformed
  /-- a command before the route is ready for it -/
  | notReady
  /-- text that does not give the numbers it should -/
  | badValue
  /-- a route that asks for what its host does not offer -/
  | unsupported
  /-- a net that is not known -/
  | netLookup
  /-- a footprint parameter that is not fit -/
  | configuration
  /-- a placement file of the wrong form -/
  | fileFormat
  /-- a file that is not there -/
  | fileMissing
  /-- a settings file that cannot be used -/
  | settings
deriving Repr, DecidableEq

namespace Kind

/-- The wider kind that a kind belongs to. -/
def parent? : Kind → Option Kind
  | general | settings => none
  | malformed | notReady | badValue | unsupported => some route
  | route | netLookup | configuration | fileFormat | fileMissing => some general

/-- All wider kinds, the nearest first. -/
def ancestors (k : Kind) : List Kind :=
  match k.parent? with
  | none => []
  | some general => [general]
  | some p => [p, general]

def isRoute (k : Kind) : Bool := k == route || k.parent? == some route

end Kind

/-- Circumstances that a report may be given apart from its context. -/
structure Particulars where
  character : Option String := none
  text : Option String := none
  file : Option String := none
  route : Option String := none
  position : Option Int := none

structure Report where
  kind : Kind
  message : String
  context : Context
  suggestions : List String

namespace Report

/-- The context of a report: the given entries, then the particular of its own kind, then for the
failure of a route the route and the position in it. An empty file name counts as none. -/
def contextOf (kind : Kind) (context : Context) (p : Particulars) : Context :=
  let own : Context :=
    match kind with
    | .malformed => context.note? "character" (p.character.map fun c => .text (Text.quoted c))
    | .badValue => context.note? "text" (p.text.map .text)
    | .fileFormat => context.note? "file" ((p.file.filter (· ≠ "")).map .text)
    | _ => context
  if kind.isRoute then
    (own.note? "route" (p.route.map .text)).note? "position" (p.position.map .int)
  else own

def make (kind : Kind) (message : String) (p : Particulars) (context : Context)
    (suggestions : List String) : Report :=
  ⟨kind, message, contextOf kind context p, suggestions⟩

def note (r : Report) (key : String) (value : Value) : Report :=
  { r with context := r.context.note key value }

def noteAll (r : Report) (entries : List (String × Value)) : Report :=
  { r with context := r.context.noteAll entries }

/-- The lines of a section, or nothing if it is empty. -/
def titled (title : String) (lines : List String) : String :=
  if lines.isEmpty then ""
  else s!"\n\n{title}:" ++ String.join (lines.map fun l => "\n  " ++ l)

def fullText (r : Report) : String :=
  r.message ++ titled "Context" (r.context.map fun e => s!"{e.1}: {e.2.shown}") ++
    titled "Suggestions" (r.suggestions.map fun s => "- " ++ s)

/-- A report in full, as far as its context can be written. -/
def told (r : Report) : Except Breakdown String :=
  if r.context.isWritable then .ok r.fullText else .error .unfitValue

/-- Makes a report that is told at once, so that there is none without a text. -/
def create (kind : Kind) (message : String) (p : Particulars) (context : Context)
    (suggestions : List String) : Except Breakdown Report :=
  let r := make kind message p context suggestions
  r.told.map fun _ => r

end Report

end CopperRoute
