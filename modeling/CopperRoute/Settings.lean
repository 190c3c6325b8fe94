import CopperRoute.Fault
import CopperRoute.Number.Double
import CopperRoute.Value

/-!
# Settings

What footprints get where they do not say otherwise. The settings hold values as they were given;
whether a value is fit is checked when a footprint is built.
-/

namespace CopperRoute

inductive Setting where
  | width
  | viaSize
  | viaDrill
  | locked
  | precision
  | format
deriving Repr, DecidableEq

/-- All settings, in the order in which they are read and shown. -/
def Setting.all : List Setting := [.width, .viaSize, .viaDrill, .locked, .precision, .format]

def Setting.name : Setting → String
  | width => "width"
  | viaSize => "via_size"
  | viaDrill => "via_drill"
  | locked => "locked"
  | precision => "precision"
  | format => "format"

/-- The values of all settings. A precision of null stands for that of the format. -/
structure Settings where
  width : Value := .float 0.25
  viaSize : Value := .float 0.6
  viaDrill : Value := .float 0.3
  locked : Value := .bool false
  precision : Value := .null
  format : Value := .text "kicad8"

namespace Settings

def get (s : Settings) : Setting → Value
  | .width => s.width
  | .viaSize => s.viaSize
  | .viaDrill => s.viaDrill
  | .locked => s.locked
  | .precision => s.precision
  | .format => s.format

def put (s : Settings) (value : Value) : Setting → Settings
  | .width => { s with width := value }
  | .viaSize => { s with viaSize := value }
  | .viaDrill => { s with viaDrill := value }
  | .locked => { s with locked := value }
  | .precision => { s with precision := value }
  | .format => { s with format := value }

/-- What was put is what is there, and no other setting changes. -/
theorem get_put (s : Settings) (value : Value) (k other : Setting) :
    (s.put value k).get other = if other = k then value else s.get other := by
  cases k <;> cases other <;> rfl

end Settings

/-! ## Merging settings files

A settings file is a table of which the section `router` counts. Its entries are taken over one
after another in the order of the settings, each noted with the file that it came from. The first
entry that is not fit ends the merge; what was taken over before it stays. Names that are not known
are only warned of. The warnings come first: with a name among them that cannot be written nothing is
taken over.
-/

namespace Settings

def sectionName : String := "router"

def fullName (k : Setting) : String := sectionName ++ "." ++ k.name

/-- Settings with the files that they came from. -/
structure Merged where
  settings : Settings := {}
  sources : List (String × String) := []

namespace Merged

def source? (m : Merged) (k : Setting) : Option String :=
  (m.sources.find? (·.1 == fullName k)).map (·.2)

def sourceText (m : Merged) (k : Setting) : String := (m.source? k).getD "default"

def put (m : Merged) (k : Setting) (value : Value) (source : String) : Merged :=
  let name := fullName k
  { settings := m.settings.put value k
    sources :=
      -- a source that is replaced keeps its place
      if m.sources.any (·.1 == name) then
        m.sources.map fun e => if e.1 == name then (name, source) else e
      else m.sources ++ [(name, source)] }

end Merged

/-! ### Checks -/

/-- The value of a setting as it is kept, if the given one is fit: sizes as doubles, format names in
their plain form. -/
def accept (k : Setting) (value : Value) : Except (SettingsCause ⊕ Breakdown) Value :=
  let wrongType : Except (SettingsCause ⊕ Breakdown) Value :=
    .error (.inl (.wrongType k.name value))
  match k with
  | .width | .viaSize | .viaDrill =>
    let bad : Except (SettingsCause ⊕ Breakdown) Value := .error (.inl (.notPositive k.name))
    match value with
    | .int i =>
      match Number.ofInt? i with
      | none => .error (.inr .outOfRange)
      | some x => if 0 < i then .ok (.float x) else bad
    | .float x => if Number.isFinite x && 0 < x then .ok (.float x) else bad
    | _ => wrongType
  | .locked =>
    match value with
    | .bool b => .ok (.bool b)
    | _ => wrongType
  | .precision =>
    match value with
    | .int i => if 0 ≤ i then .ok (.int i) else .error (.inl .negativePrecision)
    | _ => wrongType
  | .format =>
    match value with
    | .text name =>
      match RecordFormat.ofName? name with
      | some format => .ok (.text format.name)
      | none => .error (.inl (.format name))
    | _ => wrongType

/-- The entry of a setting, as its value or as the fault that it makes in `source`. -/
def acceptFrom (source : String) (k : Setting) (value : Value) : Except Fault Value :=
  (accept k value).mapError fun
    | .inl cause => .ofWritable cause.isWritable (.settings cause source)
    | .inr cause => .breakdown cause

/-! ### Merging -/

/-- The result of a merge: the settings with what was taken over, the warnings, and the fault that
ended it. -/
structure Merge where
  merged : Merged
  warnings : List String
  fault : Option Fault

/-- Takes over the entries of `t` for the settings `ks`, up to the first that is not fit. -/
def mergeEntries (source : String) (t : Table) (m : Merged) : List Setting → Merged × Option Fault
  | [] => (m, none)
  | k :: rest =>
    match t.get? k.name with
    | none => mergeEntries source t m rest
    | some value =>
      match acceptFrom source k value with
      | .ok value => mergeEntries source t (m.put k value source) rest
      | .error fault => (m, some fault)

/-! ### Names that are not known -/

def isSettingName (name : String) : Bool := Setting.all.any (·.name == name)

def isKnownKey (key : Key) : Bool := key.toValue.text?.any isSettingName

def sectionOf? (t : Table) : Option Value := (t.get? sectionName).map Value.bare

def otherSections (t : Table) : List Key := (Table.keys t).filter (!·.isText sectionName)

/-- The names of a section that are no settings. -/
def otherNames (entries : Table) : List Key := (Table.keys entries).filter (!isKnownKey ·)

def unknownNameText (name source : String) : String := s!"Unknown config key '{name}' in {source}"

/-- Warns of names that are not known, up to the first that cannot be written. -/
def warningsOf (source front : String) (names : List Key) : List String :=
  (names.takeWhile Key.isWritable).map fun key => unknownNameText (front ++ key.shown) source

/-- Merges the table of the file `source` into the settings. -/
def merge (m : Merged) (t : Table) (source : String) : Merge :=
  let outer := warningsOf source "" (otherSections t)
  if (otherSections t).all Key.isWritable then
    match sectionOf? t with
    | none => ⟨m, outer, none⟩
    | some (.table entries) =>
      let warnings := outer ++ warningsOf source (sectionName ++ ".") (otherNames entries)
      if (otherNames entries).all Key.isWritable then
        let (merged, fault) := mergeEntries source entries m Setting.all
        ⟨merged, warnings, fault⟩
      else ⟨m, warnings, some (.breakdown .unfitValue)⟩
    | some _ => ⟨m, outer, some (.settings .notTable source)⟩
  else ⟨m, outer, some (.breakdown .unfitValue)⟩

end Settings

end CopperRoute
