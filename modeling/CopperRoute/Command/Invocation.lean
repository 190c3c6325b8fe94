import CopperRoute.Command.Arguments
import CopperRoute.Number.Numeral
import CopperRoute.Settings

/-!
# Invocations

What the user asks for. The first word among the arguments names a command, and all behind it
belongs to that command, which reads it by options of its own. Arguments that nothing takes are
refused only after both readings, so that a plea for help among them still counts.
-/

namespace CopperRoute.Command

/-! ### Requests -/

structure Overrides where
  width : Option Float := none
  viaSize : Option Float := none
  viaDrill : Option Float := none
  locked : Bool := false
  precision : Option Int := none
  format : Option String := none

def Overrides.get? (o : Overrides) : Setting → Option Value
  | .width => o.width.map .float
  | .viaSize => o.viaSize.map .float
  | .viaDrill => o.viaDrill.map .float
  | .locked => if o.locked then some (.bool true) else none
  | .precision => o.precision.map .int
  | .format => o.format.map .text

def Overrides.apply (o : Overrides) (s : Settings) : Settings :=
  Setting.all.foldl (fun s k => ((o.get? k).map fun v => s.put v k).getD s) s

/-- Overrides win over what the settings say. -/
theorem Overrides.get_apply (o : Overrides) (s : Settings) (k : Setting) :
    (o.apply s).get k = (o.get? k).getD (s.get k) := by
  have step (j : Setting) (s : Settings) :
      (((o.get? j).map fun v => s.put v j).getD s).get k =
        if k = j then (o.get? k).getD (s.get k) else s.get k := by
    cases h : o.get? j with
    | none =>
      by_cases hk : k = j
      · subst hk
        simp [h]
      · simp [hk]
    | some v =>
      by_cases hk : k = j
      · subst hk
        simp [h, Settings.get_put]
      · simp [hk, Settings.get_put]
  simp only [apply, Setting.all, List.foldl_cons, List.foldl_nil, step]
  cases k <;> simp

inductive SettingsAction where
  | display
  | create
  | paths
deriving Repr, DecidableEq

inductive Request where
  /-- write the records of one route -/
  | route (route anchor : String) (net : Option String) (nets : String) (overrides : Overrides)
  /-- write the footprints of a placement file -/
  | render (file : String) (output : Option String) (globalNets : Bool) (overrides : Overrides)
  /-- check the footprints of a placement file -/
  | check (file : String) (json quiet : Bool)
  /-- show or create settings files -/
  | settings (action : SettingsAction) (ofUser : Bool)

/-- What the user asks for. Without a request it is help. -/
structure Invocation where
  verbose : Bool
  request : Option Request

/-! ### Options -/

def anything (_ : String) : Bool := true

def isNumber (s : String) : Bool := (Number.literal? s).isSome

def isWhole (s : String) : Bool := (Number.wholeLiteral? s).isSome

def helpFlag : Flag := { key := "help", names := ["-h", "--help"], kind := .help }

/-- The options in front of the command. -/
def mainFlags : List Flag :=
  [helpFlag,
    { key := "version", names := ["--version"], kind := .version },
    { key := "verbose", names := ["-v", "--verbose"], kind := .switch }]

def overrideFlags : List Flag :=
  [{ key := "width", names := ["--width"], kind := .value isNumber },
    { key := "via-size", names := ["--via-size"], kind := .value isNumber },
    { key := "via-drill", names := ["--via-drill"], kind := .value isNumber },
    { key := "locked", names := ["--locked"], kind := .switch },
    { key := "format", names := ["--format"], kind := .value ["kicad8", "legacy"].contains },
    { key := "precision", names := ["--precision"], kind := .value isWhole }]

def routeFlags : List Flag :=
  [helpFlag,
    { key := "at", names := ["--at"], kind := .value anything },
    { key := "net", names := ["--net"], kind := .value anything },
    { key := "nets", names := ["--nets"], kind := .value anything }] ++ overrideFlags

def renderFlags : List Flag :=
  [helpFlag,
    { key := "output", names := ["-o", "--output"], kind := .value anything },
    { key := "no-global-nets", names := ["--no-global-nets"], kind := .switch }] ++ overrideFlags

def checkFlags : List Flag :=
  [helpFlag,
    { key := "format", names := ["--format"], kind := .value ["table", "json"].contains },
    { key := "quiet", names := ["-q", "--quiet"], kind := .switch }]

def settingsFlags : List Flag :=
  [helpFlag,
    { key := "show", names := ["--show"], kind := .switch, grouped := true },
    { key := "init", names := ["--init"], kind := .switch, grouped := true },
    { key := "paths", names := ["--paths"], kind := .switch, grouped := true },
    { key := "user", names := ["--user"], kind := .switch }]

/-! ### Reading -/

namespace Taken

def word (t : Taken) : String := (t.words.map (·.1)).getD ""

def overrides (t : Taken) : Overrides :=
  { width := (t.get? "width").bind Number.literal?
    viaSize := (t.get? "via-size").bind Number.literal?
    viaDrill := (t.get? "via-drill").bind Number.literal?
    locked := t.has "locked"
    precision := (t.get? "precision").bind Number.wholeLiteral?
    format := t.get? "format" }

def routeRequest (t : Taken) : Request :=
  .route t.word ((t.get? "at").getD "0 0 0") (t.get? "net") ((t.get? "nets").getD "") t.overrides

def renderRequest (t : Taken) : Request :=
  .render t.word (t.get? "output") (!t.has "no-global-nets") t.overrides

def checkRequest (t : Taken) : Request :=
  .check t.word (t.get? "format" == some "json") (t.has "quiet")

def settingsRequest (t : Taken) : Request :=
  .settings (if t.has "init" then .create else if t.has "paths" then .paths else .display)
    (t.has "user")

end Taken

/-- A command: its name, how its arguments are read, and what they ask for. -/
structure Verb where
  name : String
  flags : List Flag
  words : Positional
  request : Taken → Request

def verbs : List Verb :=
  [⟨"route", routeFlags, .word, Taken.routeRequest⟩,
    ⟨"render", renderFlags, .word, Taken.renderRequest⟩,
    ⟨"check", checkFlags, .word, Taken.checkRequest⟩,
    ⟨"config", settingsFlags, .none, Taken.settingsRequest⟩]

/-- Refuses arguments that nothing took. -/
def allTaken (extras : List String) : Except Stop Unit :=
  if extras.isEmpty then .ok () else .error .refused

namespace Invocation

def ofArguments (args : List String) : Except Stop Invocation := do
  let outer ← take mainFlags .command args
  let verbose := outer.has "verbose"
  match outer.words with
  | none =>
    allTaken outer.extras
    pure ⟨verbose, none⟩
  | some (name, rest) =>
    match verbs.find? (·.name == name) with
    | none => throw .refused
    | some v =>
      let inner ← take v.flags v.words rest
      allTaken (outer.extras ++ inner.extras)
      pure ⟨verbose, some (v.request inner)⟩

end Invocation

end CopperRoute.Command
