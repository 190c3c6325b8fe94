import CopperRoute.Check
import CopperRoute.Command.Invocation
import CopperRoute.Command.Outcome
import CopperRoute.Placement
import CopperRoute.Settings.Files

/-!
# Commands

The program as a function: from its arguments and the file tree around it to what it leaves behind.

    arguments ──ofArguments──▶ Invocation ──run──▶ Outcome

Each command has a section of its own.
-/

namespace CopperRoute.Command

/-! ## Commands that write records

One route given on the command line, or all footprints of a placement file.
-/

/-! ### A single route -/

/-- The net names of an option: what stands between commas, unless it is blank. -/
def netNames (s : String) : List String :=
  ((s.splitOn ",").map Text.trimmed).filter (!·.isEmpty)

/-- The net of an option. Digits alone give its index, which has to be a whole number, and anything
else its name. -/
def netValue (net : Option String) : Except Breakdown Value :=
  match net with
  | none => .ok .null
  | some s =>
    if !s.isEmpty && s.toList.all Text.isDigitLike then
      match Number.wholeLiteral? s with
      | some i => .ok (.int i)
      | none => .error .unfitValue
    else .ok (.text s)

def routeText (route anchor : String) (net : Option String) (nets : String) (settings : Settings) :
    Session String := do
  let anchor ← (Anchor.ofOption anchor).mapError Fault.anchor
  Session.register (netNames nets)
  let net ← Session.orBreak (netValue net)
  let params : Value := .table [(.text "net", net), (.text "route", .text route)]
  let footprint ← Footprint.ofParameters params settings
  footprint.render anchor true

def runRoute (h : Host) (route anchor : String) (net : Option String) (nets : String)
    (overrides : Overrides) : Outcome :=
  withSettings h (fun s => routeText route anchor net nets (overrides.apply s))
    fun o _ text => { o with output := .text text }

/-! ### A placement file -/

/-- Writes a text to a file, in directories that are made where they are missing. -/
def deliver (o : Outcome) (current : Place) (path : Path) (text : String) (footprints : Nat) :
    Outcome :=
  -- directories that were made stay, even where the file cannot be written
  match o.disk.makeDirectories current path.parent with
  | (disk, some b) => { o with disk }.broken b
  | (disk, none) =>
    match disk.write current path text.toUTF8 with
    | .error b => { o with disk }.broken b
    | .ok disk =>
      { o with disk }.complain s!"Wrote {footprints} footprint(s) to {path.text}"

def runRender (h : Host) (file : String) (output : Option String) (globalNets : Bool)
    (overrides : Overrides) : Outcome :=
  let work (s : Settings) : Session (Nat × String) := do
    let p ← Placement.ofFile h.site.disk h.site.current (Path.ofText file) (overrides.apply s)
    let text ← p.render globalNets
    pure (p.instances.length, text)
  withSettings h work fun o _ (footprints, text) =>
    match output with
    | none | some "" => { o with output := .text text }
    | some path => deliver o h.site.current (Path.ofText path) text footprints

/-! ## The command that checks

The routes of a placement file are run and reported: as a table with a sentence below it, as the
complaints alone, or as JSON. The code is one if any footprint failed.
-/

def findingColumns : List String := ["Footprint", "Segments", "Vias", "Length (mm)", "Status"]

/-- The cells of a finding under `findingColumns`: the name, the counts, the length and what is
wrong, in red, or that nothing is, in green. -/
def findingCells (f : Finding) : List (List Char) :=
  [Markup.escaped f.name.toList, (toString f.segments).toList, (toString f.vias).toList,
    (Number.fixedText f.length 3).toList,
    f.error.elim (Markup.coloured "green" "ok".toList) (Markup.coloured "red" ·.toList)]

def findingsGrid (file : String) (fs : List Finding) : Grid :=
  { title := "Routes: ".toList ++ Markup.escaped file.toList
    header := findingColumns.map String.toList
    rows := fs.map findingCells }

/-- What is wrong with a footprint, as it is shown behind its name. -/
def complaint? (f : Finding) : Option String :=
  f.error.map fun message =>
    let markup :=
      Markup.coloured "red" f.name.toList ++ ": ".toList ++ Markup.escaped message.toList
    let lines := ((Markup.shown markup).splitOn '\n').map Text.expandTabs
    String.ofList (['\n'].intercalate lines) ++ "\n"

def findingsOutput (file : String) (json quiet : Bool) (fs : List Finding) : Output :=
  if json then .text ((Summary.report fs).toText ++ "\n")
  else if quiet then .text (String.join (fs.filterMap complaint?))
  else .grid (findingsGrid file fs) (Summary.ofFindings fs).sentence

def runCheck (h : Host) (file : String) (json quiet : Bool) : Outcome :=
  let work (s : Settings) : Session Placement :=
    Placement.ofFile h.site.disk h.site.current (Path.ofText file) s
  withSettings h work fun o board p =>
    let (result, board) := p.check.on board
    let o := { o with errors := h.verbosity.shown board.log }
    match result with
    -- faults of routes are findings, so this is none that is reported
    | .error fault => { o with ending := .broken fault }
    | .ok fs =>
      { o with
        ending := .finished (if (Summary.ofFindings fs).isOk then 0 else 1)
        output := findingsOutput file json quiet fs }

/-! ## The command for settings files

It shows the settings that hold with the files that they came from, shows where settings files are
looked for, or creates one from the template.
-/

/-! ### The settings that hold -/

def settingText : Value → String
  | .text s => "\"" ++ s ++ "\""
  | .bool b => if b then "true" else "false"
  | .null => "# not set"
  | v => v.shown

/-- The last name of a file's path, which is enough to tell settings files apart. -/
def fileNameOf (source : String) : String := ((Path.ofText source).names.getLast?).getD ""

def settingLine (m : Settings.Merged) (k : Setting) : String :=
  let source := ((m.source? k).map fileNameOf).getD (m.sourceText k)
  s!"{k.name} = {settingText (m.settings.get k)}  # from: {source}\n"

def settingsText (m : Settings.Merged) (ks : List Setting) : String :=
  "# Effective ergogen-router configuration\n\n[router]\n" ++ String.join (ks.map (settingLine m))

def displaySettings (site : Settings.Site) : Outcome :=
  let merge := Settings.load site site.current
  let o : Outcome := { disk := site.disk, warnings := merge.warnings }
  match merge.fault with
  | some fault => o.failed fault
  | none =>
    -- what stands before a value that cannot be written is shown all the same
    let ks := Setting.all.takeWhile fun k => (merge.merged.settings.get k).isWritable
    let o := { o with output := .text (settingsText merge.merged ks) }
    if ks.length < Setting.all.length then o.broken .unfitValue else o

/-! ### Where settings files are -/

def pathsText (site : Settings.Site) : String :=
  let user := (Path.ofPlace site.userFile).text
  let status := if site.userFile?.isSome then "exists" else "not found"
  let names := ", ".intercalate Settings.fileNames
  let found :=
    match Settings.projectFile? site.disk site.current with
    | some place => s!"Found: {(Path.ofPlace place).text}"
    | none => "Status: not found"
  s!"Config file paths:\n\nUser config: {user}\n  Status: {status}\n\n" ++
    s!"Project config search: {names}\n  {found}\n"

/-! ### A new settings file -/

/-- Creates a settings file from the template, unless there is one. -/
def createAt (o : Outcome) (current : Place) (path : Path) : Outcome :=
  match o.disk.exists? current path with
  | .error b => o.broken b
  | .ok true =>
    let o := o.complain s!"Error: Config file already exists: {path.text}"
    { o.complain "Remove it first or edit manually." with ending := .finished 1 }
  | .ok false =>
    match o.disk.write current path Settings.template.toUTF8 with
    | .error .unfitValue => o.broken .unfitValue
    | .error b =>
      let text := s!"Error writing config file: {Settings.systemText b path}"
      { o.complain text with ending := .finished 1 }
    | .ok disk =>
      { o with
        disk
        output := .text
          s!"Created config template: {path.text}\n\nUncomment and modify values as needed.\n" }

/-- Creates the settings file of the user, or one for the project in the current directory. -/
def createSettings (site : Settings.Site) (ofUser : Bool) : Outcome :=
  let o : Outcome := { disk := site.disk }
  if ofUser then
    let path := Path.ofPlace site.userFile
    -- the directory is made even where the file is there already
    match site.disk.makeDirectories site.current path.parent with
    | (disk, some b) => { o with disk }.broken b
    | (disk, none) => createAt { o with disk } site.current path
  else
    createAt o site.current (Path.ofPlace (site.current ++ Settings.fileNames.take 1))

def runSettings (site : Settings.Site) (action : SettingsAction) (ofUser : Bool) : Outcome :=
  match action with
  | .create => createSettings site ofUser
  | .paths => { disk := site.disk, output := .text (pathsText site) }
  | .display => displaySettings site

/-! ## All commands -/

def version : String := "0.1.0"

def versionLine : String := s!"ergogen-router {version}\n"

/-- The level of what a talkative command shows. -/
def talkativeLevel : String := "DEBUG"

def verbosityOf (verbose : Bool) : Log.Verbosity :=
  if verbose then (Log.Verbosity.enable {} talkativeLevel none).1 else {}

def Invocation.run (i : Invocation) (site : Settings.Site) : Outcome :=
  let h : Host := ⟨site, verbosityOf i.verbose⟩
  match i.request with
  | none => { disk := site.disk, ending := .idle }
  | some (.route route anchor net nets overrides) => runRoute h route anchor net nets overrides
  | some (.render file output globalNets overrides) => runRender h file output globalNets overrides
  | some (.check file json quiet) => runCheck h file json quiet
  | some (.settings action ofUser) => runSettings site action ofUser

/-- Runs the program. -/
def run (args : List String) (site : Settings.Site) : Outcome :=
  match Invocation.ofArguments args with
  | .ok i => i.run site
  | .error stop =>
    { disk := site.disk
      ending := .stopped stop
      output := .text (if stop = .version then versionLine else "") }

end CopperRoute.Command
