import CopperRoute.Command

/-!
# The program

Takes what a command can reach out of the file system, runs the command on it, writes back what it
changed, and shows what it says.
-/

namespace CopperRoute.Command

/-! ## Help

What the program tells about its own use, put together from its commands and their options.
-/

/-- The names of an option, one of them with the value that it takes. -/
def Flag.summary (f : Flag) : String :=
  ", ".intercalate f.names ++ (if f.kind.takesValue then " VALUE" else "")

def flagLines (flags : List Flag) : String :=
  String.join (flags.map fun f => s!"    {f.summary}\n")

/-- What a command takes beside its options. -/
def Verb.operand (v : Verb) : String :=
  match v.name with
  | "route" => " ROUTE"
  | "render" | "check" => " PLACEMENTS"
  | _ => ""

def usageLine : String :=
  let names := "|".intercalate (verbs.map (·.name))
  s!"usage: ergogen-router [options] {names} [arguments]\n"

def helpText : String :=
  usageLine ++ "\nRender keyboard footprint route strings as KiCad traces and vias\n\noptions:\n" ++
    flagLines mainFlags ++
    String.join (verbs.map fun v => s!"\n{v.name}{v.operand}\n" ++ flagLines v.flags)

/-! ## What a command can reach

A command looks only at a few places of the file tree: those on the paths that it was given, and
those where settings files are looked for. A tree that holds what stands there is enough to run it.
-/

/-- All places on the way to a place, the root first. -/
def onTheWay (place : Place) : List Place :=
  (List.range (place.length + 1)).map place.take

def alongPath (current : Place) (path : Path) : List Place :=
  (List.range (path.names.length + 1)).map fun n =>
    Path.resolve current { path with names := path.names.take n }

def Request.paths : Request → List Path
  | .route .. | .settings .. => []
  | .render file output .. => (file :: output.toList).map Path.ofText
  | .check file .. => [Path.ofText file]

/-- The places where settings files are looked for. -/
def settingsPlaces (current userFile : Place) : List Place :=
  onTheWay userFile ++ (onTheWay current).flatMap fun directory =>
    directory :: (Settings.topMark :: Settings.fileNames).map fun name => directory ++ [name]

def Request.places (r : Request) (current userFile : Place) : List Place :=
  (settingsPlaces current userFile ++ r.paths.flatMap (alongPath current)).eraseDups

end CopperRoute.Command

namespace CopperRoute.Program

/-! ## Running a command in a file system -/

open CopperRoute.Command

def fetch (place : Place) : IO (Option Entry) := do
  try
    -- only below a directory the path goes on
    discard (IO.FS.realPath (place.text ++ "/."))
    pure (some .directory)
  catch _ =>
    try
      pure (some (.file (← IO.FS.readBinFile place.text)))
    catch _ => pure none

/-- The part of the file system that holds `places`. -/
def snapshot (places : List Place) : IO Disk := do
  let found ← places.mapM fun place => do
    pure ((← fetch place).map fun entry => (place, entry))
  pure ⟨found.filterMap id⟩

def store : Place × Entry → IO Unit
  | (place, .directory) => IO.FS.createDirAll place.text
  | (place, .file content) => IO.FS.writeBinFile place.text content

/-- The settings file of the user whose home directory is given. -/
def userFileIn (home : String) : Place :=
  (Path.ofText home).names ++ [".config", "ergogen-router", "config.toml"]

def conclude : Ending → IO UInt32
  | .stopped .help | .idle => do
    IO.print helpText
    pure 0
  | .stopped .version => pure 0
  | .stopped .refused => do
    IO.eprint usageLine
    pure 2
  | .finished code => pure code.toUInt32
  | .broken _ => do
    IO.eprintln "Error: the command broke down"
    pure 1

def start (args : List String) : IO UInt32 := do
  let current := (Path.ofText (toString (← IO.currentDir))).names
  let userFile := userFileIn ((← IO.getEnv "HOME").getD "/")
  let places :=
    match Invocation.ofArguments args with
    | .ok ⟨_, some request⟩ => request.places current userFile
    | _ => []
  let disk ← snapshot places
  let o := run args ⟨disk, current, userFile⟩
  (Disk.changes disk o.disk).forM store
  o.warnings.forM fun warning => IO.eprintln s!"Warning: {warning}"
  IO.eprint o.errors
  IO.print o.output.toText
  conclude o.ending

end CopperRoute.Program

def main (args : List String) : IO UInt32 := CopperRoute.Program.start args
