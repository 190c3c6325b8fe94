import CopperRoute.Disk
import CopperRoute.Settings
import CopperRoute.Toml.Document

/-!
# Settings files

Settings come from the file of the user and then from that of the project, which has precedence. The
project's file is looked for from a directory upward: the nearest directory that holds one gives it,
and a directory that holds an entry `.git` is the last to be looked at.
-/

namespace CopperRoute

namespace Settings

/-- The names that a project's settings file can have, the first one counting. -/
def fileNames : List String := [".ergogen-router.toml", "ergogen-router.toml"]

/-- The name of the entry that marks the top directory of a project. -/
def topMark : String := ".git"

def fileIn? (v : Disk.View) (directory : Place) : Option Place :=
  (fileNames.map fun name => directory ++ [name]).find? v.isFile

/-- Looks for the settings file of a project in the directory with the given names, the last one
first, and then upward. -/
def searchUp (v : Disk.View) : List String → Option Place
  | [] => fileIn? v []
  | name :: above =>
    let directory := (name :: above).reverse
    match fileIn? v directory with
    | some file => some file
    | none => if v.contains (directory ++ [topMark]) then none else searchUp v above

/-- Looks for the settings file of the project that a directory belongs to. -/
def search (v : Disk.View) (directory : Place) : Option Place := searchUp v directory.reverse

def projectFile? (d : Disk) (directory : Place) : Option Place := search d.view directory

/-! ### Reading -/

/-- What the system says where it does not give a file. -/
def systemText (b : Breakdown) (path : Path) : String :=
  let text :=
    match b with
    | .isDirectory => "[Errno 21] Is a directory"
    | .notDirectory => "[Errno 20] Not a directory"
    | .nameTooLong => "[Errno 36] File name too long"
    | _ => "[Errno 2] No such file or directory"
  s!"{text}: {Text.quoted path.text}"

def fileTable (d : Disk) (current : Place) (path : Path) : Except Fault Table :=
  let refuse (cause : SettingsCause) : Except Fault Table := .error (.settings cause path.text)
  match d.readText current path with
  | .error .notText => .error (.breakdown .notText)
  | .error .unfitValue => .error (.breakdown .unfitValue)
  | .error b => refuse (.unreadable (systemText b path))
  | .ok text =>
    match Toml.ofText text with
    | .ok t => .ok t
    | .error (.malformed detail) => refuse (.notToml detail)
    | .error (.breakdown b) => .error (.breakdown b)

/-- Where settings are looked for: a file tree, the current directory and the file of the user. -/
structure Site where
  disk : Disk
  current : Place
  userFile : Place

def Site.userFile? (s : Site) : Option Place :=
  if s.disk.contains s.userFile then some s.userFile else none

/-- Merges a settings file, if there is one, into what the merges before it gave. -/
def mergeFile (s : Site) (before : Merge) (file : Option Place) : Merge :=
  match before.fault, file with
  | none, some place =>
    let path := Path.ofPlace place
    match fileTable s.disk s.current path with
    | .error fault => { before with fault := some fault }
    | .ok t =>
      let after := merge before.merged t path.text
      { after with warnings := before.warnings ++ after.warnings }
  | _, _ => before

/-- The settings that hold in a directory: those of the user, then those of the project. -/
def load (s : Site) (directory : Place) : Merge :=
  let user := mergeFile s ⟨{}, [], none⟩ s.userFile?
  mergeFile s user (projectFile? s.disk directory)

end Settings

end CopperRoute

namespace CopperRoute.Settings

/-! ## The template of a settings file

A settings file with every setting explained and none set.
-/

def templateLines : List String :=
  ["# ergogen-router configuration file",
   "# Place as .ergogen-router.toml in project root or ~/.config/ergogen-router/config.toml for user defaults",
   "",
   "[router]",
   "# Default trace width in mm (JLCPCB minimum is 0.127mm)",
   "# width = 0.25",
   "",
   "# Via pad diameter in mm (0.56 to 0.8 avoids DRC errors)",
   "# via_size = 0.6",
   "",
   "# Via drill diameter in mm (0.3 to 0.4 avoids DRC errors)",
   "# via_drill = 0.3",
   "",
   "# Mark emitted traces and vias as locked in KiCad",
   "# locked = false",
   "",
   "# Decimal digits in emitted coordinates (default: 3, or 5 for legacy format)",
   "# precision = 3",
   "",
   "# Record syntax: kicad8 or legacy",
   "# format = \"kicad8\""]

def template : String := String.join (templateLines.map fun l => l ++ "\n")

end CopperRoute.Settings
