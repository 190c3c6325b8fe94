import CopperRoute.Breakdown

/-!
# File trees

A file tree is the part of a file system that the program works with, as a value. What stands in it
is found by paths.
-/

namespace CopperRoute

/-! ## Paths

A place in a file tree is the list of names that leads to it from the root. A path as a user writes
it may start at the root or at the current directory; single points and doubled slashes in it are
dropped, while steps up are kept, since where they lead depends on the tree.
-/

/-- The names that lead from the root of a file tree to a place in it. -/
abbrev Place := List String

/-- A place written from the root. -/
def Place.text (p : Place) : String := "/" ++ "/".intercalate p

/-- A path as it is written: the slashes that it starts with, and its names. -/
structure Path where
  root : String
  names : List String
deriving Repr, DecidableEq

namespace Path

/-- The slashes that count at the start of a path: none, one, or exactly two. -/
def rootOf (cs : List Char) : String :=
  match (cs.takeWhile (· == '/')).length with
  | 0 => ""
  | 2 => "//"
  | _ => "/"

def ofText (s : String) : Path :=
  ⟨rootOf s.toList, (s.splitOn "/").filter fun name => name != "" && name != "."⟩

def ofPlace (p : Place) : Path := ⟨"/", p⟩

def text (p : Path) : String :=
  if p.root == "" && p.names.isEmpty then "." else p.root ++ "/".intercalate p.names

def parent (p : Path) : Path := { p with names := p.names.dropLast }

def isAbsolute (p : Path) : Bool := p.root != ""

/-- The place that a path names, read without regard to the tree: a step up takes back the step
before it. -/
def resolve (current : Place) (p : Path) : Place :=
  let start := if p.isAbsolute then [] else current
  p.names.foldl (fun place name => if name == ".." then place.dropLast else place ++ [name]) start

/-- The path of `inner` as seen from the directory `outer`. -/
def join (outer inner : Path) : Path :=
  if inner.isAbsolute then inner else { outer with names := outer.names ++ inner.names }

end Path

/-! ## What stands at places

A file tree holds files and directories at places. The steps that commands take on it are pure: they
answer with what is there, or with the tree as it is afterwards. `find?_put` says that a step on one
place leaves the others alone.
-/

inductive Entry where
  | file (content : ByteArray)
  | directory

def Entry.same : Entry → Entry → Bool
  | file a, file b => a == b
  | directory, directory => true
  | _, _ => false

/-- A file tree: entries with their places. The root is always a directory. -/
structure Disk where
  entries : List (Place × Entry) := []

namespace Disk

def find? (d : Disk) (place : Place) : Option Entry :=
  if place = [] then some .directory else (d.entries.find? (·.1 == place)).map (·.2)

def isFile (d : Disk) (place : Place) : Bool :=
  match d.find? place with
  | some (.file _) => true
  | _ => false

def isDirectory (d : Disk) (place : Place) : Bool :=
  match d.find? place with
  | some .directory => true
  | _ => false

def contains (d : Disk) (place : Place) : Bool := (d.find? place).isSome

/-- What a search sees of a file tree: where there is a file, and where there is anything at all. A
tree may hold more than files and directories, such as devices and links that lead nowhere; a search
tells them apart from files by this alone. -/
structure View where
  isFile : Place → Bool
  contains : Place → Bool

/-- What a search sees of this file tree. -/
def view (d : Disk) : View := ⟨d.isFile, d.contains⟩

def put (d : Disk) (place : Place) (entry : Entry) : Disk :=
  ⟨(place, entry) :: d.entries.filter (·.1 != place)⟩

/-- Another place keeps its entry. -/
theorem find?_put (d : Disk) {place other : Place} (entry : Entry) (hp : place ≠ []) :
    (d.put place entry).find? other = if other = place then some entry else d.find? other := by
  by_cases ho : other = place
  · subst ho
    simp [find?, put, hp]
  · by_cases hn : other = []
    · simp [find?, hn, Ne.symm hp]
    · have hne : (place == other) = false := by simp [Ne.symm ho]
      simp only [find?, put, hn, ho, if_false, List.find?_cons, hne]
      congr 1
      induction d.entries with
      | nil => rfl
      | cons e rest ih =>
        by_cases he : e.1 = place
        · have h1 : (e.1 == other) = false := by simp [he, Ne.symm ho]
          simp only [List.filter_cons, he, bne_self_eq_false, Bool.false_eq_true, if_false,
            List.find?_cons]
          rw [ih]
          have h2 : (place == other) = false := by simp [Ne.symm ho]
          simp [h2]
        · simp only [List.filter_cons, bne_iff_ne, ne_eq, he, not_false_eq_true, if_true,
            List.find?_cons, ih]

/-! ### Following paths -/

/-- The most bytes that a name can have. -/
def nameLimit : Nat := 255

/-- The most bytes that a path can have. -/
def pathLimit : Nat := 4095

/-- Whether a name can stand in a path at all. -/
def isFitName (name : String) : Bool := !name.toList.contains '\x00'

/-- Follows names from a place on. Each step needs a directory to start from. -/
def follow (d : Disk) (place : Place) : List String → Except Breakdown (Place × Entry)
  | [] =>
    match d.find? place with
    | some entry => .ok (place, entry)
    | none => .error .notThere
  | name :: rest =>
    match d.find? place with
    | some .directory =>
      if nameLimit < name.utf8ByteSize then .error .nameTooLong
      else follow d (if name == ".." then place.dropLast else place ++ [name]) rest
    | some (.file _) => .error .notDirectory
    | none => .error .notThere

/-- The place that a path leads to from the directory `current`, and what stands there. -/
def locate (d : Disk) (current : Place) (path : Path) : Except Breakdown (Place × Entry) :=
  if !path.names.all isFitName then .error .unfitValue
  else if pathLimit < path.text.utf8ByteSize then .error .nameTooLong
  else d.follow (if path.isAbsolute then [] else current) path.names

def exists? (d : Disk) (current : Place) (path : Path) : Except Breakdown Bool :=
  match d.locate current path with
  | .ok _ => .ok true
  | .error .nameTooLong => .error .nameTooLong
  | .error _ => .ok false

def read (d : Disk) (current : Place) (path : Path) : Except Breakdown ByteArray := do
  match ← d.locate current path with
  | (_, .file content) => pure content
  | (_, .directory) => throw .isDirectory

def readText (d : Disk) (current : Place) (path : Path) : Except Breakdown String := do
  match String.fromUTF8? (← d.read current path) with
  | some text => pure text
  | none => throw .notText

/-! ### Changes -/

/-- The place where an entry named by `path` would stand: the directory that holds it has to be
there. -/
def target (d : Disk) (current : Place) (path : Path) : Except Breakdown Place :=
  if !path.names.all isFitName then .error .unfitValue
  else if pathLimit < path.text.utf8ByteSize then .error .nameTooLong
  else
    match path.names.getLast? with
    | none => pure (if path.isAbsolute then [] else current)
    | some name => do
      match ← d.locate current path.parent with
      | (place, .directory) =>
        if nameLimit < name.utf8ByteSize then throw .nameTooLong
        else pure (if name == ".." then place.dropLast else place ++ [name])
      | (_, .file _) => throw .notDirectory

/-- Makes the directory that `path` names, where it stands in a directory and is not there yet. -/
def makeDirectory (d : Disk) (current : Place) (path : Path) : Except Breakdown Disk := do
  let place ← d.target current path
  if d.contains place then throw .alreadyThere
  else pure (d.put place .directory)

/-- Makes the directory `path` and those above it as far as they are missing. The first argument
bounds the number of names; the tree is told as far as it got. -/
def makeAll (current : Place) : Nat → Path → Disk → Disk × Option Breakdown
  | 0, _, d => (d, some .notThere)
  | names + 1, path, d =>
    let settle (d : Disk) (b : Breakdown) : Disk × Option Breakdown :=
      match d.locate current path with
      | .ok (_, .directory) => (d, none)
      | _ => (d, some b)
    match d.makeDirectory current path with
    | .ok d => (d, none)
    -- what holds it may be missing as well
    | .error .notThere =>
      if path.names.isEmpty then (d, some .notThere)
      else
        match makeAll current names path.parent d with
        | (d, some b) => (d, some b)
        | (d, none) =>
          match d.makeDirectory current path with
          | .ok d => (d, none)
          | .error b => if b = .unfitValue then (d, some b) else settle d b
    | .error b => if b = .unfitValue then (d, some b) else settle d b

/-- Makes the directory `path` and all above it. -/
def makeDirectories (d : Disk) (current : Place) (path : Path) : Disk × Option Breakdown :=
  makeAll current (path.names.length + 1) path d

/-- Writes a file, where the directory that holds it is there. -/
def write (d : Disk) (current : Place) (path : Path) (content : ByteArray) :
    Except Breakdown Disk := do
  let place ← d.target current path
  match d.find? place with
  | some .directory => throw .isDirectory
  | _ => pure (d.put place (.file content))

/-- The entries of `after` that are new or not as they were before, the earliest change first. -/
def changes (before after : Disk) : List (Place × Entry) :=
  (after.entries.filter fun e => !(before.find? e.1).any e.2.same).reverse

end Disk

end CopperRoute
