import CopperRoute.Breakdown

/-!
# Reading TOML text

The steps that all parts of a TOML reader share: look at the next character, pass over blanks and
comments, and refuse what is out of place.
-/

namespace CopperRoute.Toml

/-- A step that reads from the front of the text that is left. -/
abbrev Reader := StateT (List Char) (Except Unreadable)

namespace Reader

def refuse {α : Type} (detail : String) : Reader α := throw (.malformed detail)

/-- The next character, which stays. -/
def peek? : Reader (Option Char) := do
  let cs ← get
  pure cs.head?

def skip (n : Nat) : Reader Unit := modify (·.drop n)

/-- Whether the text goes on with `s`. -/
def startsWith (s : String) : Reader Bool := do
  let cs ← get
  pure (s.toList.isPrefixOf cs)

/-- Passes over `s` if the text goes on with it, and says whether it does. -/
def accept (s : String) : Reader Bool := do
  let found ← startsWith s
  if found then skip s.length
  pure found

def takeWhile (p : Char → Bool) : Reader (List Char) := do
  let cs ← get
  set (cs.dropWhile p)
  pure (cs.takeWhile p)

def skipWhile (p : Char → Bool) : Reader Unit := modify (·.dropWhile p)

end Reader

/-! ### Character classes -/

def isSpace (c : Char) : Bool := c == ' ' || c == '\t'

/-- A control character that may not stand in a line. -/
def isControl (c : Char) : Bool := (c.toNat < 32 && c != '\t') || c.toNat == 127

/-- A control character that may not stand in a text of several lines. -/
def isLineControl (c : Char) : Bool := isControl c && c != '\n'

def isBareKey (c : Char) : Bool := c.isAlphanum || c == '-' || c == '_'

namespace Reader

def spaces : Reader Unit := skipWhile isSpace

/-- Passes over a comment up to the end of its line. -/
def comment : Reader Unit := do
  if ← accept "#" then
    let text ← takeWhile (· != '\n')
    if text.any isControl then refuse "a control character in a comment"

/-- Passes over blanks, line ends and comments. The argument bounds the number of comments. -/
def gap : Nat → Reader Unit
  | 0 => pure ()
  | lines + 1 => do
    skipWhile fun c => isSpace c || c == '\n'
    if ← startsWith "#" then
      comment
      gap lines

def gaps : Reader Unit := do
  let cs ← get
  gap cs.length

end Reader

end CopperRoute.Toml
