import CopperRoute.Text.Code
import CopperRoute.Toml.Reader

/-!
# TOML texts

Texts stand between double quotes, where escapes count, or between single quotes, where nothing
does; three quotes open a text of several lines, whose first line end does not count. One or two
quotes just before the closing three belong to the text.
-/

namespace CopperRoute.Toml

open Reader

def shortEscape? (c : Char) : Option Char :=
  match c with
  | 'b' => some '\x08'
  | 't' => some '\t'
  | 'n' => some '\n'
  | 'f' => some '\x0c'
  | 'r' => some '\r'
  | '\x22' => some '\x22'
  | '\\' => some '\\'
  | _ => none

/-- The character of an escape of `width` hexadecimal digits. -/
def codePoint (width : Nat) : Reader Char := do
  let digits := (← get).take width
  skip width
  match Text.hexNumber? digits with
  | some n =>
    if h : n.isValidChar ∧ digits.length = width then pure (Char.ofNatAux n h.1)
    else refuse "an escape that is no character"
  | none => refuse "an escape that is no number"

/-- What an escape stands for, behind its backslash. In a text of several lines a backslash at the
end of a line takes away the line end and the blanks that follow. -/
def escape (lines : Bool) : Reader (List Char) := do
  match ← peek? with
  | none => refuse "a text without end"
  | some c =>
    if lines && (isSpace c || c == '\n') then
      spaces
      match ← peek? with
      | none => pure []
      | some d =>
        if d == '\n' then
          skipWhile fun c => isSpace c || c == '\n'
          pure []
        else refuse "a backslash before a blank"
    else
      skip 1
      if c == 'u' then return [← codePoint 4]
      if c == 'U' then return [← codePoint 8]
      match shortEscape? c with
      | some d => pure [d]
      | none => refuse "an unknown escape"

/-- The rest of a text with escapes, in reverse before `done`. The first argument bounds the number
of steps. -/
def basicFrom (lines : Bool) : Nat → List Char → Reader (List Char)
  | 0, _ => refuse "a text without end"
  | steps + 1, done => do
    match ← peek? with
    | none => refuse "a text without end"
    | some c =>
      if c == '\x22' then
        if lines then
          if ← accept "\"\"\"" then pure done.reverse
          else
            skip 1
            basicFrom lines steps (c :: done)
        else
          skip 1
          pure done.reverse
      else if c == '\\' then
        skip 1
        let cs ← escape lines
        basicFrom lines steps (cs.reverse ++ done)
      else if (if lines then isLineControl c else isControl c) then
        refuse "a control character in a text"
      else
        skip 1
        basicFrom lines steps (c :: done)

/-- A text with escapes, behind its opening quotes. -/
def basic (lines : Bool) : Reader (List Char) := do
  let cs ← get
  basicFrom lines (cs.length + 1) []

/-- A text without escapes, behind its opening quote. -/
def literal : Reader (List Char) := do
  let text ← takeWhile (· != '\x27')
  if text.any isControl then refuse "a control character in a text"
  if ← accept "'" then pure text
  else refuse "a text without end"

/-- The text of several lines without escapes up to three quotes, in reverse before `done`. -/
def literalLinesFrom : Nat → List Char → Reader (List Char)
  | 0, _ => refuse "a text without end"
  | steps + 1, done => do
    if ← accept "'''" then pure done.reverse
    else
      match ← peek? with
      | none => refuse "a text without end"
      | some c =>
        if isLineControl c then refuse "a control character in a text"
        skip 1
        literalLinesFrom steps (c :: done)

/-- At most two quotes that stand behind the closing three. -/
def extraQuotes (quote : String) : Reader (List Char) := do
  if ← accept quote then
    if ← accept quote then pure (quote.toList ++ quote.toList)
    else pure quote.toList
  else pure []

/-- A text of any kind, if one starts here. -/
def text? : Reader (Option (List Char)) := do
  if ← accept "\"\"\"" then
    discard (accept "\n")
    let cs ← basic true
    return some (cs ++ (← extraQuotes "\""))
  if ← accept "\"" then return some (← basic false)
  if ← accept "'''" then
    discard (accept "\n")
    let left ← get
    let cs ← literalLinesFrom (left.length + 1) []
    return some (cs ++ (← extraQuotes "'"))
  if ← accept "'" then return some (← literal)
  return none

end CopperRoute.Toml
