import CopperRoute.Number.Shortest
import CopperRoute.Text.Printable

/-!
# JSON text

Reports for other programs are written as JSON: every item and entry on a line of its own, two
blanks deeper than what holds it, and all characters beyond the plain printable ones escaped.
-/

namespace CopperRoute

inductive Json where
  | null
  | bool (value : Bool)
  | int (value : Int)
  | float (value : Float)
  | text (value : String)
  | list (items : List Json)
  | object (entries : List (String × Json))

namespace Json

/-! ### Text -/

/-- The escape of a unit of sixteen bits. -/
def unitEscape (n : Nat) : List Char := '\\' :: 'u' :: Text.hexDigits n 4

/-- How a character is written between quotes. What does not fit into one unit is written as two
surrogates. -/
def quoteChar (c : Char) : List Char :=
  if c == '\x22' || c == '\\' then ['\\', c]
  else if c == '\n' then ['\\', 'n']
  else if c == '\r' then ['\\', 'r']
  else if c == '\t' then ['\\', 't']
  else if c == '\x0c' then ['\\', 'f']
  else if c == '\x08' then ['\\', 'b']
  else if 0x20 ≤ c.toNat && c.toNat ≤ 0x7e then [c]
  else if c.toNat < 0x10000 then unitEscape c.toNat
  else
    let n := c.toNat - 0x10000
    unitEscape (0xd800 + n / 1024) ++ unitEscape (0xdc00 + n % 1024)

def quoted (s : String) : String :=
  String.ofList ('\x22' :: s.toList.flatMap quoteChar ++ ['\x22'])

/-! ### Numbers -/

/-- A double. The three that are no numbers have names. -/
def floatText (x : Float) : String :=
  match Number.exact x with
  | .finite _ => Number.text x
  | .infinite negative => if negative then "-Infinity" else "Infinity"
  | .undefined => "NaN"

/-! ### Values -/

/-- A line end, and the blanks in front of what stands `depth` levels deep. -/
def lineStart (depth : Nat) : String := "\n" ++ "".pushn ' ' (2 * depth)

/-- Texts between brackets, each on its line. -/
def bracketed (depth : Nat) (opening closing : String) (texts : List String) : String :=
  if texts.isEmpty then opening ++ closing
  else
    opening ++ lineStart (depth + 1) ++ ("," ++ lineStart (depth + 1)).intercalate texts ++
      lineStart depth ++ closing

mutual

/-- A value that stands `depth` levels deep. -/
def textAt (depth : Nat) : Json → String
  | null => "null"
  | bool b => if b then "true" else "false"
  | int i => toString i
  | float x => floatText x
  | text s => quoted s
  | list items => bracketed depth "[" "]" (itemTexts (depth + 1) items)
  | object entries => bracketed depth "\x7b" "\x7d" (entryTexts (depth + 1) entries)

def itemTexts (depth : Nat) : List Json → List String
  | [] => []
  | j :: rest => textAt depth j :: itemTexts depth rest

def entryTexts (depth : Nat) : List (String × Json) → List String
  | [] => []
  | (key, j) :: rest => (quoted key ++ ": " ++ textAt depth j) :: entryTexts depth rest

end

def toText (j : Json) : String := textAt 0 j

end Json

end CopperRoute
