import CopperRoute.Breakdown
import CopperRoute.Text.Code

/-!
# Sources of YAML documents

    bytes ──ofBytes──▶ Source

A document is read in blocks of characters, and a block is checked as a whole when its first
character is needed. What is wrong with a block therefore comes to light before anything in it is
read, but not before what stands in front of it. A source is the text up to the first block that
cannot be had, and why it ends there.
-/

namespace CopperRoute.Yaml

def isAllowed (c : Char) : Bool :=
  let n := c.toNat
  c == '\t' || c == '\n' || c == '\r' || (0x20 ≤ n && n ≤ 0x7e) || n == 0x85 ||
    (0xa0 ≤ n && n ≤ 0xfffd) || 0x10000 ≤ n

/-- The text of a document, and why nothing can be read behind it if that is not its end. -/
structure Source where
  text : List Char
  beyond : Option Unreadable := none

namespace Source

def blockSize : Nat := 4096

/-- How many bytes are taken at once to fill blocks. -/
def chunkSize : Nat := 8192

/-- Where a block begins that cannot be had. The first two blocks are taken together. -/
def blockStart (block : Nat) : Nat := if block < 2 then 0 else blockSize * block

def lineFeeds : List Char → List Char
  | '\r' :: '\n' :: rest => '\n' :: lineFeeds rest
  | '\r' :: rest => '\n' :: lineFeeds rest
  | c :: rest => c :: lineFeeds rest
  | [] => []

/-- The source that ends before the block of the first character that no document may hold. -/
def ofChars (cs : List Char) : Source :=
  match cs.findIdx? (!isAllowed ·) with
  | none => { text := cs }
  | some i =>
    { text := cs.take (blockStart (i / blockSize))
      beyond := some (.malformed "a character that no document may hold") }

/-- The source of bytes. Where they are not UTF-8 it ends before the block that the chunk at fault
was to fill. -/
def ofBytes (bytes : ByteArray) : Source :=
  match String.fromUTF8? bytes with
  | some s => ofChars (lineFeeds s.toList)
  | none =>
    let all := bytes.toList
    let fault := all.length - (Text.Utf8.decode all).2.length
    let before := lineFeeds (Text.Utf8.decode (all.take (fault / chunkSize * chunkSize))).1
    let size := blockStart (before.length / blockSize)
    let found := ofChars (before.take size)
    if found.beyond.isSome then found
    else { found with beyond := some (.breakdown .notText) }

end Source

/-! ## A cursor in YAML text

YAML gives meaning to the column in which something stands, so the text that is left is read
together with the line and the column of its first character.
-/

/-! ### Character classes -/

def isBreak (c : Char) : Bool :=
  c == '\n' || c == '\r' || c == '\x85' || c == '\u2028' || c == '\u2029'

def isSpace (c : Char) : Bool := c == ' ' || c == '\t'

/-- The byte order mark, which takes no column. -/
def isMark (c : Char) : Bool := c == '\ufeff'

def endsLine (c : Option Char) : Bool := c.all isBreak

/-- A blank, the end of a line or of the text. -/
def endsWord (c : Option Char) : Bool := c.all fun c => isSpace c || isBreak c

def isFlowMark (c : Char) : Bool := c == ',' || c == '[' || c == ']' || c == '\x7b' || c == '\x7d'

def isNameChar (c : Char) : Bool := c.isAlphanum || c == '-' || c == '_'

/-! ### The cursor -/

/-- The text that is left, and where its first character stands. -/
structure Cursor where
  rest : List Char
  index : Nat := 0
  line : Nat := 0
  column : Nat := 0

namespace Cursor

/-- The cursor behind the next character. A carriage return before a line feed does not end the line
by itself. -/
def next (c : Cursor) : Cursor :=
  match c.rest with
  | [] => c
  | a :: rest =>
    let index := c.index + 1
    if isBreak a && !(a == '\r' && rest.head? == some '\n') then ⟨rest, index, c.line + 1, 0⟩
    else ⟨rest, index, c.line, if isMark a then c.column else c.column + 1⟩

def skip (c : Cursor) : Nat → Cursor
  | 0 => c
  | n + 1 => c.next.skip n

end Cursor

end CopperRoute.Yaml
