import CopperRoute.Number.Numeral
import CopperRoute.Yaml.Node
import CopperRoute.Yaml.Text

/-!
# Scanning YAML

    Source ──Scanner.ofSource──▶ Scanner ──peekToken, takeToken──▶ tokens, one by one

The structure of a document shows in marks, in indentation, and in colons that only come after the
key that they make one. The scanner keeps the columns of the open blocks and emits the ends of
blocks when the column falls back; it remembers the places where a key may have begun, and puts the
mark of the key there when the colon comes. Such a key has to stand on one line and within 1024
characters.

No token is read before it is asked for, except behind a place where a key may have begun: whether
its mark comes first has to be known. So what is wrong further on does not show before what is
wrong here.
-/

namespace CopperRoute.Yaml.Scan

/-! ### Keys that may have begun -/

def keyReach : Nat := 1024

/-- Forgets the key that may have begun among the collections that are open now. -/
def dropKey : Scan Unit := do
  let s ← get
  match s.openKeys.lookup s.flow with
  | none => pure ()
  | some k =>
    if k.required then refuse "a key without a colon"
    set { s with openKeys := s.openKeys.filter (·.1 != s.flow) }

def noteKey : Scan Unit := do
  let s ← get
  if s.keyAllowed then
    dropKey
    let c := s.cursor
    -- in the column of an open block nothing but a key can stand
    let required := s.flow == 0 && s.indent == (c.column : Int)
    let k : OpenKey := ⟨s.taken + s.queue.length, required, c.index, c.line, c.column⟩
    modify fun s => { s with openKeys := (s.flow, k) :: s.openKeys }

/-- Whether a key that began at `k` can no longer end. -/
def isStale (c : Cursor) (k : OpenKey) : Bool := k.line != c.line || keyReach < c.index - k.index

def dropStale : Scan Unit := do
  let s ← get
  let (stale, fresh) := s.openKeys.partition fun e => isStale s.cursor e.2
  if stale.any (·.2.required) then refuse "a key without a colon"
  set { s with openKeys := fresh }

/-! ### Blocks -/

/-- Ends the blocks that stand to the right of a column. The first argument bounds their number. -/
def endBlocks (column : Int) : Nat → Scan Unit
  | 0 => pure ()
  | blocks + 1 => do
    let s ← get
    if column < s.indent then
      emit .blockEnd
      modify fun s => { s with indent := s.outer.head?.getD (-1), outer := s.outer.drop 1 }
      endBlocks column blocks

/-- Ends the blocks that stand to the right of a column. Inside flow collections columns do not
count. -/
def unwind (column : Int) : Scan Unit := do
  let s ← get
  if s.flow == 0 then endBlocks column (s.outer.length + 1)

/-- Opens a block at a column, if none is open there, and says whether it does. -/
def openBlock (column : Nat) : Scan Bool := do
  let s ← get
  if s.indent < column then
    set { s with indent := (column : Int), outer := s.indent :: s.outer }
    pure true
  else pure false

/-- Puts tokens at the place where a key began. -/
def insertAt (place : Nat) (ts : List Token) : Scan Unit :=
  modify fun s =>
    let n := place - s.taken
    { s with queue := s.queue.take n ++ ts ++ s.queue.drop n }

/-! ### Tokens -/

/-- Passes over blanks, comments and line ends. Outside of flow collections a key may begin on a new
line. The argument bounds the number of lines. -/
def gapFrom : Nat → Scan Unit
  | 0 => pure ()
  | lines + 1 => do
    discard (takeWhile (· == ' '))
    if (← peek) == some '#' then discard (takeWhile (!isBreak ·))
    match ← lineBreak with
    | [] => pure ()
    | _ =>
      if !(← inFlow) then allowKey true
      gapFrom lines

/-- Passes over what stands before a token: a byte order mark at the start of the text, blanks,
comments and line ends. -/
def gap : Scan Unit := do
  if (← get).cursor.index == 0 && (← peek).any isMark then forward 1
  gapFrom (← size)

def documentMark (t : Token) : Scan Unit := do
  unwind (-1)
  dropKey
  allowKey false
  forward 3
  emit t

/-! ### Tags -/

def isTagChar (c : Char) : Bool := c.isAlphanum || "-;/?:@&=+$,_.!~*\x27()[]%".toList.contains c

/-- Fails unless a blank, a line end or the end of the text comes next. -/
def needBlank : Scan Unit := do
  match ← peek with
  | none => pure ()
  | some c => if c == ' ' || isBreak c then pure () else refuse "no blank where one is needed"

/-- The bytes of escapes that follow each other: each a percent sign and two hexadecimal digits. The
argument bounds their number. -/
def escapedBytes : Nat → Scan (List UInt8)
  | 0 => pure []
  | escapes + 1 => do
    if (← peek) == some '%' then
      forward 1
      let n ← hexNumber 2
      forward 2
      return n.toUInt8 :: (← escapedBytes escapes)
    else return []

/-- The name of a type as far as it goes, where escapes stand for the bytes of characters. The
argument bounds the number of its parts. -/
def tagPartsFrom : Nat → Scan (List Char)
  | 0 => pure []
  | parts + 1 => do
    let cs ← takeWhile fun c => isTagChar c && c != '%'
    if (← peek) == some '%' then
      let bytes ← escapedBytes (← size)
      match String.fromUTF8? ⟨bytes.toArray⟩ with
      | some s => return cs ++ s.toList ++ (← tagPartsFrom parts)
      | none => refuse "escapes that are no characters"
    else return cs

def tagParts : Scan String := do
  let start := (← get).cursor.index
  let cs ← tagPartsFrom (← size)
  if (← get).cursor.index == start then refuse "no name of a type where one is needed"
  pure (String.ofList cs)

/-- A handle: an exclamation mark, or a word between two. -/
def tagHandle : Scan String := do
  if (← peek) != some '!' then refuse "no handle where one is needed"
  if (← peekAt 1) == some ' ' then
    forward 1
    pure "!"
  else
    forward 1
    let name ← takeWhile isNameChar
    if (← peek) != some '!' then refuse "a handle without end"
    forward 1
    pure (String.ofList ('!' :: name ++ ['!']))

/-- Whether an exclamation mark comes before the next blank behind the first `n` characters. -/
def marksHandle (n : Nat) : Scan Bool := do
  let cs := ((← rest).drop n).takeWhile fun c => !(c == '!' || c == ' ' || isBreak c)
  return (← peekAt (n + cs.length)) == some '!'

/-- A tag, which has to end at a blank. -/
def tag : Scan Unit := do
  noteKey
  allowKey false
  let after ← peekAt 1
  let (handle, name) ←
    if after == some '<' then do
      forward 2
      let name ← tagParts
      if (← peek) != some '>' then refuse "a name of a type without end"
      forward 1
      pure (none, name)
    else if endsWord after then do
      forward 1
      pure (none, Tag.unspecified)
    else do
      let handle ←
        if ← marksHandle 1 then tagHandle
        else do
          forward 1
          pure "!"
      pure (some handle, ← tagParts)
  needBlank
  emit (.tag handle name)

/-! ### Directives -/

/-- A run of digits as a number. One that is longer than the limit stands for no number. -/
def wholeNumber : Scan Nat := do
  let ds ← takeWhile Char.isDigit
  if ds.isEmpty then refuse "no number where one is needed"
  match Number.wholeLiteral? (String.ofList ds) with
  | some n => pure n.toNat
  | none => throw (.breakdown .unfitValue)

def versionDirective : Scan Directive := do
  discard (takeWhile (· == ' '))
  let major ← wholeNumber
  if (← peek) != some '.' then refuse "a version without a second number"
  forward 1
  discard wholeNumber
  needBlank
  pure (.version major)

def handleDirective : Scan Directive := do
  discard (takeWhile (· == ' '))
  let handle ← tagHandle
  if (← peek) != some ' ' then refuse "no blank behind a handle"
  discard (takeWhile (· == ' '))
  let start ← tagParts
  needBlank
  pure (.handle handle start)

def directiveOf (name : String) : Scan Directive := do
  if name == "YAML" then versionDirective
  else if name == "TAG" then handleDirective
  else
    discard (takeWhile (!isBreak ·))
    pure .other

def directive : Scan Unit := do
  unwind (-1)
  dropKey
  allowKey false
  forward 1
  let name ← takeWhile isNameChar
  if name.isEmpty then refuse "a directive without a name"
  needBlank
  let d ← directiveOf (String.ofList name)
  discard (takeWhile (· == ' '))
  if (← peek) == some '#' then discard (takeWhile (!isBreak ·))
  if !endsLine (← peek) then refuse "text behind a directive"
  discard lineBreak
  emit (.directive d)

/-! ### Marks and nodes -/

def openFlow (t : Token) : Scan Unit := do
  noteKey
  modify fun s => { s with flow := s.flow + 1 }
  allowKey true
  forward 1
  emit t

def closeFlow (t : Token) : Scan Unit := do
  dropKey
  if !(← inFlow) then refuse "the end of a collection that is not open"
  modify fun s => { s with flow := s.flow - 1 }
  allowKey false
  forward 1
  emit t

def flowEntry : Scan Unit := do
  allowKey true
  dropKey
  forward 1
  emit .flowEntry

def blockEntry : Scan Unit := do
  if !(← inFlow) then
    if !(← get).keyAllowed then refuse "an entry of a sequence out of place"
    if ← openBlock (← column) then emit .blockSequence
  allowKey true
  dropKey
  forward 1
  emit .blockEntry

def keyMark : Scan Unit := do
  let flow ← inFlow
  if !flow then
    if !(← get).keyAllowed then refuse "a key out of place"
    if ← openBlock (← column) then emit .blockMapping
  allowKey (!flow)
  dropKey
  forward 1
  emit .key

/-- The mark of a value. What may have begun as a key is one. -/
def valueMark : Scan Unit := do
  let s ← get
  let flow := s.flow != 0
  match s.openKeys.lookup s.flow with
  | some k =>
    modify fun s => { s with openKeys := s.openKeys.filter (·.1 != s.flow) }
    -- the block opens in the column of its first key, not of the colon
    let opens ← if flow then pure false else openBlock k.column
    insertAt k.place (if opens then [.blockMapping, .key] else [.key])
    allowKey false
  | none =>
    if !flow then
      if !s.keyAllowed then refuse "a value out of place"
      if ← openBlock (← column) then emit .blockMapping
    allowKey (!flow)
    dropKey
  forward 1
  emit .value

/-- The name behind the mark of an anchor or of a reference to one. -/
def anchorName : Scan String := do
  noteKey
  allowKey false
  forward 1
  let name ← takeWhile isNameChar
  if name.isEmpty then refuse "an anchor without a name"
  match ← peek with
  | none => pure (String.ofList name)
  | some c =>
    if isSpace c || isBreak c || "?:,]\x7d%@`".toList.contains c then pure (String.ofList name)
    else refuse "an unfit name of an anchor"

def block (fold : Bool) : Scan Unit := do
  allowKey true
  dropKey
  let text ← blockText fold
  emit (.scalar text false)

def quoted (quote : Char) : Scan Unit := do
  noteKey
  allowKey false
  let text ← quotedText quote
  emit (.scalar text false)

def plain : Scan Unit := do
  noteKey
  allowKey false
  let text ← plainText
  emit (.scalar text true)

/-- Whether a plain text can start with `c`, where `after` comes behind it. -/
def startsPlain (flow : Bool) (c : Char) (after : Option Char) : Bool :=
  !(isSpace c || isBreak c || "-?:,[]\x7b\x7d#&*!|>\x27\x22%@`".toList.contains c) ||
    (!endsWord after && (c == '-' || (!flow && (c == '?' || c == ':'))))

/-- The mark between documents that starts with `c`, if one stands here. -/
def markOf? (c : Char) : Scan (Option Token) := do
  if (c == '-' || c == '.') && (← column) == 0 then
    let found ← atDocumentMark
    pure (if !found then none else some (if c == '-' then .documentStart else .documentEnd))
  else pure none

/-- The character behind `c`, if it decides about the token that starts with `c`. -/
def behind? (flow : Bool) (c : Char) : Scan (Option Char) := do
  if c == '-' || (!flow && (c == '?' || c == ':')) then peekAt 1 else pure none

def token (c : Char) : Scan Unit := do
  if let some mark ← markOf? c then return (← documentMark mark)
  let flow ← inFlow
  let after ← behind? flow c
  if c == '%' && (← column) == 0 then directive
  else if c == '[' then openFlow .flowSequence
  else if c == '\x7b' then openFlow .flowMapping
  else if c == ']' then closeFlow .flowSequenceEnd
  else if c == '\x7d' then closeFlow .flowMappingEnd
  else if c == ',' then flowEntry
  else if c == '-' && endsWord after then blockEntry
  else if c == '?' && (flow || endsWord after) then keyMark
  else if c == ':' && (flow || endsWord after) then valueMark
  else if c == '*' then emit (.reference (← anchorName))
  else if c == '&' then emit (.label (← anchorName))
  else if c == '!' then tag
  else if c == '|' && !flow then block false
  else if c == '>' && !flow then block true
  else if c == '\x27' || c == '\x22' then quoted c
  else if startsPlain flow c after then plain
  else refuse "a character that starts no token"

/-- Reads what comes next: a token, perhaps behind the ends of blocks, or the end of the text. -/
def readOn : Scan Unit := do
  gap
  dropStale
  unwind (← column)
  match ← peek with
  | some c => token c
  | none =>
    unwind (-1)
    dropKey
    modify fun s => { s with openKeys := [], done := true }

/-- Whether the next token is not known yet: there is none, or the mark of a key may come before it.
-/
def needsMore : Scan Bool := do
  if (← get).done then return false
  if (← get).queue.isEmpty then return true
  dropStale
  let s ← get
  return s.openKeys.any (·.2.place == s.taken)

/-- Reads until the next token is known. The argument bounds the number of steps. -/
def settle : Nat → Scan Unit
  | 0 => pure ()
  | steps + 1 => do
    if ← needsMore then
      readOn
      settle steps

/-- The next token, which stays; none at the end of the text. -/
def peekToken : Scan (Option Token) := do
  settle ((← size) + 1)
  pure (← get).queue.head?

def skipToken : Scan Unit :=
  modify fun s => { s with queue := s.queue.drop 1, taken := s.taken + 1 }

end CopperRoute.Yaml.Scan
