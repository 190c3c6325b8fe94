import CopperRoute.Text.Code
import CopperRoute.Yaml.Token

/-!
# YAML texts

The four ways in which a document writes a text: between quotes of either sort, plain, or as a block
of lines. A line end inside a quoted or plain text stands for a blank; of several line ends the
first does not count.
-/

namespace CopperRoute.Yaml.Scan

/-! ### Quoted texts -/

def shortEscapes : List (Char × Char) :=
  [('0', '\x00'), ('a', '\x07'), ('b', '\x08'), ('t', '\t'), ('\t', '\t'), ('n', '\n'),
    ('v', '\x0b'), ('f', '\x0c'), ('r', '\r'), ('e', '\x1b'), (' ', ' '), ('\x22', '\x22'),
    ('\\', '\\'), ('/', '/'), ('N', '\x85'), ('_', '\u00a0'), ('L', '\u2028'), ('P', '\u2029')]

/-- How many hexadecimal digits an escape by code point has. -/
def escapeWidth? (c : Char) : Option Nat :=
  match c with
  | 'x' => some 2
  | 'u' => some 4
  | 'U' => some 8
  | _ => none

def hexNumber (width : Nat) : Scan Nat := do
  let digits := (← rest).take width
  match Text.hexNumber? digits with
  | none => refuse "an escape that is no number"
  | some n =>
    if digits.length < width then
      discard (peekAt digits.length)
      refuse "an escape that is cut short"
    pure n

/-- The second half of a character whose first half an escape gave, if it follows. -/
def secondHalf? : Scan (Option Nat) := do
  match ← rest with
  | '\\' :: 'u' :: cs =>
    let low := Text.hexNumber? (cs.take 4)
    pure (low.filter fun n => 0xdc00 ≤ n && n < 0xe000)
  | _ => pure none

/-- A character given by `width` hexadecimal digits, where two escapes may give one half each. A
number that is no code point stands for no character. -/
def codePoint (width : Nat) : Scan Char := do
  let n ← hexNumber width
  if h : n.isValidChar then
    forward width
    pure (Char.ofNatAux n h)
  else if 0xd800 ≤ n && n < 0xdc00 then
    forward width
    match ← secondHalf? with
    | some low =>
      forward 6
      pure (Char.ofNat (0x10000 + 0x400 * (n - 0xd800) + (low - 0xdc00)))
    | none => throw (.breakdown .unfitValue)
  else throw (.breakdown .unfitValue)

/-- The line ends of a quoted text, with the blanks at the start of each line passed over. The first
argument bounds their number. -/
def quotedBreaks : Nat → Scan (List Char)
  | 0 => pure []
  | lines + 1 => do
    if ← atDocumentMark then refuse "the end of a document inside a text"
    discard (takeWhile isSpace)
    match ← lineBreak with
    | [] => pure []
    | br => return br ++ (← quotedBreaks lines)

/-- What a line end stands for together with those behind it. -/
def folded (first more : List Char) : List Char :=
  if first != ['\n'] then first ++ more else if more.isEmpty then [' '] else more

def quotedSpaces : Scan (List Char) := do
  let spaces ← takeWhile isSpace
  if (← peek).isNone then refuse "a text without end"
  match ← lineBreak with
  | [] => pure spaces
  | first =>
    let more ← quotedBreaks (← size)
    pure (folded first more)

/-- What a backslash stands for together with what follows it. -/
def escape : Scan (List Char) := do
  match ← peek with
  | none => refuse "a text without end"
  | some c =>
    match shortEscapes.lookup c, escapeWidth? c with
    | some d, _ =>
      forward 1
      pure [d]
    | none, some width =>
      forward 1
      return [← codePoint width]
    | none, none =>
      match ← lineBreak with
      | [] => refuse "an unknown escape"
      | _ => quotedBreaks (← size)

/-- Whether a character of a quoted text stands for itself. -/
def isOrdinary (c : Char) : Bool :=
  !(c == '\x27' || c == '\x22' || c == '\\' || isSpace c || isBreak c)

/-- A quoted text up to its closing quote. The first argument bounds the number of its parts. -/
def quotedFrom (quote : Char) : Nat → Scan (List Char)
  | 0 => refuse "a text without end"
  | parts + 1 => do
    let cs ← takeWhile isOrdinary
    match ← peek with
    | none => refuse "a text without end"
    | some c =>
      let part ←
        -- between single quotes a doubled one stands for itself
        if quote == '\x27' && c == quote && (← peekAt 1) == some quote then
          forward 2
          pure [quote]
        else if c == quote then
          forward 1
          return cs
        else if quote == '\x22' && c == '\\' then
          forward 1
          escape
        else if isSpace c || isBreak c then quotedSpaces
        else
          forward 1
          pure [c]
      return cs ++ part ++ (← quotedFrom quote parts)

def quotedText (quote : Char) : Scan String := do
  forward 1
  let cs ← quotedFrom quote (← size)
  pure (String.ofList cs)

/-! ### Plain texts -/

/-- The characters that a word of a plain text takes. A colon ends it before a blank, and inside
flow collections before their marks as well; those end it by themselves. -/
def plainWord (flow : Bool) : List Char → List Char
  | [] => []
  | c :: cs =>
    let stops :=
      isSpace c || isBreak c ||
        (c == ':' && (endsWord cs.head? || (flow && cs.head?.any isFlowMark))) ||
        (flow && (isFlowMark c || c == '?'))
    if stops then [] else c :: plainWord flow cs

/-- The further line ends between two words of a plain text; none if the document ends among them.
The first argument bounds their number. -/
def plainBreaks : Nat → Scan (Option (List Char))
  | 0 => pure (some [])
  | lines + 1 => do
    discard (takeWhile (· == ' '))
    match ← lineBreak with
    | [] => pure (some [])
    | br =>
      if ← atDocumentMark then pure none
      else return (← plainBreaks lines).map (br ++ ·)

/-- The blanks and line ends between two words of a plain text; none where the text has to end. -/
def plainSpaces : Scan (Option (List Char)) := do
  let spaces ← takeWhile (· == ' ')
  match ← lineBreak with
  | [] => pure (if spaces.isEmpty then none else some spaces)
  | first =>
    allowKey true
    if ← atDocumentMark then pure none
    else return (← plainBreaks (← size)).map (folded first)

/-- A plain text from the next word on, behind `spaces`. The first argument bounds the number of
words. -/
def plainFrom (indent : Int) : Nat → List Char → Scan (List Char)
  | 0, _ => pure []
  | words + 1, spaces => do
    if (← peek) == some '#' then return []
    let word := plainWord (← inFlow) (← rest)
    -- whether a colon ends the word hangs on what follows it
    if (← peekAt word.length) == some ':' then discard (peekAt (word.length + 1))
    if word.isEmpty then return []
    allowKey false
    forward word.length
    match ← plainSpaces with
    | none => return spaces ++ word
    | some more =>
      if (← peek) == some '#' then return spaces ++ word
      if !(← inFlow) && (← column) < indent then return spaces ++ word
      return spaces ++ word ++ (← plainFrom indent words more)

def plainText : Scan String := do
  let s ← get
  let cs ← plainFrom (s.indent + 1) s.size []
  pure (String.ofList cs)

/-! ### Blocks of lines -/

/-- What becomes of the line ends at the end of a block. -/
inductive Chomp where
  | strip
  | clip
  | keep
deriving DecidableEq

def chomp? (c : Option Char) : Option Chomp :=
  match c with
  | some '+' => some .keep
  | some '-' => some .strip
  | _ => none

/-- A step of indentation given as a digit. -/
def blockStep : Scan (Option Nat) := do
  match ← peek with
  | some c =>
    if c == '0' then refuse "a step of indentation of zero"
    if c.isDigit then
      forward 1
      pure (some (c.toNat - 48))
    else pure none
  | none => pure none

/-- The marks behind the opening of a block: the line ends to keep and a step of indentation, in
either order. -/
def blockMarks : Scan (Chomp × Option Nat) := do
  let marks ←
    match chomp? (← peek) with
    | some chomp =>
      forward 1
      let step ← blockStep
      pure (chomp, step)
    | none =>
      let step ← blockStep
      match step, chomp? (← peek) with
      | some _, some chomp =>
        forward 1
        pure (chomp, step)
      | _, _ => pure (.clip, step)
  match ← peek with
  | none => pure marks
  | some c => if c == ' ' || isBreak c then pure marks else refuse "an unknown mark of a block"

def blockOpening : Scan Unit := do
  discard (takeWhile (· == ' '))
  if (← peek) == some '#' then discard (takeWhile (!isBreak ·))
  if !endsLine (← peek) then refuse "text on the line that opens a block"
  discard lineBreak

/-- The line ends before the first line of a block, and the greatest column that blanks reach among
them. The first argument bounds the number of steps. -/
def blockStart : Nat → Nat → List Char → Scan (List Char × Nat)
  | 0, reach, breaks => pure (breaks, reach)
  | steps + 1, reach, breaks => do
    match ← peek with
    | some c =>
      if c == ' ' then
        forward 1
        blockStart steps (max reach (← column)) breaks
      else if isBreak c then
        let br ← lineBreak
        blockStart steps reach (breaks ++ br)
      else pure (breaks, reach)
    | none => pure (breaks, reach)

def blockIndent (indent : Nat) : Scan Unit := do
  let spaces := (← rest).takeWhile (· == ' ')
  forward (min spaces.length (indent - (← column)))

/-- The line ends between two lines of a block. The first argument bounds their number. -/
def blockBreaks (indent : Nat) : Nat → Scan (List Char)
  | 0 => pure []
  | lines + 1 => do
    blockIndent indent
    match ← lineBreak with
    | [] => pure []
    | br => return br ++ (← blockBreaks indent lines)

/-- The lines of a block from the one here on, behind the line ends `breaks`: its text without the
line ends at its end, and those, the first apart. The first argument of the function proper bounds
the number of lines. -/
def blockLines (fold : Bool) (indent : Nat) :
    Nat → List Char → Scan (List Char × List Char × List Char)
  | 0, breaks => pure ([], [], breaks)
  | lines + 1, breaks => do
    if (← column) != indent || (← peek).isNone then return ([], [], breaks)
    -- lines that start with a blank are not folded
    let flush := !(← peek).any isSpace
    let line ← takeWhile (!isBreak ·)
    let br ← lineBreak
    let more ← blockBreaks indent (← size)
    if (← column) == indent && (← peek).isSome then
      let joint :=
        if fold && br == ['\n'] && flush && !(← peek).any isSpace then
          if more.isEmpty then [' '] else []
        else br
      let (text, last, tail) ← blockLines fold indent lines more
      return (breaks ++ line ++ joint ++ text, last, tail)
    else return (breaks ++ line, br, more)

def blockText (fold : Bool) : Scan String := do
  forward 1
  let (chomp, step) ← blockMarks
  blockOpening
  -- a block is indented further than what holds it
  let least := (max 1 ((← get).indent + 1)).toNat
  let size ← size
  let (breaks, indent) ←
    match step with
    | none => do
      let (breaks, reach) ← blockStart size 0 []
      pure (breaks, max least reach)
    | some step => do
      let indent := least + step - 1
      let breaks ← blockBreaks indent size
      pure (breaks, indent)
  let (text, last, tail) ← blockLines fold indent size breaks
  let ending :=
    match chomp with
    | .strip => []
    | .clip => last
    | .keep => last ++ tail
  pure (String.ofList (text ++ ending))

end CopperRoute.Yaml.Scan
