import CopperRoute.Log
import CopperRoute.Number.Numeral
import CopperRoute.Number.Shortest

/-!
# Line formats

How what was logged becomes a line. A format is text with fields in it:

    %(levelname)-8s    the name of a part, how it is filled up, and the letter of a style

A doubled percent sign stands for a single one. A format needs a field to be taken at all
(`hasField`). It can be followed if every percent sign in it belongs to a field whose style suits its
part, or to a doubled one (`pieces?`).
-/

namespace CopperRoute.Log

/-! ### What is logged -/

/-- Where in the program something was logged, when, and by whom. -/
structure Circumstances where
  path : String := ""
  file : String := ""
  unit : String := ""
  function : String := ""
  line : Nat := 0
  /-- the moment as text, and in seconds since the epoch -/
  moment : String := ""
  created : Float := 0
  /-- the milliseconds of the moment, and those since the program began -/
  milliseconds : Float := 0
  elapsed : Float := 0
  thread : Nat := 0
  threadName : String := ""
  process : Nat := 0
  processName : String := ""

structure Occurrence where
  event : Event
  circumstances : Circumstances := {}

def Occurrence.weight (o : Occurrence) : Nat := o.event.level.weight

/-- A part of what was logged. Of a whole number it is told whether it always is the code of a
character. -/
inductive Part where
  | text (of : Occurrence → String)
  | whole (of : Occurrence → Int) (isCode : Bool)
  | real (of : Occurrence → Float)

/-- The parts that a format can name. -/
def parts : List (String × Part) :=
  [("levelname", .text fun o => o.event.level.word),
    ("levelno", .whole (fun o => o.weight) true),
    ("name", .text fun o => o.event.channel),
    ("message", .text fun o => o.event.message),
    ("pathname", .text fun o => o.circumstances.path),
    ("filename", .text fun o => o.circumstances.file),
    ("module", .text fun o => o.circumstances.unit),
    ("funcName", .text fun o => o.circumstances.function),
    ("lineno", .whole (fun o => o.circumstances.line) false),
    ("asctime", .text fun o => o.circumstances.moment),
    ("created", .real fun o => o.circumstances.created),
    ("msecs", .real fun o => o.circumstances.milliseconds),
    ("relativeCreated", .real fun o => o.circumstances.elapsed),
    ("thread", .whole (fun o => o.circumstances.thread) false),
    ("threadName", .text fun o => o.circumstances.threadName),
    ("process", .whole (fun o => o.circumstances.process) false),
    ("processName", .text fun o => o.circumstances.processName)]

/-- A number of which it is told that it always is a code is one. -/
theorem isValidChar_of_isCode {name : String} {value : Occurrence → Int}
    (h : (name, Part.whole value true) ∈ parts) (o : Occurrence) : (value o).toNat.isValidChar := by
  obtain ⟨-, rfl⟩ : name = "levelno" ∧ value = fun o => ↑o.weight := by simpa [parts] using h
  show o.event.level.weight.isValidChar
  cases o.event.level <;> decide

/-! ### Fields -/

structure Filling where
  left : Bool := false
  zeros : Bool := false
  plus : Bool := false
  blank : Bool := false
  marked : Bool := false
  width : Nat := 0
  decimals : Option Nat := none
deriving Repr, DecidableEq

namespace Filling

def padded (f : Filling) (cs : List Char) : List Char :=
  let missing := List.replicate (f.width - cs.length) ' '
  if f.left then cs ++ missing else missing ++ cs

/-- Fills up a text, of which no more characters are kept than there may be decimals. -/
def text (f : Filling) (s : String) : List Char :=
  f.padded (match f.decimals with
    | some n => s.toList.take n
    | none => s.toList)

/-- Fills up a number. Its sign and the mark of its base stay in front of zeros. -/
def number (f : Filling) (negative : Bool) (mark digits : List Char) : List Char :=
  let sign := if negative then ['-'] else if f.plus then ['+'] else if f.blank then [' '] else []
  let front := sign ++ mark
  if f.zeros && !f.left then
    front ++ List.replicate (f.width - front.length - digits.length) '0' ++ digits
  else f.padded (front ++ digits)

/-- Fills up a whole number, with at least as many digits as there may be decimals. The mark of the
base is written if it is asked for. -/
def whole (f : Filling) (base : Nat) (mark : List Char) (upper : Bool) (i : Int) : List Char :=
  let cased := List.map fun c : Char => if upper then c.toUpper else c
  let digits := Nat.toDigits base i.natAbs
  let digits := List.replicate (f.decimals.getD 0 - digits.length) '0' ++ digits
  f.number (i < 0) (if f.marked then cased mark else []) (cased digits)

/-- Fills up a number in a form, with six decimals or figures unless told otherwise. -/
def real (f : Filling) (form : Number.Form) (upper : Bool) (x : Float) : List Char :=
  let cased := List.map fun c : Char => if upper then c.toUpper else c
  match Number.exact x with
  | .finite v => f.number v.negative [] (cased (v.inForm form (f.decimals.getD 6) f.marked))
  | .infinite negative => f.number negative [] (cased ['i', 'n', 'f'])
  | .undefined => f.number false [] (cased ['n', 'a', 'n'])

end Filling

inductive Style where
  | plain
  /-- quoted, and with escapes for all but the basic characters if these are asked for -/
  | quoted (basic : Bool)
  /-- as the character with this code -/
  | code
  | whole (base : Nat) (mark : List Char) (upper : Bool)
  | real (form : Number.Form) (upper : Bool)
deriving Repr, DecidableEq

def Style.ofLetter? : Char → Option Style
  | 's' => some plain
  | 'r' => some (quoted false)
  | 'a' => some (quoted true)
  | 'c' => some code
  | 'd' | 'i' | 'u' => some (whole 10 [] false)
  | 'o' => some (whole 8 ['0', 'o'] false)
  | 'x' => some (whole 16 ['0', 'x'] false)
  | 'X' => some (whole 16 ['0', 'x'] true)
  | 'f' => some (real .fixed false)
  | 'F' => some (real .fixed true)
  | 'e' => some (real .scientific false)
  | 'E' => some (real .scientific true)
  | 'g' => some (real .general false)
  | 'G' => some (real .general true)
  | _ => none

def Filling.widthLimit : Nat := 9223372036854775807

/-- The most decimals. The digits before the point of a number, which are 309 at most, must have room
beside them. -/
def Style.decimalsLimit : Style → Nat
  | whole .. => 2147483644
  | real .. => 2147483337
  | _ => 2147483647

/-- Whether a filling can be followed in a style. -/
def Style.admits (style : Style) (f : Filling) : Bool :=
  f.width ≤ Filling.widthLimit && f.decimals.all (· ≤ style.decimalsLimit)

/-- Whether a part can be written in a style. A text is no number, and a number with decimals is
written as a whole one to the base ten alone. -/
def Part.suits : Part → Style → Bool
  | _, .plain | _, .quoted _ => true
  | text _, _ => false
  | whole _ isCode, .code => isCode
  | whole _ _, _ => true
  | real _, .whole base _ _ => base == 10
  | real _, .real _ _ => true
  | real _, .code => false

/-- A part in the style and the filling that a format asks for. -/
structure Field where
  part : Part
  filling : Filling
  style : Style

def cutReal (x : Float) : Int :=
  match Number.exact x with
  | .finite v => v.truncate
  | _ => 0

/-- `s` in quotes, with escapes for all but the basic characters if these are asked for. -/
def quotedText (s : String) (basic : Bool) : String :=
  let escaped (c : Char) : List Char :=
    if basic && !(c.toNat < 0x80) then Text.codeEscape c.toNat else [c]
  String.ofList ((Text.quoted s).toList.flatMap escaped)

def Field.show (f : Field) (o : Occurrence) : List Char :=
  match f.part, f.style with
  | .text of, .quoted basic => f.filling.text (quotedText (of o) basic)
  | .text of, _ => f.filling.text (of o)
  | .whole of _, .whole base mark upper => f.filling.whole base mark upper (of o)
  | .whole of _, .real form upper =>
    f.filling.real form upper (Number.nearest (of o < 0) (of o).natAbs 1)
  | .whole of _, .code => f.filling.padded [Char.ofNat (of o).toNat]
  | .whole of _, _ => f.filling.text (toString (of o))
  | .real of, .whole base mark upper => f.filling.whole base mark upper (cutReal (of o))
  | .real of, .real form upper => f.filling.real form upper (of o)
  | .real of, _ => f.filling.text (Number.text (of o))

/-! ### Reading a format -/

/-- The marks that may stand before the width of a field. -/
def isFlag (c : Char) : Bool := ['#', '0', '+', ' ', '-'].contains c

/-- The name in parentheses behind a percent sign, and what follows it. -/
def named? : List Char → Option (List Char × List Char)
  | '%' :: '(' :: cs =>
    match cs.dropWhile (· != ')') with
    | _ :: rest => some (cs.takeWhile (· != ')'), rest)
    | [] => none
  | _ => none

/-- The filling that `cs` starts with, and what follows it. -/
def filling (cs : List Char) : Filling × List Char :=
  let flags := cs.takeWhile isFlag
  let behind := cs.dropWhile isFlag
  let width := Number.digitsValue (behind.takeWhile Char.isDigit)
  let (decimals, rest) :=
    match behind.dropWhile Char.isDigit with
    | '.' :: rest =>
      (some (Number.digitsValue (rest.takeWhile Char.isDigit)), rest.dropWhile Char.isDigit)
    | rest => (none, rest)
  ({ left := flags.contains '-'
     zeros := flags.contains '0'
     plus := flags.contains '+'
     blank := flags.contains ' '
     marked := flags.contains '#'
     width
     decimals }, rest)

def field? (cs : List Char) : Option (Field × List Char) := do
  let (name, behind) ← named? cs
  let part ← parts.lookup (String.ofList name)
  match filling behind with
  | (filling, letter :: rest) =>
    let style ← Style.ofLetter? letter
    if part.suits style && style.admits filling then some (⟨part, filling, style⟩, rest) else none
  | (_, []) => none

inductive Piece where
  | char (c : Char)
  | field (f : Field)

def Piece.show (o : Occurrence) : Piece → List Char
  | char c => [c]
  | field f => f.show o

/-- The pieces of a format, unless there is a percent sign that cannot be followed. The first
argument bounds the number of pieces. -/
def piecesFrom? : Nat → List Char → Option (List Piece)
  | 0, _ => some []
  | _, [] => some []
  | size + 1, c :: cs =>
    match field? (c :: cs), c == '%', cs with
    | some (f, rest), _, _ => (piecesFrom? size rest).map (.field f :: ·)
    | none, true, '%' :: rest => (piecesFrom? size rest).map (.char '%' :: ·)
    | none, true, _ => none
    | none, false, _ => (piecesFrom? size cs).map (.char c :: ·)

/-- The pieces of a format that can be followed. -/
def pieces? (format : String) : Option (List Piece) := piecesFrom? format.length format.toList

/-- The line of what was logged. A format that cannot be followed gives none. -/
def line (format : String) (o : Occurrence) : String :=
  match pieces? format with
  | some ps => String.ofList (ps.flatMap (Piece.show o)) ++ "\n"
  | none => ""

/-! ### Which formats are taken -/

/-- The letters of all styles, those included that suit no part. -/
def styleLetters : List Char :=
  ['d', 'i', 'o', 'u', 'x', 'e', 'f', 'g', 'c', 'r', 's', 'a', '%']

/-- Whether `c` is one of these letters, in any case. The dotted and the dotless i and the long s
count as well. -/
def isStyleLetter (c : Char) : Bool :=
  styleLetters.contains c.toLower || ['\u0130', '\u0131', '\u017f'].contains c

/-- Drops a number, or a star in its place. -/
def dropNumber : List Char → List Char
  | '*' :: cs => cs
  | cs => cs.dropWhile Text.isDecimal

def startsStyle (cs : List Char) : Bool :=
  let behind := dropNumber (cs.dropWhile isFlag)
  let rest :=
    match behind with
    | '.' :: decimals => if dropNumber decimals = decimals then behind else dropNumber decimals
    | _ => behind
  rest.head?.any isStyleLetter

/-- Whether `cs` starts with the outline of a field. -/
def startsField (cs : List Char) : Bool :=
  match named? cs with
  | some (name, behind) => !name.isEmpty && name.all Text.isNameChar && startsStyle behind
  | none => false

/-- Whether the outline of a field stands anywhere in `cs`. -/
def holdsField : List Char → Bool
  | [] => false
  | c :: cs => startsField (c :: cs) || holdsField cs

def hasField (format : String) : Bool := holdsField format.toList

def defaultFormat : String := "[%(levelname)s] %(name)s: %(message)s"

/-- What stands for a format with nothing in it. -/
def emptyFormat : String := "%(message)s"

/-- The format that lines get if `format` is asked for. -/
def chosen (format : Option String) : String :=
  match format with
  | none => defaultFormat
  | some "" => emptyFormat
  | some format => format

def isFitFormat (format : String) : Bool := hasField format && (pieces? format).isSome

end CopperRoute.Log
