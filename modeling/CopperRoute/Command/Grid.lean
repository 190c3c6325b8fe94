import CopperRoute.Text.Emoji
import CopperRoute.Text.Wrap

/-!
# What is shown on a screen

Texts are shown with markup, and grids are made of such texts.
-/

namespace CopperRoute.Command

/-! ## Markup

Texts for a screen are written with markup: a tag in brackets, such as `[red]`, colours what follows
up to the tag that closes it. A backslash before a tag takes its meaning away, and two backslashes
stand for one. `escaped` guards a text against being read as markup, and `shown` is what of a text
with markup comes to the screen: no tags, emoji for their names, and no orders to the screen.

    text ──escaped──▶ markup ──shown──▶ text on the screen
-/

/-- Whether a screen would take a character as an order instead of showing it. -/
def isOrder (c : Char) : Bool := ['\x07', '\x08', '\x0b', '\x0c', '\x0d'].contains c

namespace Markup

def isTagStart (c : Char) : Bool := ('a' ≤ c && c ≤ 'z') || ['#', '/', '@'].contains c

/-- Whether the text behind an opening bracket makes a tag: it starts like one, and a bracket that
closes comes before another that opens. -/
def isTag (behind : List Char) : Bool :=
  behind.head?.any isTagStart &&
    (behind.dropWhile fun c => c != '[' && c != ']').head? == some ']'

def backslashes (n : Nat) : List Char := List.replicate n '\\'

/-- A text with each tag escaped, behind a run of backslashes. -/
def escapedFrom (run : Nat) : List Char → List Char
  | [] => backslashes run
  | c :: rest =>
    if c = '\\' then escapedFrom (run + 1) rest
    else if c = '[' && isTag rest then backslashes (2 * run + 1) ++ c :: escapedFrom 0 rest
    else backslashes run ++ c :: escapedFrom 0 rest

/-- A text as markup. A single backslash at its end is doubled, so that it cannot take away the
meaning of a tag behind it. -/
def escaped (cs : List Char) : List Char :=
  let marked := escapedFrom 0 cs
  match marked.reverse with
  | '\\' :: '\\' :: _ => marked
  | '\\' :: _ => marked ++ ['\\']
  | _ => marked

/-- The pieces between the tags of a markup. The first of them is `piece` in reverse so far, and a
run of backslashes follows it. -/
def piecesFrom (run : Nat) (piece cs : List Char) : List (List Char) :=
  match cs with
  | [] => [(backslashes run ++ piece).reverse]
  | c :: rest =>
    if c = '\\' then piecesFrom (run + 1) piece rest
    else if c = '[' && isTag rest then
      let tag := if run % 2 = 1 then '[' :: rest.takeWhile (· != ']') ++ [']'] else []
      piece.reverse :: backslashes (run / 2) :: tag ::
        piecesFrom 0 [] ((rest.dropWhile (· != ']')).drop 1)
    else piecesFrom 0 (c :: (backslashes run ++ piece)) rest
termination_by cs.length
decreasing_by
  all_goals simp only [List.length_cons, List.length_drop]
  · omega
  · have := Text.length_dropWhile_le (· != ']') rest
    omega
  · omega

/-- A piece without the backslashes before its brackets. -/
def bare : List Char → List Char
  | '\\' :: '[' :: rest => '[' :: bare rest
  | c :: rest => c :: bare rest
  | [] => []

/-- What of a text with markup comes to the screen. -/
def shown (markup : List Char) : List Char :=
  ((piecesFrom 0 [] markup).flatMap fun piece => Text.withEmoji (bare piece)).filter (!isOrder ·)

def coloured (colour : String) (cs : List Char) : List Char :=
  s!"[{colour}]".toList ++ escaped cs ++ s!"[/{colour}]".toList

end Markup

/-! ## Grids

What is shown as a table on a screen: a title, names of columns and rows of cells, all of them with
markup. A cell may hold several lines, which stand below each other in the same column. A column is
as wide as its widest line, and the title is broken where it is wider than all columns together.
`titleLines` and `lines` are the lines of both as they are shown.
-/

/-- Whether a line ends with `c` when the width of a text is taken. -/
def endsLine (c : Char) : Bool :=
  ['\n', '\x1c', '\x1d', '\x1e', '\u0085', '\u2028', '\u2029'].contains c

structure Grid where
  title : List Char
  header : List (List Char)
  rows : List (List (List Char))
deriving Repr, DecidableEq

namespace Grid

/-- The texts of all rows as they are shown, the header first. -/
def shownRows (g : Grid) : List (List (List Char)) :=
  (g.header :: g.rows).map fun row => row.map Markup.shown

/-- The width of a text that may have several lines. A tab has none here. -/
def textWidth (cs : List Char) : Nat :=
  ((Text.splitRuns endsLine cs).map Text.cells).foldl max 0

def widths (g : Grid) : List Nat :=
  g.shownRows.foldl (fun ws row => ws.zipWith max (row.map textWidth)) (g.header.map fun _ => 0)

def cellLines (width : Nat) (cs : List Char) : List (List Char) :=
  (cs.splitOn '\n').flatMap fun line =>
    (Text.wrap width false (Text.expandTabs line)).map (Text.fitted width)

def rowLines (widths : List Nat) (row : List (List Char)) : List (List String) :=
  let columns := (widths.zipWith cellLines row).map List.toArray
  let height := (columns.map Array.size).foldl max 1
  (List.range height).map fun i => columns.map fun lines => String.ofList (lines[i]?.getD [])

def lines (g : Grid) : List (List String) := g.shownRows.flatMap (rowLines g.widths)

/-- The width of the grid: a column has a blank on either side, and borders around it. -/
def width (g : Grid) : Nat := (g.widths.map (· + 3)).foldr (· + ·) 1

def titleLines (g : Grid) : List String :=
  ((Markup.shown g.title).splitOn '\n').flatMap fun line =>
    (Text.wrap g.width true (Text.expandTabs line)).map String.ofList

def lineText (widths : List Nat) (line : List String) : String :=
  let padded := widths.zipWith (fun w cell => cell.pushn ' ' (w - Text.cells cell.toList)) line
  " " ++ " | ".intercalate padded ++ "\n"

def text (g : Grid) : String :=
  String.join (g.titleLines.map (· ++ "\n")) ++ String.join (g.lines.map (lineText g.widths))

end Grid

end CopperRoute.Command
