import CopperRoute.Text.Character
import CopperRoute.Text.Cells

/-!
# Wrapped text

A line that is too long for its place is broken between words, where a word takes the blanks behind
it along. A word that is too long itself is folded at the last cell, or left for `fitted` to cut
short.

    line ──expandTabs──▶ line ──wrap──▶ lines ──fitted──▶ lines in their place
-/

namespace CopperRoute.Text

/-- A line from the cell `column` on, with blanks up to the next eighth cell for each tab. -/
def expandTabsFrom (column : Nat) : List Char → List Char
  | [] => []
  | '\t' :: rest =>
    let gap := 8 - column % 8
    List.replicate gap ' ' ++ expandTabsFrom (column + gap) rest
  | c :: rest => c :: expandTabsFrom (column + cellWidth c) rest

def expandTabs (cs : List Char) : List Char := expandTabsFrom 0 cs

def trimEnd (cs : List Char) : List Char := (cs.reverse.dropWhile isBlank).reverse

/-- The words of a line with the blanks behind them, the first with those before it as well. A blank
line has none. -/
def phrases (cs : List Char) : List (List Char) :=
  match _h : cs.dropWhile isBlank with
  | [] => []
  | c :: rest =>
    let behind := (c :: rest).dropWhile fun a => !isBlank a
    (cs.takeWhile isBlank ++ (c :: rest).takeWhile (fun a => !isBlank a) ++
      behind.takeWhile isBlank) :: phrases (behind.dropWhile isBlank)
termination_by cs.length
decreasing_by
  exact Nat.lt_of_le_of_lt (length_dropWhile_le isBlank _) (length_afterRun_lt _h)

/-- A text in pieces of at most `width` cells. The first piece is `done` in reverse, which fills
`used` cells. -/
def foldedFrom (width : Nat) (done : List Char) (used : Nat) : List Char → List (List Char)
  | [] => [done.reverse]
  | c :: rest =>
    if used + cellWidth c ≤ width then foldedFrom width (c :: done) (used + cellWidth c) rest
    else done.reverse :: foldedFrom width [c] (cellWidth c) rest

/-- Lines that are being filled: those that are full and the phrases of the current one, both in
reverse, and how many cells the latter fill. -/
structure Filling where
  full : List (List Char) := []
  phrases : List (List Char) := []
  used : Nat := 0

namespace Filling

def lines (f : Filling) : List (List Char) := (f.phrases.reverse.flatten :: f.full).reverse

/-- The lines with `phrase` on a line of its own. -/
def next (f : Filling) (phrase : List Char) : Filling :=
  { full := if f.phrases.isEmpty then f.full else f.phrases.reverse.flatten :: f.full
    phrases := [phrase]
    used := cells phrase }

/-- The lines with a phrase more, whose blanks need no place. -/
def add (width : Nat) (fold : Bool) (f : Filling) (phrase : List Char) : Filling :=
  let needed := cells (trimEnd phrase)
  if f.used + needed ≤ width then
    { f with phrases := phrase :: f.phrases, used := f.used + cells phrase }
  else if needed ≤ width || !fold then f.next phrase
  else (foldedFrom width [] 0 phrase).foldl next f

end Filling

/-- The lines into which a line is broken to fit into `width` cells. -/
def wrap (width : Nat) (fold : Bool) (cs : List Char) : List (List Char) :=
  match phrases cs with
  | [] => [cs]
  | ps => (ps.foldl (Filling.add width fold) {}).lines

/-- A start of `cs` that fills `width` cells, with a blank for half of a wide character. Its length
is sought by halving between `lo` and `hi`: of several starts of that width the first one met
counts. -/
def startWithin (width : Nat) (cs : List Char) (lo hi : Nat) : List Char :=
  let mid := (lo + hi) / 2
  let start := cs.take (mid + 1)
  let filled := cells start
  if filled = width then start
  else if filled = width + 1 && start.getLast?.any (cellWidth · == 2) then start.dropLast ++ [' ']
  else if width < filled then if _h : mid < hi then startWithin width cs lo mid else start
  else if _h : lo < mid then startWithin width cs mid hi
  else start
termination_by hi - lo
decreasing_by all_goals omega

/-- What of a line is shown in `width` cells. Blanks at its end are dropped as far as there are more
characters than cells; an ellipsis stands for what is cut off after that. -/
def fitted (width : Nat) (cs : List Char) : List Char :=
  let blanks := cs.length - (trimEnd cs).length
  let kept := cs.take (cs.length - min blanks (cs.length - width))
  if cells kept ≤ width then kept else startWithin (width - 1) kept 0 kept.length ++ ['…']

end CopperRoute.Text
