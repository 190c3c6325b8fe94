import CopperRoute.Fault
import CopperRoute.Number.Numeral
import CopperRoute.Record

/-!
# Scanning a route

    route (String) ──scan──▶ tokens (List Token), and where and why scanning stopped

A route is cut into tokens before any of them is obeyed.
-/

namespace CopperRoute.Route

/-! ## Route tokens

A route is a line of commands: choose a layer, go to a position, place a via, lift the pen, use a
net. A token is a command together with its place and its text in the route.
-/

inductive Command where
  /-- go on on a layer -/
  | layer (layer : Layer)
  /-- go to a position relative to the anchor -/
  | point (target : Point)
  /-- place a via and change to the opposite layer -/
  | via
  /-- end the trace; the next position starts a new one -/
  | penUp
  /-- use the named net from here on -/
  | net (name : String)

/-- A command, the position of its first character and its text. -/
structure Token where
  position : Nat
  text : String
  command : Command

/-! ## Positions in a route

A position is a pair of numerals between parentheses, such as `(1.5,-2)` or `( 1.5 -2 )`. Commas and
blanks separate alike, in any number and also next to the parentheses. Each numeral has to stand for
a finite double. A text that is no position is reported together with the route it stands in and its
place there, as far as they are known.
-/

open CopperRoute.Number CopperRoute.Text

def isSeparator (c : Char) : Bool := isBlank c || c == ','

def dropOpening : List Char → List Char
  | '(' :: rest => rest
  | cs => cs

def dropClosing (cs : List Char) : List Char :=
  if cs.getLast? == some ')' then cs.dropLast else cs

/-- The finite double that `cs` is a numeral of. -/
def finite? (cs : List Char) : Option Float :=
  (Numeral.ofChars? cs).bind fun n =>
    let x := n.toFloat
    if isFinite x then some x else none

/-- The position that `cs` writes. The parentheses may be missing. -/
def position? (cs : List Char) : Option Point :=
  match splitRuns isSeparator (dropClosing (dropOpening cs)) with
  | [x, y] => do
    let x ← finite? x
    let y ← finite? y
    pure ⟨x, y⟩
  | _ => none

/-- The place of a text in its route as a caller gives it: a whole number that can be written. -/
def Offset := {i : Int // isWritable i = true}

def noPosition (text : String) (route : Option String) (position : Option Offset) : Report :=
  let fault : RouteFault := ⟨.badPosition text, route, none⟩
  Report.make fault.kind fault.message
    { text := some text, route, position := position.map (·.1) } [] fault.suggestions

def readPosition (text : String) (route : Option String) (position : Option Offset) :
    Except Report Point :=
  match position? text.toList with
  | some p => .ok p
  | none => .error (noPosition text route position)

/-! ## From left to right

A route is read from left to right. Blanks between items are skipped; the letters of commands may be
of either case. A position reaches to the first closing parenthesis and a net name to the first
closing angle bracket, whatever stands between. At the first character that starts no item the scan
stops with a cause, and the tokens before it stand.
-/

/-- What the scan of a route gives: its tokens up to the end or up to where it stopped. -/
structure Scan where
  tokens : List Token
  stop : Option (Nat × RouteCause)

/-! ### Groups -/

/-- Splits `cs` at the first `close`: what stands before it, and what stands behind it. -/
def splitAtClose (close : Char) : List Char → Option (List Char × List Char)
  | [] => none
  | c :: cs =>
    if c == close then some ([], cs)
    else (splitAtClose close cs).map fun (body, rest) => (c :: body, rest)

/-- The two parts and the closing character make up the whole. -/
theorem splitAtClose_eq_some {close : Char} :
    ∀ {cs body rest : List Char}, splitAtClose close cs = some (body, rest) →
      cs = body ++ close :: rest ∧ close ∉ body
  | [], _, _, h => by simp [splitAtClose] at h
  | c :: cs, body, rest, h => by
    rw [splitAtClose] at h
    split at h
    · next hc =>
      obtain ⟨rfl, rfl⟩ := by simpa using h
      simp [beq_iff_eq.1 hc]
    · next hc =>
      obtain ⟨⟨body', rest'⟩, hs, he⟩ := Option.map_eq_some_iff.1 h
      obtain ⟨rfl, rfl⟩ := by simpa using he
      obtain ⟨rfl, hb⟩ := splitAtClose_eq_some hs
      exact ⟨rfl, by simp [hb, Ne.symm (by simpa using hc)]⟩

/-- Nothing is split where the closing character is missing. -/
theorem splitAtClose_eq_none_iff {close : Char} {cs : List Char} :
    splitAtClose close cs = none ↔ close ∉ cs := by
  induction cs with
  | nil => simp [splitAtClose]
  | cons c cs ih =>
    by_cases h : c = close
    · simp [splitAtClose, h]
    · simp [splitAtClose, h, ih, Ne.symm h]

theorem length_of_splitAtClose {close : Char} {cs body rest : List Char}
    (h : splitAtClose close cs = some (body, rest)) : rest.length ≤ cs.length := by
  rw [(splitAtClose_eq_some h).1]
  simp
  omega

/-! ### Items -/

/-- The command of the item that starts with `c` and may go on into `cs`, with what follows the
item; or why there is none. -/
def item (c : Char) (cs : List Char) :
    Except RouteCause (Command × { rest : List Char // rest.length ≤ cs.length }) :=
  if c == 'f' || c == 'F' then .ok (.layer .front, ⟨cs, Nat.le_refl _⟩)
  else if c == 'b' || c == 'B' then .ok (.layer .back, ⟨cs, Nat.le_refl _⟩)
  else if c == 'v' || c == 'V' then .ok (.via, ⟨cs, Nat.le_refl _⟩)
  else if c == 'x' || c == 'X' || c == '|' then .ok (.penUp, ⟨cs, Nat.le_refl _⟩)
  else if c == '(' then
    match h : splitAtClose ')' cs with
    | none => .error .openPosition
    | some (body, rest) =>
      let text := '(' :: body ++ [')']
      match position? text with
      | some p => .ok (.point p, ⟨rest, length_of_splitAtClose h⟩)
      | none => .error (.badPosition (String.ofList text))
  else if c == '<' then
    match h : splitAtClose '>' cs with
    | none => .error .openNet
    | some (body, rest) =>
      let name := trim body
      if name.isEmpty then .error .blankNet
      else .ok (.net (String.ofList name), ⟨rest, length_of_splitAtClose h⟩)
  else .error (.unknownCharacter c)

/-- Scans `cs`, which stands in the route from `position` on. -/
def scanFrom (position : Nat) : List Char → Scan
  | [] => ⟨[], none⟩
  | c :: cs =>
    if isBlank c then scanFrom (position + 1) cs
    else
      match item c cs with
      | .error cause => ⟨[], some (position, cause)⟩
      | .ok (command, rest) =>
        let size := cs.length + 1 - rest.1.length
        let token : Token := ⟨position, String.ofList ((c :: cs).take size), command⟩
        let later := scanFrom (position + size) rest.1
        ⟨token :: later.tokens, later.stop⟩
termination_by cs => cs.length
decreasing_by
  · simp
  · have := rest.2
    simp only [List.length_cons]
    omega

def scan (route : String) : Scan := scanFrom 0 route.toList

end CopperRoute.Route
