import CopperRoute.Yaml.Stamp
import CopperRoute.Yaml.Node

/-!
# Forms of YAML texts

A text without quotes is null, a truth value, a number or a moment if it has the form of one; any
other is just text. Whole numbers may be binary, octal behind a zero, decimal, hexadecimal or
sexagesimal; a double needs a point. Underscores among digits do not count.
-/

namespace CopperRoute.Yaml.Form

def unsigned : List Char → List Char
  | '-' :: cs => cs
  | '+' :: cs => cs
  | cs => cs

/-- Whether `c` is a digit to the base, or an underscore. -/
def isGrouped (isDigit : Char → Bool) (c : Char) : Bool := isDigit c || c == '_'

def isHex (c : Char) : Bool := c.isDigit || ('a' ≤ c && c ≤ 'f') || ('A' ≤ c && c ≤ 'F')

/-- Whether `cs` is not empty and all in a class. -/
def isRun (p : Char → Bool) (cs : List Char) : Bool := !cs.isEmpty && cs.all p

def colonParts (cs : List Char) : List (List Char) :=
  (String.ofList cs).splitOn ":" |>.map String.toList

/-- Whether `cs` is one of the parts of a sexagesimal number behind the first: below sixty. -/
def isSixty (cs : List Char) : Bool :=
  match cs with
  | [a] => a.isDigit
  | [a, b] => '0' ≤ a && a ≤ '5' && b.isDigit
  | _ => false

/-- Whether `cs` is a decimal that does not start with a zero. -/
def isDecimal (cs : List Char) : Bool :=
  cs.head?.any (fun c => '1' ≤ c && c ≤ '9') && cs.all (isGrouped Char.isDigit)

def isInt (cs : List Char) : Bool :=
  match unsigned cs with
  | ['0'] => true
  | '0' :: 'b' :: ds => isRun (isGrouped fun c => c == '0' || c == '1') ds
  | '0' :: 'x' :: ds => isRun (isGrouped isHex) ds
  | '0' :: ds => isRun (isGrouped fun c => '0' ≤ c && c ≤ '7') ds
  | ds =>
    match colonParts ds with
    | first :: rest => isDecimal first && rest.all isSixty
    | [] => false

def isExponent : List Char → Bool
  | [] => true
  | e :: sign :: ds =>
    (e == 'e' || e == 'E') && (sign == '+' || sign == '-') && isRun Char.isDigit ds
  | _ => false

/-- Whether `cs` is digits and underscores that start with a digit. -/
def startsWithDigit (cs : List Char) : Bool :=
  cs.head?.any Char.isDigit && cs.all (isGrouped Char.isDigit)

def infinityWords : List String := [".inf", ".Inf", ".INF"]

def undefinedWords : List String := [".nan", ".NaN", ".NAN"]

def isFloat (cs : List Char) : Bool :=
  let ds := unsigned cs
  let whole := ds.takeWhile (· != '.')
  let behind := (ds.dropWhile (· != '.')).drop 1
  let fraction := behind.takeWhile (isGrouped Char.isDigit)
  let tail := behind.dropWhile (isGrouped Char.isDigit)
  let pointed := ds.contains '.'
  let signed := cs.length != ds.length
  let plain := startsWithDigit whole && isExponent tail
  let bare := whole.isEmpty && !signed && startsWithDigit fraction && isExponent tail
  let sixty :=
    tail.isEmpty &&
      match colonParts whole with
      | first :: next :: rest => startsWithDigit first && (next :: rest).all isSixty
      | _ => false
  (pointed && (plain || bare || sixty)) || infinityWords.contains (String.ofList ds) ||
    undefinedWords.contains (String.ofList cs)

def boolWords : List (String × Bool) :=
  [("yes", true), ("no", false), ("true", true), ("false", false), ("on", true), ("off", false)]

/-- Whether a word is written in small letters, in capitals, or with one capital at its start. -/
def isWordCase (word : String) (s : String) : Bool :=
  s == word || s == word.toUpper || s == word.capitalize

/-- The type of a text without a line end at its end. -/
def tagOf (s : String) : Tag :=
  let cs := s.toList
  if s == "" || s == "~" || isWordCase "null" s then .null
  else if boolWords.any fun w => isWordCase w.1 s then .bool
  else if isFloat cs then .float
  else if isInt cs then .int
  else if s == "<<" then .merge
  else if (Stamp.ofChars? cs).any Stamp.isPlain then .moment
  else if s == "=" then .default
  -- marks of the language have a type of their own, which no value has
  else if ["!", "&", "*"].contains s then .other
  else .text

/-- The type that a text shows by its form. A line end at its end does not count, unless it is all
there is. -/
def tag (s : String) : Tag :=
  let cs := s.toList
  if cs.getLast? == some '\n' then
    if cs.length == 1 then .text else tagOf (String.ofList cs.dropLast)
  else tagOf s

end CopperRoute.Yaml.Form
