import CopperRoute.Text.Character

/-!
# Command-line arguments

Arguments are options and words. An option is named by two dashes and a word, which may be cut short
as long as it stays unique, or by a dash and a letter, several of which may stand together. The
value of an option follows it, or stands behind an equals sign, or right behind its letter. Negative
numbers and whatever holds a space count as words, and so does everything behind two dashes alone.

    arguments (List String) ──sort──▶ List Argument ──take──▶ Taken

All arguments are sorted first, so that an option that could be several ones is refused before
anything else. Then they are taken in order, and what nothing takes is left over.
-/

namespace CopperRoute.Command

inductive FlagKind where
  /-- ends the reading with the help text -/
  | help
  /-- ends the reading with the version -/
  | version
  /-- is on or off -/
  | switch
  /-- takes a value, which has to pass a test -/
  | value (accepts : String → Bool)

def FlagKind.takesValue : FlagKind → Bool
  | value _ => true
  | help | version | switch => false

/-- An option with its names. Of the grouped options only one may be given. -/
structure Flag where
  key : String
  names : List String
  kind : FlagKind
  grouped : Bool := false

/-- Why the reading of arguments ends without a command. -/
inductive Stop where
  | help
  | version
  /-- arguments that do not fit -/
  | refused
deriving Repr, DecidableEq

/-! ### Sorting -/

/-- The text attached to the name of an option, and whether an equals sign attaches it. -/
structure Attached where
  equals : Bool
  text : List Char

/-- What an argument looks like. -/
inductive Shape where
  | word
  /-- two dashes alone -/
  | dashes
  /-- an option under the name that it was called by -/
  | flag (flag : Flag) (name : List Char) (attached : Option Attached)
  /-- an option that there is not -/
  | unknown

structure Argument where
  text : String
  shape : Shape

def Argument.isFlag (a : Argument) : Bool :=
  match a.shape with
  | .flag .. | .unknown => true
  | .word | .dashes => false

def findFlag (flags : List Flag) (name : List Char) : Option Flag :=
  flags.find? (·.names.contains (String.ofList name))

def splitEquals (cs : List Char) : List Char × Option Attached :=
  match cs.dropWhile (· != '=') with
  | [] => (cs, none)
  | _ :: rest => (cs.takeWhile (· != '='), some ⟨true, rest⟩)

/-- Every option under each of its names. -/
def allNames (flags : List Flag) : List (Flag × List Char) :=
  flags.flatMap fun f => f.names.map fun name => (f, name.toList)

/-- The options that a text can be short for. -/
def candidates (flags : List Flag) (cs : List Char) : List Shape :=
  if "--".toList.isPrefixOf cs then
    let (start, attached) := splitEquals cs
    (allNames flags).filterMap fun (f, name) =>
      if start.isPrefixOf name then some (.flag f name attached) else none
  else
    (allNames flags).filterMap fun (f, name) =>
      if name == cs.take 2 then some (.flag f name (some ⟨false, cs.drop 2⟩))
      else if cs.isPrefixOf name then some (.flag f name none)
      else none

/-- Whether a text is a negative number without an exponent. One line end may stand behind it. -/
def isNegativeNumber (cs : List Char) : Bool :=
  let cs := if cs.getLast? == some '\n' then cs.dropLast else cs
  match cs with
  | '-' :: ds =>
    let whole := ds.takeWhile Text.isDecimal
    match ds.dropWhile Text.isDecimal with
    | [] => !whole.isEmpty
    | '.' :: fraction => !fraction.isEmpty && fraction.all Text.isDecimal
    | _ => false
  | _ => false

def shapeOf (flags : List Flag) (arg : String) : Except Stop Shape :=
  let cs := arg.toList
  if cs.head? != some '-' then .ok .word
  else
    match findFlag flags cs with
    | some f => .ok (.flag f cs none)
    | none =>
      -- a dash alone
      if cs.length = 1 then .ok .word
      else
        let (name, attached) := splitEquals cs
        match attached, findFlag flags name with
        | some a, some f => .ok (.flag f name (some a))
        | _, _ =>
          -- only what no option is called in full can be short for one
          match candidates flags cs with
          | [shape] => .ok shape
          | _ :: _ :: _ => .error .refused
          | [] =>
            if isNegativeNumber cs || cs.contains ' ' then .ok .word else .ok .unknown

/-- Sorts arguments. All behind two dashes alone are words. -/
def sort (flags : List Flag) : List String → Except Stop (List Argument)
  | [] => .ok []
  | arg :: rest =>
    if arg == "--" then .ok (⟨arg, .dashes⟩ :: rest.map fun a => ⟨a, .word⟩)
    else do
      let shape ← shapeOf flags arg
      let rest ← sort flags rest
      pure (⟨arg, shape⟩ :: rest)

/-! ### Taking -/

/-- What arguments hold beside options. -/
inductive Positional where
  | none
  /-- one word -/
  | word
  /-- a word and all that follows it -/
  | command
deriving DecidableEq

/-- What was taken from arguments: options with their values in order, words, and what is left over.
-/
structure Taken where
  values : List (String × String) := []
  words : Option (String × List String) := none
  extras : List String := []

namespace Taken

/-- The last value of an option. -/
def get? (t : Taken) (key : String) : Option String :=
  (t.values.reverse.find? (·.1 == key)).map (·.2)

def has (t : Taken) (key : String) : Bool := (t.get? key).isSome

def apply (flags : List Flag) (t : Taken) : List (Flag × String) → Except Stop Taken
  | [] => .ok t
  | (f, value) :: rest =>
    let fits :=
      match f.kind with
      | .value accepts => accepts value
      | _ => true
    let conflicts := f.grouped && flags.any fun g => g.grouped && g.key != f.key && t.has g.key
    if !fits || conflicts then .error .refused
    else
      match f.kind with
      | .help => .error .help
      | .version => .error .version
      | _ => apply flags { t with values := t.values ++ [(f.key, value)] } rest

end Taken

/-- The options that one argument names, the last of them perhaps with a value from the arguments
behind it; what of it is left over; and the arguments that are left. The first argument bounds the
number of letters that stand together. -/
def cluster (flags : List Flag) (rest : List Argument) :
    Nat → Flag → List Char → Option Attached →
      Except Stop (List (Flag × String) × List String × List Argument)
  | letters, f, name, attached =>
    if f.kind.takesValue then
      match attached with
      | some a => .ok ([(f, String.ofList a.text)], [], rest)
      | none =>
        match rest with
        | ⟨text, .word⟩ :: rest => .ok ([(f, text)], [], rest)
        | _ => .error .refused
    else
      match attached, letters with
      | none, _ => .ok ([(f, "")], [], rest)
      | some ⟨equals, c :: cs⟩, letters + 1 =>
        if equals || c == '-' || "--".toList.isPrefixOf name then .error .refused
        else
          match findFlag flags ['-', c] with
          -- letters behind the first that name no option are left over
          | none => .ok ([(f, "")], [String.ofList ('-' :: c :: cs)], rest)
          | some g =>
            let attached :=
              match cs with
              | [] => none
              | '=' :: text => some ⟨true, text⟩
              | text => some ⟨false, text⟩
            (cluster flags rest letters g ['-', c] attached).map fun (taken, extras, rest) =>
              ((f, "") :: taken, extras, rest)
      | some _, _ => .error .refused

/-- Takes what is there beside options, if it comes next: the words, and the arguments that are
left. -/
def takeWords (p : Positional) (args : List Argument) :
    Except Stop (Option ((String × List String) × List Argument)) :=
  let isDashes (a : Argument) : Bool :=
    match a.shape with
    | .dashes => true
    | _ => false
  match p, args.dropWhile isDashes with
  | .word, ⟨text, .word⟩ :: rest => .ok (some ((text, []), rest.dropWhile isDashes))
  | .command, ⟨text, .word⟩ :: rest =>
    -- two dashes would become the name of the command
    if args.head?.any isDashes then .error .refused
    else .ok (some ((text, rest.map (·.text)), []))
  | _, _ => .ok none

/-- Takes arguments in order. The first argument bounds their number. -/
def takeFrom (flags : List Flag) :
    Nat → Positional → Taken → List Argument → Except Stop Taken
  | 0, _, t, args => .ok { t with extras := t.extras ++ args.map (·.text) }
  | _, _, t, [] => .ok t
  | count + 1, p, t, arg :: rest =>
    match arg.shape with
    | .flag f name attached => do
      let (taken, extras, rest) ← cluster flags rest arg.text.length f name attached
      let t ← t.apply flags taken
      takeFrom flags count p { t with extras := t.extras ++ extras } rest
    | .unknown => takeFrom flags count p { t with extras := t.extras ++ [arg.text] } rest
    | .word | .dashes => do
      match ← takeWords p (arg :: rest) with
      | some (words, rest) => takeFrom flags count .none { t with words := some words } rest
      | none => takeFrom flags count p { t with extras := t.extras ++ [arg.text] } rest

/-- Reads arguments. A word that is needed has to be there. -/
def take (flags : List Flag) (p : Positional) (args : List String) : Except Stop Taken := do
  let sorted ← sort flags args
  let t ← takeFrom flags (sorted.length + 1) p {} sorted
  if p = .word && t.words.isNone then throw .refused
  pure t

end CopperRoute.Command
