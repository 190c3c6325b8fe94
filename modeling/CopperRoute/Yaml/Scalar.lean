import CopperRoute.Text.Code
import CopperRoute.Value
import CopperRoute.Yaml.Form

/-!
# YAML scalars

The value of a text of a given type. A type that the text shows by its form fits it; one that a tag
names may not, and what goes wrong then depends on the type.
-/

namespace CopperRoute.Yaml.Scalar

/-- The text stands for no value of its type. -/
def breakOn {α : Type} (cause : Breakdown) : Except Unreadable α := .error (.breakdown cause)

/-! ### Numbers -/

/-- Splits off a sign, where the text may not be empty. -/
def splitSign (cs : List Char) : Except Unreadable (Bool × List Char) :=
  if cs.isEmpty then breakOn .noSuchIndex else .ok (Number.splitSign cs)

def decimal (cs : List Char) : Except Unreadable Int :=
  match Number.wholeLiteral? (String.ofList cs) with
  | some i => .ok i
  | none => breakOn .unfitValue

def based (base : Nat) (mark : Char) (cs : List Char) : Except Unreadable Int :=
  match Number.markedLiteral? base mark cs with
  | some i => .ok i
  | none => breakOn .unfitValue

/-- The size of a whole number without sign and underscores. -/
def sizeOf (cs : List Char) : Except Unreadable Int :=
  match cs with
  | [] => breakOn .noSuchIndex
  | ['0'] => .ok 0
  | '0' :: 'b' :: ds => based 2 'b' ds
  | '0' :: 'x' :: ds => based 16 'x' ds
  | '0' :: _ => based 8 'o' cs
  | _ => do
    let parts ← (Form.colonParts cs).mapM decimal
    pure (parts.foldl (fun n part => 60 * n + part) 0)

def int (s : String) : Except Unreadable Int := do
  let (negative, cs) ← splitSign (s.toList.filter (· != '_'))
  let size ← sizeOf cs
  pure (if negative then -size else size)

def decimalFloat (cs : List Char) : Except Unreadable Float :=
  match Number.literal? (String.ofList cs) with
  | some x => .ok x
  | none => breakOn .unfitValue

/-- The sum of sexagesimal places, the last one first, where `weight` is what the first of them
counts. -/
def sixtieths (sum : Float) (weight : Nat) : List Float → Except Unreadable Float
  | [] => .ok sum
  | x :: rest =>
    match Number.ofInt? weight with
    | some w => sixtieths (sum + x * w) (60 * weight) rest
    | none => breakOn .outOfRange

def float (s : String) : Except Unreadable Float := do
  let cs := (s.toList.filter (· != '_')).map Char.toLower
  let (negative, ds) ← splitSign cs
  if ds == ".inf".toList then pure (Number.infinity negative)
  else if ds == ".nan".toList then pure Number.undefined
  else
    let size ←
      if ds.contains ':' then do
        let places ← (Form.colonParts ds).mapM decimalFloat
        sixtieths 0 1 places.reverse
      else decimalFloat ds
    pure (if negative then -size else size)

/-! ### Other types -/

def bool (s : String) : Except Unreadable Bool :=
  match Form.boolWords.lookup s.toLower with
  | some b => .ok b
  | none => breakOn .noSuchKey

/-- The moment that a text writes, where a line end at its end does not count. -/
def moment (s : String) : Except Unreadable Moment :=
  let cs := s.toList
  let cs := if cs.getLast? == some '\n' then cs.dropLast else cs
  match Stamp.ofChars? cs with
  | none => breakOn .noSuchPart
  | some stamp =>
    match stamp.moment? with
    | some m => .ok m
    | none => breakOn .unfitValue

def bytes (s : String) : Except Unreadable (List UInt8) :=
  let cs := s.toList
  if cs.all (·.toNat < 128) then
    match Text.Base64.decode cs with
    | some bs => .ok bs
    | none => .error (.malformed "bytes that are not complete")
  else .error (.malformed "bytes in other than basic characters")

def value (s : String) : Tag → Except Unreadable Value
  | .null => .ok .null
  | .bool => (bool s).map .bool
  | .int => (int s).map .int
  | .float => (float s).map .float
  | .text => .ok (.text s)
  | .moment => (moment s).map .moment
  | .bytes => (bytes s).map .bytes
  | .list | .table | .set | .pairs | .merge | .default | .other =>
    .error (.malformed "a type that no value has")

end CopperRoute.Yaml.Scalar
