/-!
# Numbers and bytes in text

Three ways in which text stands for something else or is itself stood for: hexadecimal digits for a
number, characters in base 64 for bytes, and bytes in UTF-8 for characters.
-/

namespace CopperRoute.Text

/-! ## Hexadecimal digits

The ten decimal digits of ASCII and the letters from a to f in either case, read as a number.
-/

def hexValue? (c : Char) : Option Nat :=
  if c.isDigit then some (c.toNat - 48)
  else if 'a' ≤ c && c ≤ 'f' then some (c.toNat - 87)
  else if 'A' ≤ c && c ≤ 'F' then some (c.toNat - 55)
  else none

def hexNumber? (cs : List Char) : Option Nat :=
  (cs.mapM hexValue?).map (·.foldl (fun n d => 16 * n + d) 0)

end CopperRoute.Text

namespace CopperRoute.Text.Base64

/-! ## Bytes in base 64

Four characters of a set of sixty-four stand for three bytes. Characters outside the set do not
count. A text may end in the middle of a group if signs of equality fill it up; what follows them is
left out.
-/

/-- The six bits that a character stands for. -/
def sextet? (c : Char) : Option Nat :=
  if 'A' ≤ c && c ≤ 'Z' then some (c.toNat - 65)
  else if 'a' ≤ c && c ≤ 'z' then some (c.toNat - 71)
  else if c.isDigit then some (c.toNat + 4)
  else if c == '+' then some 62
  else if c == '/' then some 63
  else none

/-- The bytes of a text behind `done`, in reverse. Of the group that is open, `place` characters
were read; `carry` holds their bits that no byte has yet, and `pads` signs of equality stand behind
them. -/
def decodeFrom (done : List UInt8) (place carry pads : Nat) : List Char → Option (List UInt8)
  | [] => if place = 0 then some done.reverse else none
  | c :: cs =>
    if c == '=' then
      -- no byte ends before the second character of a group
      if place < 2 then decodeFrom done place carry pads cs
      else if 4 ≤ place + pads + 1 then some done.reverse
      else decodeFrom done place carry (pads + 1) cs
    else
      match sextet? c with
      | none => decodeFrom done place carry pads cs
      | some n =>
        if place = 0 then decodeFrom done 1 n 0 cs
        else
          let bits := 64 * carry + n
          -- a byte more leaves four bits, then two, then none
          let spare := Nat.pow 4 (3 - place)
          decodeFrom ((bits / spare).toUInt8 :: done) ((place + 1) % 4) (bits % spare) 0 cs

/-- The bytes that a text stands for, unless a group in it is not complete. -/
def decode (cs : List Char) : Option (List UInt8) := decodeFrom [] 0 0 0 cs

end CopperRoute.Text.Base64

namespace CopperRoute.Text.Utf8

/-! ## Text in bytes

How far bytes are UTF-8. A character has one to four bytes: the first tells how many follow and
holds the leading bits of its code point, and each of the others holds six bits more. Every code
point has its shortest form alone.
-/

/-- A character that is being read: the bits so far, how many bytes are to follow, and the least
code point that needs so many. -/
structure Pending where
  bits : Nat
  missing : Nat
  least : Nat

/-- What a first byte opens. -/
def lead? (b : UInt8) : Option Pending :=
  let n := b.toNat
  if n < 0x80 then some ⟨n, 0, 0⟩
  else if 0xc0 ≤ n && n < 0xe0 then some ⟨n - 0xc0, 1, 0x80⟩
  else if 0xe0 ≤ n && n < 0xf0 then some ⟨n - 0xe0, 2, 0x800⟩
  else if 0xf0 ≤ n && n < 0xf8 then some ⟨n - 0xf0, 3, 0x10000⟩
  else none

def Pending.follow? (p : Pending) (b : UInt8) : Option Pending :=
  if b.toNat / 64 = 2 then
    some { p with bits := 64 * p.bits + b.toNat % 64, missing := p.missing - 1 }
  else none

/-- The character, once its bytes are complete. -/
def Pending.char? (p : Pending) : Option Char :=
  if h : p.bits.isValidChar ∧ p.least ≤ p.bits then some (Char.ofNatAux p.bits h.1) else none

/-- The characters behind `done`, in reverse, and the bytes from the first on that is none of them.
A pending character began at `start`. -/
def decodeFrom (done : List Char) (start : List UInt8) (pending : Option Pending) :
    List UInt8 → List Char × List UInt8
  | [] => (done.reverse, start)
  | b :: bs =>
    let start := if pending.isSome then start else b :: bs
    match pending.elim (lead? b) (·.follow? b) with
    | none => (done.reverse, start)
    | some p =>
      if p.missing = 0 then
        match p.char? with
        | some c => decodeFrom (c :: done) [] none bs
        | none => (done.reverse, start)
      else decodeFrom done start (some p) bs

/-- The characters that bytes start with, and the bytes from the first on that belongs to none. -/
def decode (bs : List UInt8) : List Char × List UInt8 := decodeFrom [] [] none bs

end CopperRoute.Text.Utf8
