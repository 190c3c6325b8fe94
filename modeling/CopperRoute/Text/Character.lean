/-!
# Classes of characters

What counts as a digit, as a letter in either case, and as blank, and what follows from it for texts:
the values of digits, words compared in any case, trimming and cutting at blanks.
-/

namespace CopperRoute.Text

/-! ## Decimal digits of all scripts

A number may be written with the decimal digits of any script. Unicode keeps each such set in ten
consecutive code points, so the place of a set's zero fixes the values of all ten.
-/

/-- The code points of the zeros of all sets of decimal digits. -/
def digitZeros : List Nat :=
  [
    0x30, 0x660, 0x6f0, 0x7c0, 0x966, 0x9e6, 0xa66, 0xae6, 0xb66, 0xbe6,
    0xc66, 0xce6, 0xd66, 0xde6, 0xe50, 0xed0, 0xf20, 0x1040, 0x1090, 0x17e0,
    0x1810, 0x1946, 0x19d0, 0x1a80, 0x1a90, 0x1b50, 0x1bb0, 0x1c40, 0x1c50, 0xa620,
    0xa8d0, 0xa900, 0xa9d0, 0xa9f0, 0xaa50, 0xabf0, 0xff10, 0x104a0, 0x10d30, 0x11066,
    0x110f0, 0x11136, 0x111d0, 0x112f0, 0x11450, 0x114d0, 0x11650, 0x116c0, 0x11730, 0x118e0,
    0x11950, 0x11c50, 0x11d50, 0x11da0, 0x16a60, 0x16ac0, 0x16b50, 0x1d7ce, 0x1d7d8, 0x1d7e2,
    0x1d7ec, 0x1d7f6, 0x1e140, 0x1e2f0, 0x1e950, 0x1fbf0]

/-- The value of a decimal digit of any script. -/
def digitValue? (c : Char) : Option Nat :=
  (digitZeros.find? fun z => z ≤ c.toNat && c.toNat < z + 10).map (c.toNat - ·)

def isDecimal (c : Char) : Bool := (digitValue? c).isSome

/-- Ranges of the digits that stand in no set of ten: superscripts, circled digits and the like. -/
def loneDigitRanges : List (Nat × Nat) :=
  [
    (0xb2, 0xb3), (0xb9, 0xb9), (0x1369, 0x1371), (0x19da, 0x19da), (0x2070, 0x2070),
    (0x2074, 0x2079), (0x2080, 0x2089), (0x2460, 0x2468), (0x2474, 0x247c), (0x2488, 0x2490),
    (0x24ea, 0x24ea), (0x24f5, 0x24fd), (0x24ff, 0x24ff), (0x2776, 0x277e), (0x2780, 0x2788),
    (0x278a, 0x2792), (0x10a40, 0x10a43), (0x10e60, 0x10e68), (0x11052, 0x1105a),
    (0x1f100, 0x1f10a)]

/-- Whether `c` is a digit in the wide sense: a decimal digit, or one of those that stand in no
set of ten and so have no place in a numeral. -/
def isDigitLike (c : Char) : Bool :=
  isDecimal c || loneDigitRanges.any fun r => r.1 ≤ c.toNat && c.toNat ≤ r.2

/-- The ten plain digits keep their values. -/
theorem digitValue?_ascii :
    ("0123456789".toList.map digitValue?) = (List.range 10).map some := by
  decide +kernel

/-! ## Letter case

Commands, format names, log levels and the names of emoji are written in any case. Their own letters
are those of ASCII and, in small, of Latin-1, so case only matters for characters whose other-case
form is one of these: the plain letters, and a few letters and ligatures beyond them.
-/

/-- The small form of `c`, as far as it is a letter of Latin-1: the capital letters, the Kelvin
sign, whose small form is `k`, and the Angstrom sign. Any other character stands for itself. -/
def small (c : Char) : Char :=
  let n := c.toNat
  if n = 0x212a then 'k'
  else if n = 0x212b then '\u00e5'
  else if 0xc0 ≤ n && n ≤ 0xde && n != 0xd7 then Char.ofNat (n + 32)
  else c.toLower

/-- The text `s` in small letters, in the sense of `small`. -/
def lowered (s : String) : String := String.ofList (s.toList.map small)

/-- The capital form of `c`, as far as it is ASCII: the small letters, the dotless i, the long s,
the sharp s and the Latin ligatures. Any other character stands for itself. -/
def capital (c : Char) : List Char :=
  match c.toNat with
  | 0xdf => ['S', 'S']
  | 0x131 => ['I']
  | 0x17f => ['S']
  | 0xfb00 => ['F', 'F']
  | 0xfb01 => ['F', 'I']
  | 0xfb02 => ['F', 'L']
  | 0xfb03 => ['F', 'F', 'I']
  | 0xfb04 => ['F', 'F', 'L']
  | 0xfb05 => ['S', 'T']
  | 0xfb06 => ['S', 'T']
  | _ => [c.toUpper]

def raised (s : String) : String := String.ofList (s.toList.flatMap capital)

/-! ## Blank characters, trimming and words

Which characters separate the items of a route, how text is trimmed of them, and how it is cut into
words. The class is Unicode white space together with the four information separators U+001C to
U+001F.

`trim_eq_nil_iff` says that a text is trimmed to nothing exactly when it is blank all over.
-/

/-- White space of Unicode, or one of the separators U+001C to U+001F. -/
def isBlank (c : Char) : Bool :=
  let n := c.toNat
  (0x09 ≤ n && n ≤ 0x0d) || (0x1c ≤ n && n ≤ 0x20) || n == 0x85 || n == 0xa0 || n == 0x1680 ||
    (0x2000 ≤ n && n ≤ 0x200a) || n == 0x2028 || n == 0x2029 || n == 0x202f || n == 0x205f ||
    n == 0x3000

/-- `cs` without the characters of the class `p` at its two ends. -/
def trimWith (p : Char → Bool) (cs : List Char) : List Char :=
  ((cs.dropWhile p).reverse.dropWhile p).reverse

def trim (cs : List Char) : List Char := trimWith isBlank cs

def trimmed (s : String) : String := String.ofList (trim s.toList)

/-! ### Length facts for the recursions of this library -/

theorem length_dropWhile_le (p : Char → Bool) :
    ∀ cs : List Char, (cs.dropWhile p).length ≤ cs.length
  | [] => Nat.le_refl _
  | c :: cs => by
    rw [List.dropWhile_cons]
    split
    · exact Nat.le_succ_of_le (length_dropWhile_le p cs)
    · exact Nat.le_refl _

/-- The head of what dropping leaves is where dropping stopped. -/
theorem not_head_dropWhile {p : Char → Bool} :
    ∀ {cs : List Char} {c : Char} {rest : List Char}, cs.dropWhile p = c :: rest → p c = false
  | [], _, _, h => by simp at h
  | a :: cs, c, rest, h => by
    rw [List.dropWhile_cons] at h
    split at h
    · exact not_head_dropWhile h
    · next ha => cases h; simpa using ha

/-- Dropping a leading run of `p` and then the run without `p` behind it shortens the text. -/
theorem length_afterRun_lt {p : Char → Bool} {cs : List Char} {c : Char} {rest : List Char}
    (h : cs.dropWhile p = c :: rest) :
    ((c :: rest).dropWhile fun a => !p a).length < cs.length := by
  have hc : p c = false := not_head_dropWhile h
  have hle : (cs.dropWhile p).length ≤ cs.length := length_dropWhile_le p cs
  have hrest := length_dropWhile_le (fun a => !p a) rest
  rw [h] at hle
  simp only [List.dropWhile_cons, hc, Bool.not_false, if_true]
  simp only [List.length_cons] at hle
  omega

/-! ### Runs and words -/

/-- Cuts `cs` into its maximal runs without a character of the class `p`. -/
def splitRuns (p : Char → Bool) (cs : List Char) : List (List Char) :=
  match _h : cs.dropWhile p with
  | [] => []
  | c :: rest =>
    (c :: rest).takeWhile (fun a => !p a) :: splitRuns p ((c :: rest).dropWhile fun a => !p a)
termination_by cs.length
decreasing_by exact length_afterRun_lt _h

def words (cs : List Char) : List (List Char) := splitRuns isBlank cs

/-! ### Laws -/

theorem dropWhile_eq_nil_iff_all {p : Char → Bool} {cs : List Char} :
    cs.dropWhile p = [] ↔ cs.all p = true := by
  induction cs with
  | nil => simp
  | cons c cs ih => by_cases h : p c <;> simp [h, ih]

/-- A text is trimmed to nothing exactly when it is blank all over. -/
theorem trim_eq_nil_iff {cs : List Char} : trim cs = [] ↔ cs.all isBlank = true := by
  rw [trim, trimWith, List.reverse_eq_nil_iff, dropWhile_eq_nil_iff_all, List.all_reverse]
  constructor
  · intro h
    rw [← dropWhile_eq_nil_iff_all]
    match hd : cs.dropWhile isBlank with
    | [] => rfl
    | c :: rest => simp [hd, not_head_dropWhile hd] at h
  · intro h
    rw [dropWhile_eq_nil_iff_all.2 h]
    rfl

end CopperRoute.Text
