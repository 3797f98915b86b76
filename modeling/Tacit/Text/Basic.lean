/-!
# Texts

The texts that programs work on are byte strings, and nothing makes them well-formed UTF-8. Reading
one character by character gives its characters and, in place of every byte that belongs to none,
that byte. Sets of characters are closed ranges of code points; blanks are one of them. Numbers are
written in digits of a base, most significant first.
-/

namespace Tacit

/-- A text as its bytes. -/
abbrev Bytes := List UInt8

/-- What reading a byte string yields: a character, or a byte that is part of none. -/
inductive Rune where
  | char (c : Char)
  | stray (b : UInt8)
deriving DecidableEq, Repr

/-- The character a rune is shown as; a stray byte is shown as the replacement character. -/
def Rune.toChar : Rune → Char
  | .char c => c
  | .stray _ => '\uFFFD'

/-- The character of a rune that is one. -/
def Rune.char? : Rune → Option Char
  | .char c => some c
  | .stray _ => none

namespace Bytes

/-- The low six bits of a continuation byte. -/
def continuation? (b : UInt8) : Option Nat :=
  if 0x80 ≤ b.toNat && b.toNat < 0xC0 then some (b.toNat - 0x80) else none

/-- The number of continuation bytes that a leading byte announces, and its own bits. -/
def lead? (b : UInt8) : Option (Nat × Nat) :=
  let n := b.toNat
  if n < 0x80 then some (0, n)
  else if 0xC0 ≤ n && n < 0xE0 then some (1, n - 0xC0)
  else if 0xE0 ≤ n && n < 0xF0 then some (2, n - 0xE0)
  else if 0xF0 ≤ n && n < 0xF8 then some (3, n - 0xF0)
  else none

/-- Adds the bits of `count` continuation bytes to `acc`. -/
def gather (acc : Nat) : Nat → Bytes → Option Nat
  | 0, _ => some acc
  | _ + 1, [] => none
  | count + 1, b :: bs => do gather (acc * 64 + (← continuation? b)) count bs

/-- Whether `n` is a code point that needs exactly `count` continuation bytes. -/
def fitsLength (count n : Nat) : Bool :=
  match count with
  | 0 => n < 0x80
  | 1 => 0x80 ≤ n && n < 0x800
  | 2 => 0x800 ≤ n && n < 0x10000 && !(0xD800 ≤ n && n < 0xE000)
  | _ => 0x10000 ≤ n && n < 0x110000

/-- The character that starts with byte `b`, and how many of the bytes after it belong to it. -/
def charAt? (b : UInt8) (rest : Bytes) : Option (Char × Nat) := do
  let (count, bits) ← lead? b
  let n ← gather bits count rest
  if fitsLength count n then some (Char.ofNat n, count) else none

/-- The runes of a byte string, in order. -/
def runes : Bytes → List Rune
  | [] => []
  | b :: rest =>
    match charAt? b rest with
    | some (c, count) => .char c :: runes (rest.drop count)
    | none => .stray b :: runes rest
termination_by s => s.length
decreasing_by all_goals simp only [List.length_drop, List.length_cons]; omega

/-- The bytes of one character. -/
def ofChar (c : Char) : Bytes :=
  let n := c.toNat
  if n < 0x80 then [n.toUInt8]
  else if n < 0x800 then [(0xC0 + n / 64).toUInt8, (0x80 + n % 64).toUInt8]
  else if n < 0x10000 then
    [(0xE0 + n / 4096).toUInt8, (0x80 + n / 64 % 64).toUInt8, (0x80 + n % 64).toUInt8]
  else
    [(0xF0 + n / 262144).toUInt8, (0x80 + n / 4096 % 64).toUInt8, (0x80 + n / 64 % 64).toUInt8,
      (0x80 + n % 64).toUInt8]

/-- The bytes of a rune. -/
def ofRune : Rune → Bytes
  | .char c => ofChar c
  | .stray b => [b]

/-- The byte string that consists of the runes. -/
def ofRunes (rs : List Rune) : Bytes := rs.flatMap ofRune

/-- The bytes of a string. -/
def ofString (s : String) : Bytes := s.toList.flatMap ofChar

/-- The string with a replacement character for every stray byte. -/
def toText (s : Bytes) : String := String.ofList (s.runes.map Rune.toChar)

/-- The string that the bytes are, if they are well formed. -/
def toString? (s : Bytes) : Option String :=
  (s.runes.mapM Rune.char?).map String.ofList

/-- Order by the first byte that differs. -/
def less : Bytes → Bytes → Bool
  | _, [] => false
  | [], _ :: _ => true
  | a :: as, b :: bs => a < b || (a == b && less as bs)

end Bytes

namespace Text

/-! ### Sets of code points -/

/-- Closed ranges of code points, in ascending order. -/
abbrev Ranges := List (Nat × Nat)

/-- Whether a code point lies in one of the ranges. -/
def Ranges.contains (rs : Ranges) (n : Nat) : Bool :=
  rs.any fun r => r.1 ≤ n && n ≤ r.2

/-! ### Blank space -/

/-- The blank characters. -/
def blankRanges : Ranges := [
  (0x9, 0xD), (0x20, 0x20), (0x85, 0x85), (0xA0, 0xA0), (0x1680, 0x1680), (0x2000, 0x200A),
  (0x2028, 0x2029), (0x202F, 0x202F), (0x205F, 0x205F), (0x3000, 0x3000)]

/-- Whether a character is blank. -/
def isBlank (c : Char) : Bool := blankRanges.contains c.toNat

/-- Whether a rune is a blank character. -/
def isBlankRune (r : Rune) : Bool := r.char?.any isBlank

/-- The text without blanks at its start. -/
def trimStart (s : Bytes) : Bytes := .ofRunes (s.runes.dropWhile isBlankRune)

/-- The text without blanks at its end. -/
def trimEnd (s : Bytes) : Bytes := .ofRunes (s.runes.reverse.dropWhile isBlankRune).reverse

/-- The text without blanks at its ends. -/
def trim (s : Bytes) : Bytes := trimEnd (trimStart s)

/-- Whether a text has nothing but blanks. -/
def isBlankText (s : Bytes) : Bool := s.runes.all isBlankRune

/-! ### Digits -/

/-- The digit of a value below sixteen. -/
def hexDigit (n : Nat) : Char := Char.ofNat (if n < 10 then 48 + n else 87 + n)

/-- The last `width` hexadecimal digits of `n`. -/
def hex : (width n : Nat) → String
  | 0, _ => ""
  | width + 1, n => hex width (n / 16) ++ String.singleton (hexDigit (n % 16))

/-- The value of a hexadecimal digit in either case. -/
def hexValue? (c : Char) : Option Nat :=
  if '0' ≤ c && c ≤ '9' then some (c.toNat - 48)
  else if 'a' ≤ c && c ≤ 'f' then some (c.toNat - 87)
  else if 'A' ≤ c && c ≤ 'F' then some (c.toNat - 55)
  else none

/-- The number that digits of a base, at most sixteen, are; no other characters. -/
def number? (base : Nat) (digits : List Char) : Option Nat :=
  digits.foldlM (fun n c => do
    let d ← hexValue? c
    if d < base then some (base * n + d) else none) 0

/-- The character with a code point that is written in hexadecimal digits. -/
def charOfHex? (digits : List Char) : Option Char := do
  let n ← number? 16 digits
  if n < 0xD800 || (0xDFFF < n && n < 0x110000) then some (Char.ofNat n) else none

/-- A whole number in decimal, with a minus sign if it is negative. -/
def decimal (n : Int) : String :=
  if n < 0 then "-" ++ Nat.repr n.natAbs else Nat.repr n.natAbs

/-- `n` zeros. -/
def zeros (n : Nat) : String := String.ofList (List.replicate n '0')

end Text

end Tacit
