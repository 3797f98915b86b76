import Tacit.Number.Shortest

/-!
# Numbers of chosen precision

Binary numbers whose mantissa has a precision of its own, with two infinities and a signed zero.
Every operation rounds the exact result to nearest, a tie to the even mantissa. A result that is
too large for the exponents is an infinity, and one that is too small a zero. What has no
meaningful result, such as zero divided by zero, has none.
-/

namespace Tacit.Number

/-- A number of chosen precision. -/
inductive Big where
  | infinity (precision : Nat) (negative : Bool)
  /-- The number `m · 2 ^ e`, of which `precision` bits count. -/
  | finite (precision : Nat) (negative : Bool) (m : Nat) (e : Int)
deriving DecidableEq, Repr, Inhabited

namespace Big

/-- How many bits there are before the binary point, for a number other than zero. -/
def top (m : Nat) (e : Int) : Int := e + bitLength m

/-- The least `top` of a number. -/
def minTop : Int := -2147483648

/-- The greatest `top` of a number. -/
def maxTop : Int := 2147483647

/-- `m · 2 ^ e` rounded to `precision` bits. -/
def round (precision : Nat) (negative : Bool) (m : Nat) (e : Int) : Big :=
  if m = 0 || top m e < minTop then .finite precision negative 0 0
  else if maxTop < top m e then .infinity precision negative
  else
    let extra := bitLength m - precision
    let kept := shiftRound m extra
    if maxTop < top kept (e + extra) then .infinity precision negative
    else .finite precision negative kept (e + extra)

/-- An integer, at the precision of a machine word. -/
def ofInt (n : Int) : Big := round 64 (n < 0) n.natAbs 0

/-- The number that a pattern of sixty-four bits stands for; nothing if it is not a number. -/
def ofDouble? (bits : Nat) : Option Big :=
  match double.decode bits with
  | .nan => none
  | .infinity negative => some (.infinity 53 negative)
  | .finite negative m e => some (.finite 53 negative m e)

/-- How many bits count. -/
def precision : Big → Nat
  | .finite p _ _ _ | .infinity p _ => p

/-- Whether the number is zero, of either sign. -/
def isZero : Big → Bool
  | .finite _ _ m _ => m = 0
  | .infinity _ _ => false

/-- Whether the number is below zero or a zero with a minus sign. -/
def isNegative : Big → Bool
  | .finite _ negative _ _ | .infinity _ negative => negative

/-- The sign, which is zero for a zero. -/
def sign (a : Big) : Int := if a.isZero then 0 else if a.isNegative then -1 else 1

/-- The number with the other sign. -/
def neg : Big → Big
  | .finite p negative m e => .finite p (!negative) m e
  | .infinity p negative => .infinity p (!negative)

/-! ### Arithmetic -/

/-- The sum of two signed numbers, rounded to `p` bits. Where one of them is too small to matter the
other is the sum. -/
def addFinite (p : Nat) (s₁ : Bool) (m₁ : Nat) (e₁ : Int) (s₂ : Bool) (m₂ : Nat) (e₂ : Int) : Big :=
  if m₁ = 0 && m₂ = 0 then .finite p (s₁ && s₂) 0 0
  else if m₁ = 0 || (m₂ ≠ 0 && top m₂ e₂ - top m₁ e₁ > p + 3) then round p s₂ m₂ e₂
  else if m₂ = 0 || top m₁ e₁ - top m₂ e₂ > p + 3 then round p s₁ m₁ e₁
  else
    let e := min e₁ e₂
    let signed (s : Bool) (m : Nat) (f : Int) : Int :=
      let n : Int := (m <<< (f - e).toNat : Nat)
      if s then -n else n
    let n := signed s₁ m₁ e₁ + signed s₂ m₂ e₂
    round p (n < 0) n.natAbs e

/-- The sum to `p` bits; opposite infinities have none. -/
def addAt? (p : Nat) : Big → Big → Option Big
  | .finite _ s₁ m₁ e₁, .finite _ s₂ m₂ e₂ => some (addFinite p s₁ m₁ e₁ s₂ m₂ e₂)
  | .infinity _ s, .infinity _ t => if s = t then some (.infinity p s) else none
  | .infinity _ s, _ | _, .infinity _ s => some (.infinity p s)

/-- The sum. -/
def add? (a b : Big) : Option Big := addAt? (max a.precision b.precision) a b

/-- The difference. -/
def sub? (a b : Big) : Option Big := a.add? b.neg

/-- The product to `p` bits; zero times an infinity has none. -/
def mulAt? (p : Nat) : Big → Big → Option Big
  | .finite _ s₁ m₁ e₁, .finite _ s₂ m₂ e₂ => some (round p (s₁ != s₂) (m₁ * m₂) (e₁ + e₂))
  | a, b => if a.isZero || b.isZero then none else some (.infinity p (a.isNegative != b.isNegative))

/-- The number of bits from the first one that is set to the last. -/
def significantBits (m : Nat) : Nat :=
  if m = 0 then 0 else bitLength m - Nat.log2 (m - (m &&& (m - 1)))

/-- The number, counted to more bits. -/
def widen (p : Nat) : Big → Big
  | .finite _ negative m e => .finite (max p (significantBits m)) negative m e
  | .infinity _ negative => .infinity p negative

/-- The precision at which numbers are read and products are taken. -/
def fullPrecision : Nat := 512

/-- The product. It is taken in full precision, and as many bits of it count as it needs, or as its
operands have if these are more. -/
def mul? (a b : Big) : Option Big :=
  (mulAt? fullPrecision a b).map (widen (max a.precision b.precision))

/-- The quotient by a number other than zero, rounded to `p` bits. The bit after the last one that
counts also stands for everything behind it. -/
def divFinite (p : Nat) (s₁ : Bool) (m₁ : Nat) (e₁ : Int) (s₂ : Bool) (m₂ : Nat) (e₂ : Int) : Big :=
  let shift := p + 2 + bitLength m₂ - bitLength m₁
  let n := m₁ <<< shift
  let q := n / m₂
  let rest := if n % m₂ = 0 then 0 else 1
  round p (s₁ != s₂) (2 * q + rest) (e₁ - e₂ - shift - 1)

/-- The quotient to `p` bits. A number by zero is an infinity, and by an infinity zero; zero by zero
and an infinity by an infinity have none. -/
def divAt? (p : Nat) : Big → Big → Option Big
  | .finite _ s₁ m₁ e₁, .finite _ s₂ m₂ e₂ =>
    if m₂ = 0 then if m₁ = 0 then none else some (.infinity p (s₁ != s₂))
    else some (divFinite p s₁ m₁ e₁ s₂ m₂ e₂)
  | .infinity _ s, .finite _ t _ _ => some (.infinity p (s != t))
  | .finite _ s _ _, .infinity _ t => some (.finite p (s != t) 0 0)
  | .infinity _ _, .infinity _ _ => none

/-- The quotient. -/
def div? (a b : Big) : Option Big := divAt? (max a.precision b.precision) a b

/-- The number without its fractional part, to `p` bits; an infinity has none. -/
def whole? (p : Nat) : Big → Option Big
  | .infinity _ _ => none
  | .finite _ negative m e =>
    if 0 ≤ e then some (round p negative m e)
    else
      let n := m >>> (-e).toNat
      some (round p (negative && n ≠ 0) n 0)

/-- The remainder of the division that leaves out the fractional part, at the precision of the first
operand and with its sign; by zero it is the first operand. -/
def rem? (a b : Big) : Option Big :=
  if b.isZero then some a
  else do
    let quotient ← (← a.div? b).whole? a.precision
    addAt? a.precision a (← mulAt? a.precision b quotient).neg

/-! ### Order and equality -/

/-- The order of two sizes other than zero. -/
def compareSize : Big → Big → Ordering
  | .finite _ _ m₁ e₁, .finite _ _ m₂ e₂ =>
    match Ord.compare (top m₁ e₁) (top m₂ e₂) with
    | .eq => Ord.compare (m₁ <<< (e₁ - e₂).toNat) (m₂ <<< (e₂ - e₁).toNat)
    | o => o
  | .infinity _ _, .infinity _ _ => .eq
  | .infinity _ _, _ => .gt
  | _, .infinity _ _ => .lt

/-- The order of two numbers; zeros of either sign are equal. -/
def compare (a b : Big) : Ordering :=
  match Ord.compare a.sign b.sign with
  | .eq => if a.isZero then .eq else if a.isNegative then compareSize b a else compareSize a b
  | o => o

/-- The decimal text without exponent: the fewest digits that tell the number from others of its
precision. -/
def text : Big → String
  | .infinity _ negative => if negative then "-Inf" else "+Inf"
  | .finite p negative m e =>
    let gap := p - bitLength m
    (if negative then "-" else "") ++ (shortest (m <<< gap) (e - gap) false).positional

/-- Whether two numbers may have the same text: their sizes are less than two bits apart. -/
def isNear : Big → Big → Bool
  | .finite _ _ m₁ e₁, .finite _ _ m₂ e₂ => (top m₁ e₁ - top m₂ e₂).natAbs ≤ 1
  | .infinity _ _, .infinity _ _ => true
  | _, _ => false

/-- Whether two numbers count as equal: they have the same text, where the sign of zero does not
matter. So numbers of different precision may be equal though one is a little larger. -/
def equal (a b : Big) : Bool :=
  a.sign = b.sign &&
    (a.isZero || (a.precision = b.precision && a.compare b = .eq) ||
      (a.isNear b && a.text = b.text))

/-! ### Machine numbers -/

/-- The pattern of sixty-four bits nearest to the number, and whether the number is too large for
one. A number with the least exponent counts as too large. -/
def toDouble : Big → Nat × Bool
  | .infinity _ negative => (double.signed negative double.infinity, false)
  | .finite _ negative m e =>
    let infinity := double.signed negative double.infinity
    let bits := if m ≠ 0 && top m e = minTop then infinity else double.round negative m e
    (bits, bits = infinity)

/-- The integer that the number is, if it is one of sixty-four bits. -/
def toInt? : Big → Option Int
  | .finite _ negative m e =>
    if m = 0 then some 0
    else if top m e > 64 || top m e ≤ 0 then none
    else
      let n := if 0 ≤ e then m <<< e.toNat else m >>> (-e).toNat
      if 0 ≤ e || n <<< (-e).toNat = m then some (if negative then -(n : Int) else n) else none
  | .infinity _ _ => none

/-! ### Reading -/

/-- Multiplies `acc` by `power` and its squares as the binary digits of `n` say. The factors carry
sixty-four bits more than the product. -/
def powerLoop (p : Nat) (n : Nat) (acc power : Big) : Big :=
  if _h : n = 0 then acc
  else
    let times (q : Nat) (a b : Big) : Big := (mulAt? q a b).getD a
    let acc := if n % 2 = 1 then times p acc power else acc
    powerLoop p (n / 2) acc (times (p + 64) power power)
termination_by n
decreasing_by omega

/-- The power `5 ^ n` to `p` bits. -/
def powerOfFive (p n : Nat) : Big :=
  if n ≤ 27 then .finite p false (Nat.pow 5 n) 0
  else powerLoop p (n - 27) (.finite p false (Nat.pow 5 27) 0) (.finite (p + 64) false 5 0)

/-- `digits · 10 ^ tens · 2 ^ twos`; nothing if `digits · 2 ^ (tens + twos)` is out of bounds. -/
def ofDecimal? (negative : Bool) (digits : Nat) (tens twos : Int) : Option Big :=
  let e := tens + twos
  let scaled : Big := .finite fullPrecision negative digits e
  if digits = 0 then some (.finite fullPrecision negative 0 0)
  else if top digits e < minTop || maxTop < top digits e then none
  else if tens = 0 then some (round fullPrecision negative digits e)
  else
    let power := powerOfFive (fullPrecision + 64) tens.natAbs
    if tens < 0 then divAt? fullPrecision scaled power else mulAt? fullPrecision scaled power

/-- The digits at the start of a text. -/
def takeDigits (cs : List Char) : List Char × List Char :=
  (cs.takeWhile Char.isDigit, cs.dropWhile Char.isDigit)

/-- The value of decimal digits. -/
def digitsValue (cs : List Char) : Nat := cs.foldl (fun n c => 10 * n + (c.toNat - 48)) 0

/-- Whether an integer fits into sixty-four bits. -/
def isWord (n : Int) : Bool := -9223372036854775808 ≤ n && n ≤ 9223372036854775807

/-- An exponent up to the end of the text: its size, which fits into a machine word, and whether it
counts in twos. -/
def readExponent? : List Char → Option (Int × Bool)
  | [] => some (0, false)
  | c :: cs =>
    if c = 'e' || c = 'E' || c = 'p' || c = 'P' then
      let (negative, cs) := match cs with
        | '-' :: cs => (true, cs)
        | '+' :: cs => (false, cs)
        | cs => (false, cs)
      let n : Int := if negative then -(digitsValue cs : Int) else digitsValue cs
      if cs.isEmpty || !cs.all Char.isDigit || !isWord n then none
      else some (n, c = 'p' || c = 'P')
    else none

/-- A number without sign: digits with or without a point, and perhaps an exponent. -/
def readUnsigned? (negative : Bool) (cs : List Char) : Option Big := do
  let (whole, rest) := takeDigits cs
  let (part, rest) := match rest with
    | '.' :: rest => takeDigits rest
    | rest => ([], rest)
  if whole.isEmpty && part.isEmpty then none
  else
    let (exponent, binary) ← readExponent? rest
    let n := digitsValue (whole ++ part)
    let places : Int := part.length
    if binary then ofDecimal? negative n (-places) exponent
    else ofDecimal? negative n (exponent - places) 0

/-- Reads a number: an optional sign, then digits or the word for infinity. -/
def read? (s : String) : Option Big :=
  let (negative, cs) := match s.toList with
    | '-' :: cs => (true, cs)
    | '+' :: cs => (false, cs)
    | cs => (false, cs)
  if cs = ['I', 'n', 'f'] || cs = ['i', 'n', 'f'] then some (.infinity fullPrecision negative)
  else readUnsigned? negative cs

end Big

end Tacit.Number
