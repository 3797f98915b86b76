import Tacit.Number.Binary
import Tacit.Text.Basic

/-!
# Shortest decimals

The decimal digits of a binary number are the fewest that tell it from every other number of its
precision, and of several such decimals the one nearest to it. They are found on the grids of one
digit, two digits and so on: the first grid with a point in the number's rounding interval gives
the digits, and only the number's two neighbours on a grid have to be looked at.
-/

namespace Tacit.Number

/-- The decimal `0.d₁d₂… · 10 ^ point`. No digits stand for zero. -/
structure Decimal where
  digits : List Nat
  point : Int
deriving DecidableEq, Repr

/-- A fraction of whole numbers. -/
structure Ratio where
  num : Nat
  den : Nat

/-- The fraction `m · 2 ^ e`. -/
def Ratio.binary (m : Nat) (e : Int) : Ratio :=
  if 0 ≤ e then ⟨m <<< e.toNat, 1⟩ else ⟨m, 1 <<< (-e).toNat⟩

/-- The fraction times `10 ^ k`. -/
def Ratio.scale (r : Ratio) (k : Int) : Ratio :=
  if 0 ≤ k then ⟨r.num * Nat.pow 10 k.toNat, r.den⟩
  else ⟨r.num, r.den * Nat.pow 10 (-k).toNat⟩

/-- The interval of numbers that are read as `value`. -/
structure Interval where
  low : Ratio
  value : Ratio
  high : Ratio
  /-- Whether the ends belong to it. -/
  closed : Bool

/-- The interval around `m · 2 ^ e`. Below a power of two the next smaller number may be nearer by
half, which `narrow` says. -/
def Interval.around (m : Nat) (e : Int) (narrow : Bool) : Interval where
  low := .binary (4 * m - if narrow then 1 else 2) (e - 2)
  value := .binary (4 * m) (e - 2)
  high := .binary (4 * m + 2) (e - 2)
  closed := m % 2 = 0

/-- Whether a whole number is at least `r`, or above it if `r` itself does not count. -/
def reaches (n : Nat) (r : Ratio) (closed : Bool) : Bool :=
  if closed then r.num ≤ n * r.den else r.num < n * r.den

/-- Whether a whole number is at most `r`, or below it if `r` itself does not count. -/
def staysWithin (n : Nat) (r : Ratio) (closed : Bool) : Bool :=
  if closed then n * r.den ≤ r.num else n * r.den < r.num

/-- The point of the grid of step `10 ^ -k` in the interval that is nearest to the value, counted in
steps. -/
def gridPoint? (i : Interval) (k : Int) : Option Nat :=
  let v := i.value.scale k
  let down := v.num / v.den
  let up := down + 1
  let rest := v.num - down * v.den
  match reaches down (i.low.scale k) i.closed, staysWithin up (i.high.scale k) i.closed with
  | true, true => some (if 2 * rest < v.den || (2 * rest = v.den && down % 2 = 0) then down else up)
  | true, false => some down
  | false, true => some up
  | false, false => none

/-- Tries the grids from `k` on, each ten times as fine as the one before. -/
def firstGrid (i : Interval) : (fuel : Nat) → (k : Int) → Nat × Int
  | 0, k => ((i.value.scale k).num / (i.value.scale k).den, k)
  | fuel + 1, k =>
    match gridPoint? i k with
    | some n => (n, k)
    | none => firstGrid i fuel (k + 1)

/-- The decimal digits of a number, most significant first. -/
def digitsOf (n : Nat) : List Nat := (Nat.toDigits 10 n).map fun c => c.toNat - 48

/-- The least `p` with `r < 10 ^ p`, found from a first guess that is not above it. -/
def decimalPoint (r : Ratio) : (fuel : Nat) → (guess : Int) → Int
  | 0, p => p
  | fuel + 1, p =>
    let s := r.scale (-p)
    if s.num < s.den then p else decimalPoint r fuel (p + 1)

/-- A lower bound, close by, for the decimal point of a number with `bits` bits before its binary
point. -/
def pointGuess (bits : Int) : Int := (bits - 1) * 30103 / 100000 - 1

/-- The decimal without the zeros at its end. -/
def Decimal.ofNat (n : Nat) (k : Int) : Decimal :=
  let ds := digitsOf n
  let kept := (ds.reverse.dropWhile (· = 0)).reverse
  if kept.isEmpty then ⟨[], 0⟩ else ⟨kept, ds.length - k⟩

/-- The shortest decimal in the interval around `m · 2 ^ e`. -/
def shortest (m : Nat) (e : Int) (narrow : Bool) : Decimal :=
  if m = 0 then ⟨[], 0⟩
  else
    let i := Interval.around m e narrow
    let p := decimalPoint i.value 8 (pointGuess (e + bitLength m))
    let (n, k) := firstGrid i (bitLength m + 3) (1 - p)
    .ofNat n k

/-- The digits as text. -/
def Decimal.digitText (d : Decimal) : String :=
  String.ofList (d.digits.map Text.hexDigit)

/-- Without exponent: as many zeros as the position of the point asks for. -/
def Decimal.positional (d : Decimal) : String :=
  if d.digits.isEmpty then "0"
  else if d.point ≤ 0 then "0." ++ Text.zeros (-d.point).toNat ++ d.digitText
  else
    let n := d.point.toNat
    if d.digits.length ≤ n then d.digitText ++ Text.zeros (n - d.digits.length)
    else
      String.ofList ((d.digits.take n).map Text.hexDigit) ++ "." ++
        String.ofList ((d.digits.drop n).map Text.hexDigit)

/-- With one digit before the point, and an exponent of at least two digits with its sign. -/
def Decimal.scientific (d : Decimal) : String :=
  let e : Int := if d.digits.isEmpty then 0 else d.point - 1
  let mantissa := match d.digits with
    | [] => "0"
    | [x] => String.singleton (Text.hexDigit x)
    | x :: xs =>
      String.singleton (Text.hexDigit x) ++ "." ++ String.ofList (xs.map Text.hexDigit)
  let size := Nat.repr e.natAbs
  mantissa ++ (if e < 0 then "e-" else "e+") ++ (if size.length < 2 then "0" ++ size else size)

namespace Format

/-- The shortest decimal of a number of the format. -/
def shortest (f : Format) (m : Nat) (e : Int) : Decimal :=
  Number.shortest m e (m = 1 <<< (f.precision - 1) && f.minExponent < e)

/-- The text of a number: positional from `10 ^ -4` up to `10 ^ 6`, with an exponent beyond. -/
def text (f : Format) (bits : Nat) : String :=
  match f.decode bits with
  | .nan => "NaN"
  | .infinity negative => if negative then "-Inf" else "+Inf"
  | .finite negative m e =>
    let d := f.shortest m e
    let e := if d.digits.isEmpty then 0 else d.point - 1
    (if negative then "-" else "") ++
      if e < -4 || 6 ≤ e then d.scientific else d.positional

/-- A complex number in parentheses, the sign of its imaginary part always written. -/
def complexText (f : Format) (re im : Nat) : String :=
  let part := f.text im
  let sign := if part.startsWith "+" || part.startsWith "-" then "" else "+"
  "(" ++ f.text re ++ sign ++ part ++ "i)"

end Format

end Tacit.Number
