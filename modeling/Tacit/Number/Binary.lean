/-!
# Binary floating-point numbers

A format is given by its precision and the exponent of its smallest positive number. Numbers are
kept by their bit pattern; `Format.decode` reads a pattern and `Format.round` finds the pattern
nearest to a rational number of the form `m · 2 ^ e`, a tie going to the even mantissa.
-/

namespace Tacit.Number

/-- The number of bits of `n`; zero has none. -/
def bitLength (n : Nat) : Nat := if n = 0 then 0 else Nat.log2 n + 1

/-- The quotient of `m` by `2 ^ shift`, rounded to nearest, a tie to even. -/
def shiftRound (m shift : Nat) : Nat :=
  if bitLength m < shift then 0
  else
    let q := m >>> shift
    let r := m - q <<< shift
    let half := if shift = 0 then 1 else 1 <<< (shift - 1)
    if shift ≠ 0 && (r > half || (r = half && q % 2 = 1)) then q + 1 else q

/-- A binary floating-point format: how many bits the mantissa of a normal number has, and the
exponent of the smallest positive number. -/
structure Format where
  precision : Nat
  minExponent : Int
  /-- How many exponents normal numbers have. -/
  exponents : Nat

/-- Sixty-four bits. -/
def double : Format := ⟨53, -1074, 2046⟩

/-- Thirty-two bits. -/
def single : Format := ⟨24, -149, 254⟩

/-- What a bit pattern stands for. -/
inductive Reading where
  | nan
  | infinity (negative : Bool)
  /-- The number `m · 2 ^ e`. -/
  | finite (negative : Bool) (m : Nat) (e : Int)
deriving DecidableEq, Repr

/-- Whether a pattern stands for a number. -/
def Reading.isFinite : Reading → Bool
  | .finite _ _ _ => true
  | _ => false

namespace Format

/-- The pattern of infinity. -/
def infinity (f : Format) : Nat := (f.exponents + 1) <<< (f.precision - 1)

/-- The pattern with the sign bit alone. -/
def signBit (f : Format) : Nat := (f.exponents + 2) <<< (f.precision - 1)

/-- A pattern that is not a number. -/
def nan (f : Format) : Nat := f.infinity + 1 <<< (f.precision - 2)

/-- The sign put in front of a pattern. -/
def signed (f : Format) (negative : Bool) (bits : Nat) : Nat :=
  if negative then bits + f.signBit else bits

/-- The number that a pattern stands for. -/
def decode (f : Format) (bits : Nat) : Reading :=
  let negative := f.signBit ≤ bits
  let rest := if negative then bits - f.signBit else bits
  let exponent := rest >>> (f.precision - 1)
  let fraction := rest - exponent <<< (f.precision - 1)
  if exponent = f.exponents + 1 then
    if fraction = 0 then .infinity negative else .nan
  else if exponent = 0 then .finite negative fraction f.minExponent
  else .finite negative (fraction + 1 <<< (f.precision - 1)) (f.minExponent + exponent - 1)

/-- An integer by which patterns are ordered as the numbers they stand for. Both zeros have the
same, and what is not a number has none. -/
def rank? (f : Format) (bits : Nat) : Option Int :=
  match f.decode bits with
  | .nan => none
  | _ => some (if f.signBit ≤ bits then -((bits - f.signBit : Nat) : Int) else bits)

/-- The pattern of the number nearest to `m · 2 ^ e`. -/
def round (f : Format) (negative : Bool) (m : Nat) (e : Int) : Nat :=
  let top := e + bitLength m
  if m = 0 then f.signed negative 0
  else if top > f.minExponent + f.precision + f.exponents then f.signed negative f.infinity
  else
    let q := max (top - f.precision) f.minExponent
    let mantissa := if q ≤ e then m <<< (e - q).toNat else shiftRound m (q - e).toNat
    let bits := (q - f.minExponent).toNat <<< (f.precision - 1) + mantissa
    f.signed negative (min bits f.infinity)

/-- The pattern nearest to an integer. -/
def ofInt (f : Format) (n : Int) : Nat := f.round (n < 0) n.natAbs 0

/-- The pattern in format `f` nearest to what a pattern of format `g` stands for. -/
def convert (f g : Format) (bits : Nat) : Nat :=
  match g.decode bits with
  | .nan => f.nan
  | .infinity negative => f.signed negative f.infinity
  | .finite negative m e => f.round negative m e

/-- The number without its fractional part; nothing for an infinity and what is not a number. -/
def truncate? (f : Format) (bits : Nat) : Option Int :=
  match f.decode bits with
  | .finite negative m e =>
    let n : Nat := if 0 ≤ e then m <<< e.toNat else m >>> (-e).toNat
    some (if negative then -(n : Int) else n)
  | _ => none

end Format

end Tacit.Number
