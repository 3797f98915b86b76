import Tacit.Declarations

/-!
# Assignability and conversion between types

* `Ty.assignable`: a value of one type can be stored where another type is required.
* `Ty.conversion?`: how a value of one type is turned into a value of another, if it can be.
* `Ty.isValue`: whether values of a type are held by themselves and not by reference.
* `Ty.needsConversion`: whether an operand has to be converted before it is handed over.

An integer is never converted to a text.
-/

namespace Tacit

namespace Basic

/-- Whether a type of integers is signed, and how many bits it has. -/
def integer? : Basic → Option (Bool × Nat)
  | int | int64 => some (true, 64)
  | int8 => some (true, 8)
  | int16 => some (true, 16)
  | int32 => some (true, 32)
  | uint | uint64 | uintptr => some (false, 64)
  | uint8 => some (false, 8)
  | uint16 => some (false, 16)
  | uint32 => some (false, 32)
  | _ => none

/-- A type of integers. -/
def isInteger (b : Basic) : Bool := b.integer?.isSome

/-- A type of binary floating-point numbers. -/
def isFloat : Basic → Bool
  | float32 | float64 => true
  | _ => false

/-- A type of complex numbers. -/
def isComplex : Basic → Bool
  | complex64 | complex128 => true
  | _ => false

/-- Integers and floating-point numbers. -/
def isReal (b : Basic) : Bool := b.isInteger || b.isFloat

end Basic

variable [Declarations]

namespace Ty

mutual
/-- Whether two types are the same when the tags of struct fields do not count. -/
def alike : Ty → Ty → Bool
  | basic a, basic b => a = b
  | interface a, interface b => a = b
  | declared a, declared b => a = b
  | slice a, slice b => alike a b
  | pointer a, pointer b => alike a b
  | array m a, array n b => m = n && alike a b
  | map k a, map l b => alike k l && alike a b
  | channel c a, channel d b => c = d && alike a b
  | func ps rs v, func qs ss w => alikeAll ps qs && alikeAll rs ss && v = w
  | struct fs, struct gs => alikeFields fs gs
  | _, _ => false
/-- Whether two lists hold types that are alike. -/
def alikeAll : List Ty → List Ty → Bool
  | [], [] => true
  | a :: as, b :: bs => alike a b && alikeAll as bs
  | _, _ => false
/-- Whether two lists hold the same fields, with types that are alike and whatever tags. -/
def alikeFields : List (Field Ty) → List (Field Ty) → Bool
  | [], [] => true
  | ⟨m, a, _, p, d⟩ :: fs, ⟨n, b, _, q, e⟩ :: gs =>
    m = n && alike a b && p = q && d = e && alikeFields fs gs
  | _, _ => false
end

/-- Whether a type has every method that an interface asks for. -/
def implements (t : Ty) (i : Interface) : Bool := i.methods.all (t.methods.contains ·)

/-- Whether a type is an interface that `t` implements. -/
def boxes (box t : Ty) : Bool :=
  match box with
  | interface i => t.implements i
  | _ => false

/-- Whether a channel of one type can be seen as one of another: it goes both ways, the elements
are the same, and one of the types has no name. -/
def channelFits (a b : Ty) : Bool :=
  match a.underlying, b.underlying with
  | channel .both x, channel _ y => (!a.isNamed || !b.isNamed) && x = y
  | _, _ => false

/-- Whether a value of type `a` is a value of type `b` as it stands. -/
def sameRepresentation (a b : Ty) : Bool :=
  a = b || ((!a.isNamed || !b.isNamed) && (channelFits a b || a.underlying = b.underlying))

/-- Whether a value of type `a` can be stored where `b` is required. -/
def assignable (a b : Ty) : Bool := sameRepresentation a b || boxes b a

/-- The ways to turn a value of one type into a value of another. -/
inductive Conversion where
  /-- One kind of number into another of the same family. -/
  | number (target : Basic)
  | textToBytes
  | textToRunes
  | bytesToText
  | runesToText
  | sliceToArray (length : Nat)
  | sliceToArrayPointer (length : Nat)
  /-- The same value under another type. -/
  | relabel
  /-- Into an interface. -/
  | box
deriving DecidableEq, Repr

/-- Conversions between numbers, and between texts and slices. -/
def contentConversion? (a b : Ty) : Option Conversion :=
  match a.underlying, b.underlying with
  | basic x, basic y =>
    if x.isReal && y.isReal || x.isComplex && y.isComplex then some (.number y) else none
  | basic .string, slice (basic .uint8) => some .textToBytes
  | basic .string, slice (basic .int32) => some .textToRunes
  | slice (basic .uint8), basic .string => some .bytesToText
  | slice (basic .int32), basic .string => some .runesToText
  | slice x, array n y => if x = y then some (.sliceToArray n) else none
  | slice x, pointer y =>
    match y.underlying with
    | array n z => if x = z then some (.sliceToArrayPointer n) else none
    | _ => none
  | _, _ => none

/-- Whether a value of type `a` is a value of type `b` after its type is changed: the underlying
types are the same up to tags, or both are unnamed pointers to such types. -/
def relabels (a b : Ty) : Bool :=
  channelFits a b || alike a.underlying b.underlying ||
    match a, b with
    | pointer x, pointer y => alike x.underlying y.underlying
    | _, _ => false

/-- How a value of type `a` is turned into one of type `b`. -/
def conversion? (a b : Ty) : Option Conversion :=
  match contentConversion? a b with
  | some c => some c
  | none => if relabels a b then some .relabel else if boxes b a then some .box else none

/-- Whether a value of type `a` can be turned into one of type `b`. -/
def convertible (a b : Ty) : Bool := (conversion? a b).isSome

/-- Whether the conversion is possible or, out of an interface, may turn out to be. -/
def canConvert (a b : Ty) : Bool := a.isInterface || convertible a b

/-- Whether values of the type are held by themselves. Pointers, interfaces, maps, slices, channels
and funcs are held by reference. -/
def isValue (t : Ty) : Bool :=
  match t.underlying with
  | pointer _ | interface _ | map _ _ | slice _ | channel _ _ | func _ _ _ => false
  | basic .unsafePointer => false
  | _ => true

/-- Whether an operand of type `a` is converted before it is handed over as `b`. -/
def needsConversion (a b : Ty) : Bool := a ≠ b && (a.isValue || b.isValue)

end Ty

end Tacit
