import Tacit.Text.Basic
import Tacit.Type.Basic

/-!
# Values

`Data` is what a variable holds. Arrays and structs are held whole; slices, maps and pointers hold
the address of a cell of the store, so that copies of them share what they refer to. A func is a
code, which the host gives a meaning, with the data it has captured. A `Value` is data under a type.
-/

namespace Tacit

/-- The address of a cell of the store. -/
abbrev Addr := Nat

/-- The contents of a variable. -/
inductive Data where
  /-- The nil of every type that has one. -/
  | nil
  | bool (b : Bool)
  /-- An integer of any width, signed or not. -/
  | int (n : Int)
  | float32 (bits : UInt32)
  | float64 (bits : UInt64)
  | complex64 (re im : UInt32)
  | complex128 (re im : UInt64)
  | text (s : Bytes)
  /-- The elements of an array or the fields of a struct. -/
  | tuple (parts : List Data)
  /-- All the slots of a cell. -/
  | slice (cell : Addr)
  | map (cell : Addr)
  /-- The one slot of a cell, or, with a length, its first slots as an array. -/
  | pointer (cell : Addr) (length : Option Nat)
  | channel (cell : Addr)
  | func (code : Nat) (captured : List Data)
  /-- A value in an interface: its own type and its data. -/
  | boxed (type : Ty) (data : Data)
deriving Inhabited

namespace Data

mutual
/-- Whether two data are equal, as keys of a map are compared. -/
def same : Data → Data → Bool
  | nil, nil => true
  | bool a, bool b => a = b
  | int a, int b => a = b
  | float32 a, float32 b => a = b
  | float64 a, float64 b => a = b
  | complex64 a b, complex64 c d => a = c && b = d
  | complex128 a b, complex128 c d => a = c && b = d
  | text a, text b => a = b
  | tuple as, tuple bs => sameAll as bs
  | slice a, slice b => a = b
  | map a, map b => a = b
  | pointer a m, pointer b n => a = b && m = n
  | channel a, channel b => a = b
  | func a as, func b bs => a = b && sameAll as bs
  | boxed t a, boxed u b => t = u && same a b
  | _, _ => false
/-- Whether two lists of data are equal. -/
def sameAll : List Data → List Data → Bool
  | [], [] => true
  | a :: as, b :: bs => same a b && sameAll as bs
  | _, _ => false
end

mutual
theorem same_iff : ∀ a b : Data, a.same b = true ↔ a = b
  | nil, b => by cases b <;> simp [same]
  | bool _, b => by cases b <;> simp [same]
  | int _, b => by cases b <;> simp [same]
  | float32 _, b => by cases b <;> simp [same]
  | float64 _, b => by cases b <;> simp [same]
  | complex64 _ _, b => by cases b <;> simp [same]
  | complex128 _ _, b => by cases b <;> simp [same]
  | text _, b => by cases b <;> simp [same]
  | tuple as, b => by cases b <;> simp [same, sameAll_iff as]
  | slice _, b => by cases b <;> simp [same]
  | map _, b => by cases b <;> simp [same]
  | pointer _ _, b => by cases b <;> simp [same]
  | channel _, b => by cases b <;> simp [same]
  | func _ as, b => by cases b <;> simp [same, sameAll_iff as]
  | boxed _ a, b => by cases b <;> simp [same, same_iff a]
theorem sameAll_iff : ∀ as bs : List Data, sameAll as bs = true ↔ as = bs
  | [], bs => by cases bs <;> simp [sameAll]
  | a :: as, bs => by cases bs <;> simp [sameAll, same_iff a, sameAll_iff as]
end

instance : DecidableEq Data := fun a b => decidable_of_iff _ (same_iff a b)

mutual
/-- The same data with every address moved by `n`. -/
def shift (n : Nat) : Data → Data
  | tuple ps => tuple (shiftAll n ps)
  | slice a => slice (a + n)
  | map a => map (a + n)
  | pointer a l => pointer (a + n) l
  | channel a => channel (a + n)
  | func c ps => func c (shiftAll n ps)
  | boxed t d => boxed t (d.shift n)
  | d => d
/-- The same list of data with every address moved by `n`. -/
def shiftAll (n : Nat) : List Data → List Data
  | [] => []
  | d :: ds => d.shift n :: shiftAll n ds
end

end Data

/-- Data under a type. -/
structure Value where
  type : Ty
  data : Data
deriving Inhabited, DecidableEq

/-! ### Zero values -/

/-- The data of an unset variable of a predeclared type. -/
def Basic.zero : Basic → Data
  | bool => .bool false
  | string => .text []
  | float32 => .float32 0
  | float64 => .float64 0
  | complex64 => .complex64 0 0
  | complex128 => .complex128 0 0
  | unsafePointer => .nil
  | _ => .int 0

namespace Ty

mutual
/-- The data of an unset variable, for given ones of declared types. -/
def zeroWith (zeroOf : Declared → Data) : Ty → Data
  | basic b => b.zero
  | declared d => zeroOf d
  | array n t => .tuple (List.replicate n (t.zeroWith zeroOf))
  | struct fs => .tuple (zerosWith zeroOf fs)
  | _ => .nil
/-- The data of unset fields. -/
def zerosWith (zeroOf : Declared → Data) : List (Field Ty) → List Data
  | [] => []
  | ⟨_, t, _, _, _⟩ :: fs => t.zeroWith zeroOf :: zerosWith zeroOf fs
end

end Ty

end Tacit
