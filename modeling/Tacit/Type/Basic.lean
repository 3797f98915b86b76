/-!
# Types

The types that words, literals and signatures are made of. Types are compared by structure; a
declared type is equal to itself only. What declared types are made of is not part of them: it is
given by the declarations of a program.
-/

namespace Tacit

/-- The predeclared types. -/
inductive Basic where
  | bool | string
  | int | int8 | int16 | int32 | int64
  | uint | uint8 | uint16 | uint32 | uint64 | uintptr
  | float32 | float64 | complex64 | complex128
  | unsafePointer
deriving DecidableEq, Repr, Inhabited

/-- A method: its name, and its parameters and results as they are written after it. -/
structure Method where
  name : String
  signature : String
deriving DecidableEq, Repr

/-- An interface type: its name, which is empty if the type is written out, and the methods that it
asks for. -/
structure Interface where
  name : String
  methods : List Method
deriving DecidableEq, Repr

/-- A declared type other than an interface: the package it is declared in, and its name there. -/
structure Declared where
  package : String
  name : String
deriving DecidableEq, Repr

/-- Which ways a channel type allows. -/
inductive Direction where
  | both | receive | send
deriving DecidableEq, Repr

/-- A field of a struct type. An empty tag is no tag. -/
structure Field (α : Type) where
  name : String
  type : α
  tag : String
  /-- The package outside of which the field is out of reach; empty if the field is exported. -/
  package : String
  /-- The field is there for the parts of its type, and is named after it. -/
  embedded : Bool
deriving DecidableEq, Repr

/-- Types. The last parameter of a variadic func is a slice. -/
inductive Ty where
  | basic (b : Basic)
  | interface (i : Interface)
  | declared (d : Declared)
  | slice (elem : Ty)
  | pointer (elem : Ty)
  | array (length : Nat) (elem : Ty)
  | map (key elem : Ty)
  | channel (dir : Direction) (elem : Ty)
  | func (params results : List Ty) (variadic : Bool)
  | struct (fields : List (Field Ty))
deriving Repr, Inhabited

namespace Ty

/-! ### Equality -/

mutual
/-- Whether two types are the same. -/
def same : Ty → Ty → Bool
  | basic a, basic b => a = b
  | interface a, interface b => a = b
  | declared a, declared b => a = b
  | slice a, slice b => same a b
  | pointer a, pointer b => same a b
  | array m a, array n b => m = n && same a b
  | map k a, map l b => same k l && same a b
  | channel c a, channel d b => c = d && same a b
  | func ps rs v, func qs ss w => sameAll ps qs && sameAll rs ss && v = w
  | struct fs, struct gs => sameFields fs gs
  | _, _ => false
/-- Whether two lists hold the same types in the same order. -/
def sameAll : List Ty → List Ty → Bool
  | [], [] => true
  | a :: as, b :: bs => same a b && sameAll as bs
  | _, _ => false
/-- Whether two lists hold the same fields in the same order. -/
def sameFields : List (Field Ty) → List (Field Ty) → Bool
  | [], [] => true
  | ⟨m, a, t, p, d⟩ :: fs, ⟨n, b, u, q, e⟩ :: gs =>
    m = n && same a b && t = u && p = q && d = e && sameFields fs gs
  | _, _ => false
end

mutual
theorem same_iff : ∀ a b : Ty, a.same b = true ↔ a = b
  | basic _, b => by cases b <;> simp [same]
  | interface _, b => by cases b <;> simp [same]
  | declared _, b => by cases b <;> simp [same]
  | slice a, b => by cases b <;> simp [same, same_iff a]
  | pointer a, b => by cases b <;> simp [same, same_iff a]
  | array _ a, b => by cases b <;> simp [same, same_iff a]
  | map k a, b => by cases b <;> simp [same, same_iff k, same_iff a]
  | channel _ a, b => by cases b <;> simp [same, same_iff a]
  | func ps rs _, b => by cases b <;> simp [same, sameAll_iff ps, sameAll_iff rs, and_assoc]
  | struct fs, b => by cases b <;> simp [same, sameFields_iff fs]
theorem sameAll_iff : ∀ as bs : List Ty, sameAll as bs = true ↔ as = bs
  | [], bs => by cases bs <;> simp [sameAll]
  | a :: as, bs => by cases bs <;> simp [sameAll, same_iff a, sameAll_iff as]
theorem sameFields_iff : ∀ fs gs : List (Field Ty), sameFields fs gs = true ↔ fs = gs
  | [], gs => by cases gs <;> simp [sameFields]
  | _ :: _, [] => by simp [sameFields]
  | ⟨_, a, _, _, _⟩ :: fs, ⟨_, _, _, _, _⟩ :: gs => by
    simp [sameFields, same_iff a, sameFields_iff fs gs, and_assoc]
end

instance : DecidableEq Ty := fun a b => decidable_of_iff _ (same_iff a b)

end Ty

/-! ### Methods and interfaces -/

/-- The method that tells the text of a value. -/
def Method.string : Method := ⟨"String", "() string"⟩

/-- The method that tells the text of an error. -/
def Method.error : Method := ⟨"Error", "() string"⟩

namespace Interface

/-- The interface that asks for nothing. -/
def any : Interface := ⟨"", []⟩

/-- The interface of errors. -/
def error : Interface := ⟨"error", [.error]⟩

/-- The interface of values that tell their text. -/
def stringer : Interface := ⟨"fmt.Stringer", [.string]⟩

/-- An interface type that has a name. -/
def isNamed (i : Interface) : Bool := !i.name.isEmpty

end Interface

/-! ### Abbreviations -/

namespace Ty

abbrev bool : Ty := basic .bool
abbrev string : Ty := basic .string
abbrev int : Ty := basic .int
abbrev any : Ty := interface .any
abbrev error : Ty := interface .error

/-- Whether the type goes by a name: it is predeclared or declared. -/
def isNamed : Ty → Bool
  | basic _ | declared _ => true
  | interface i => i.isNamed
  | _ => false

/-- The interface that a type is. -/
def interface? : Ty → Option Interface
  | interface i => some i
  | _ => none

/-- Whether values of the type are boxes for a value of another type. -/
def isInterface (t : Ty) : Bool := t.interface?.isSome

/-- Whether the type is one that a declared type can be made of: it is no declared type itself, and
no interface. -/
def isPlain : Ty → Bool
  | declared _ | interface _ => false
  | _ => true

def isStruct : Ty → Bool
  | struct _ => true
  | _ => false

end Ty

/-! ### Fields -/

namespace Field

/-- An exported field with a tag. -/
def tagged (name : String) (type : Ty) (tag : String) : Field Ty := ⟨name, type, tag, "", false⟩

/-- An exported field without a tag. -/
def plain (name : String) (type : Ty) : Field Ty := tagged name type ""

/-- Whether the field is within reach everywhere. -/
def isExported (f : Field Ty) : Bool := f.package.isEmpty

end Field

/-- What may be done with a part of a value. It depends on the fields that lead there. -/
inductive Access where
  /-- Everything. -/
  | free
  /-- The part is an embedded field that is not exported. It may only be looked at, but its own
  fields are as free as if they were those of the whole. -/
  | embedded
  /-- A field that is not exported leads there: the part may only be looked at, with all its parts.
  -/
  | closed
deriving DecidableEq, Repr

namespace Access

def isFree (a : Access) : Bool := a = free

/-- What may be done with a field. -/
def field (a : Access) (f : Field Ty) : Access :=
  match a with
  | closed => closed
  | _ => if f.isExported then free else if f.embedded then embedded else closed

/-- What may be done with an item of an array, a slice or a map, or with what an interface holds. -/
def item : Access → Access
  | free => free
  | _ => closed

end Access

end Tacit
