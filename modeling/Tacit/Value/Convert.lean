import Tacit.Number.Binary
import Tacit.Type.Relations
import Tacit.Value.Run

/-!
# Storing and converting values

* `Value.stored`: the data a variable of an assignable type holds after an assignment.
* `Value.convert`: the value turned into another type. Only a slice that is too short for an array
  makes it panic, and only a text that becomes a slice takes new storage.
* `Value.unbox`: the same for the content of an interface, whose type is known at run time only.
-/

namespace Tacit

open Number (double single)

/-! ### Numbers -/

/-- The integer of the type that agrees with `n` in the type's bits. -/
def Basic.wrap (b : Basic) (n : Int) : Int :=
  match b.integer? with
  | some (true, bits) => n.bmod (Nat.pow 2 bits)
  | some (false, bits) => n % Nat.pow 2 bits
  | none => n

/-- A floating-point number of type `b` from a pattern of sixty-four bits. -/
def Basic.ofDouble (b : Basic) (bits : Nat) : Data :=
  if b = .float32 then .float32 (single.convert double bits).toUInt32 else .float64 bits.toUInt64

/-- The integer part as far as an integer of sixty-four bits holds it; out of that range, the least
signed one. -/
def clampedPart (signed : Bool) : Option Int → Int
  | some n =>
    if n < -Nat.pow 2 63 || (if signed then Nat.pow 2 63 ≤ n else Nat.pow 2 64 ≤ n) then
      -Nat.pow 2 63
    else n
  | none => -Nat.pow 2 63

/-- A number in sixty-four bits as a number of type `target`. -/
def Basic.ofReal (target : Basic) (bits : Nat) : Data :=
  match target.integer? with
  | some (signed, _) => .int (target.wrap (clampedPart signed (double.truncate? bits)))
  | none => target.ofDouble bits

/-- A number of any type as a number of type `target`. -/
def Basic.ofNumber (target : Basic) : Data → Data
  | .int n => if target.isInteger then .int (target.wrap n) else target.ofDouble (double.ofInt n)
  | .float64 bits => target.ofReal bits.toNat
  | .float32 bits =>
    if target = .float32 then .float32 bits else target.ofReal (double.convert single bits.toNat)
  | .complex128 re im =>
    if target = .complex64 then
      .complex64 (single.convert double re.toNat).toUInt32 (single.convert double im.toNat).toUInt32
    else .complex128 re im
  | .complex64 re im =>
    if target = .complex128 then
      .complex128 (double.convert single re.toNat).toUInt64
        (double.convert single im.toNat).toUInt64
    else .complex64 re im
  | d => d

/-! ### Texts -/

/-- The code point of a rune. -/
def Rune.code (r : Rune) : Nat := r.toChar.toNat

/-- The character with a code point, or the replacement character. -/
def charOfCode (n : Int) : Char :=
  if 0 ≤ n && (n < 0xD800 || (0xDFFF < n && n < 0x110000)) then Char.ofNat n.toNat else '\uFFFD'

/-- The byte an integer is. -/
def Data.toByte : Data → UInt8
  | .int n => n.toNat.toUInt8
  | _ => 0

/-- The bytes of the character whose code an integer is. -/
def Data.toCharBytes : Data → Bytes
  | .int n => Bytes.ofChar (charOfCode n)
  | _ => []

/-! ### Values -/

/-- What a slice holds; nil holds nothing. -/
def Store.sliceItems (s : Store) : Data → List Data
  | .slice a => s.slots a
  | _ => []

variable [Declarations]

namespace Value

/-- The data in an interface after the value is put into it. A value that is in an interface already
is taken out first. -/
def boxed (v : Value) : Data := if v.type.isInterface then v.data else .boxed v.type v.data

/-- What a variable of type `t` holds after the value, of an assignable type, is stored in it. -/
def stored (v : Value) (t : Ty) : Data :=
  if Ty.sameRepresentation v.type t then v.data else v.boxed

/-- Carries a conversion out. -/
def apply (c : Ty.Conversion) (v : Value) : Run Data := do
  match c with
  | .number target => pure (target.ofNumber v.data)
  | .textToBytes =>
    let .text s := v.data | pure .nil
    .slice <$> Run.allocate (.slots (s.map fun b => .int b.toNat))
  | .textToRunes =>
    let .text s := v.data | pure .nil
    .slice <$> Run.allocate (.slots (s.runes.map fun r => .int r.code))
  | .bytesToText => pure (.text (((← Run.store).sliceItems v.data).map Data.toByte))
  | .runesToText => pure (.text (((← Run.store).sliceItems v.data).flatMap Data.toCharBytes))
  | .sliceToArray n =>
    let items := (← Run.store).sliceItems v.data
    if items.length < n then Run.panic (.shortSlice items.length n false)
    else pure (.tuple (items.take n))
  | .sliceToArrayPointer n =>
    let items := (← Run.store).sliceItems v.data
    if items.length < n then Run.panic (.shortSlice items.length n true)
    else match v.data with
      | .slice a => pure (.pointer a (some n))
      | _ => pure .nil
  | .relabel => pure v.data
  | .box => pure v.boxed

/-- The value turned into type `t`. -/
def convert (v : Value) (t : Ty) : Run Value :=
  match Ty.conversion? v.type t with
  | some c => do pure ⟨t, ← apply c v⟩
  | none => Run.panic (.boxContent v.type t)

/-- The value in an interface; a value of any other type is itself. -/
def content (v : Value) : Option Value :=
  if v.type.isInterface then
    match v.data with
    | .boxed t d => some ⟨t, d⟩
    | _ => none
  else some v

/-- The content of a value of interface type `box` turned into type `t`. -/
def unbox (v : Value) (box t : Ty) : Run Value :=
  match v.content with
  | none => Run.panic (.emptyBox box t)
  | some c => c.convert t

end Value

end Tacit
