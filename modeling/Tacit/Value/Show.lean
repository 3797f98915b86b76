import Tacit.Declarations
import Tacit.Number.Shortest
import Tacit.Type.Text
import Tacit.Value.Key

/-!
# The text of a value

Values are shown without quotes: lists in brackets, structs in braces, maps sorted by key. A value
whose type has a method for its text is shown by that method, an error's method before the other,
unless it is out of reach. There is no end to the text of a list or a map that contains itself.
-/

namespace Tacit

open Number (double single)

/-- Texts one after the other with a blank between. -/
def spaced : List Bytes → Bytes
  | [] => []
  | [x] => x
  | x :: xs => x ++ (32 :: spaced xs)

/-- A text between two others. -/
def enclosed (opening closing : String) (x : Bytes) : Bytes :=
  .ofString opening ++ x ++ .ofString closing

/-- The text of something that is shown by where it is. -/
def shownAddress (a : Addr) : Bytes := .ofString ("0x" ++ Text.hex 12 a)

variable [Declarations]

/-! ### Methods -/

/-- What a method of a type answers. A method on values fails on a nil pointer. -/
def Ty.answer (t : Ty) (m : Method) (v : Data) (s : Store) : Except Panic Bytes :=
  match t with
  | .declared d => Declarations.answer d m v s
  | .pointer (.declared d) =>
    if (Declarations.methods d).contains m then
      match v with
      | .pointer a n => Declarations.answer d m (s.target a n) s
      | _ => .error (.nilReceiver d m)
    else Declarations.answer d m v s
  | _ => .error .nilDereference

/-- The method that a value of the type is shown by. -/
def Ty.shownBy? (t : Ty) : Option Method :=
  if t.isInterface then none
  else if t.methods.contains .error then some .error
  else if t.methods.contains .string then some .string
  else none

/-- The text that a value is shown as by a method. That the method breaks off is told in its place,
but for a nil pointer, of which there is nothing to tell. -/
def Ty.told (t : Ty) (m : Method) (v : Data) (s : Store) : Except Panic Bytes :=
  match t.answer m v s with
  | .ok text => .ok text
  | .error p =>
    match t.underlying, v with
    | .pointer _, .nil => .ok (.ofString "<nil>")
    | _, _ => .ok (enclosed ("%!v(PANIC=" ++ m.name ++ " method: ") ")" p.text)

/-! ### Data -/

mutual
/-- The text of data, with or without the names of fields. What lists and maps hold is in a cell,
and `inside` shows it. -/
def showData (s : Store) (named : Bool) (inside : Addr → Access → Ty → Data → Except Panic Bytes) :
    Data → Access → Ty → Except Panic Bytes
  | d, a, t =>
    match a.isFree, t.shownBy? with
    | true, some m => t.told m d s
    | _, _ =>
      match t.underlying, d with
      | _, .bool b => .ok (.ofString (if b then "true" else "false"))
      | _, .int n => .ok (.ofString (Text.decimal n))
      | _, .float64 bits => .ok (.ofString (double.text bits.toNat))
      | _, .float32 bits => .ok (.ofString (single.text bits.toNat))
      | _, .complex128 re im => .ok (.ofString (double.complexText re.toNat im.toNat))
      | _, .complex64 re im => .ok (.ofString (single.complexText re.toNat im.toNat))
      | _, .text x => .ok x
      | .struct fs, .tuple ds => do
        return enclosed "\x7b" "\x7d" (spaced (← showFields s named inside ds a fs))
      | .array _ e, .tuple ds => do
        return enclosed "[" "]" (spaced (← showItems s named inside ds a.item e))
      | .slice e, .slice c => do
        return enclosed "[" "]" (spaced (← (s.slots c).mapM (inside c a.item e)))
      | .slice _, _ => .ok (.ofString "[]")
      | .map k e, .map c => do
        return enclosed "map[" "]" (spaced (← (Data.sortEntries (s.entries c)).mapM fun (key, d) =>
          return (← inside c a.item k key) ++ (58 :: (← inside c a.item e d))))
      | .map _ _, _ => .ok (.ofString "map[]")
      | .interface _, .boxed t d => showData s named inside d a.item t
      | _, .pointer c _ => .ok (shownAddress c)
      | _, .channel c => .ok (shownAddress c)
      | _, .func c _ => .ok (shownAddress c)
      | _, _ => .ok (.ofString "<nil>")
/-- The texts of elements. -/
def showItems (s : Store) (named : Bool) (inside : Addr → Access → Ty → Data → Except Panic Bytes) :
    List Data → Access → Ty → Except Panic (List Bytes)
  | [], _, _ => .ok []
  | d :: ds, a, t => do
    return (← showData s named inside d a t) :: (← showItems s named inside ds a t)
/-- The texts of fields. -/
def showFields (s : Store) (named : Bool)
    (inside : Addr → Access → Ty → Data → Except Panic Bytes) :
    List Data → Access → List (Field Ty) → Except Panic (List Bytes)
  | d :: ds, a, f :: fs => do
    let x ← showData s named inside d (a.field f) f.type
    let label := if named then Bytes.ofString (f.name ++ ":") else []
    return (label ++ x) :: (← showFields s named inside ds a fs)
  | _, _, _ => .ok []
end

/-- The text of data in which none but the `n` cells `left` are looked into, each of them once on
the way to any part. Where a cell comes after itself, there is no end. -/
def showWithin (s : Store) (named : Bool) :
    (n : Nat) → (left : List Addr) → Access → Ty → Data → Except Panic Bytes
  | 0, _, a, t, d => showData s named (fun _ _ _ _ => .error .endless) d a t
  | n + 1, left, a, t, d =>
    showData s named (fun c a t d =>
      if c ∈ left then showWithin s named n (left.erase c) a t d else .error .endless) d a t

/-- The text of data as they are in a store. -/
def Store.text (s : Store) (named : Bool) (t : Ty) (d : Data) : Except Panic Bytes :=
  showWithin s named s.cells.length (List.range s.cells.length) .free t d

/-! ### Values -/

/-- The composite value that a value points to, which is shown in its place. -/
def Value.pointee? (v : Value) (s : Store) : Option Value :=
  match v.type.shownBy?, v.type.underlying, v.data with
  | none, .pointer e, .pointer c n =>
    match e.underlying with
    | .array _ _ | .slice _ | .struct _ | .map _ _ => some ⟨e, s.target c n⟩
    | _ => none
  | _, _, _ => none

/-- The text of a value, with or without the names of fields. -/
def Value.showAs (v : Value) (named : Bool) (s : Store) : Except Panic Bytes :=
  match v.pointee? s with
  | some u => do return .ofString "&" ++ (← s.text named u.type u.data)
  | none => s.text named v.type v.data

/-- The text of a value. -/
def Value.show (v : Value) (s : Store) : Except Panic Bytes := v.showAs false s

/-- The text of what an interface holds, which may be nothing. -/
def showContent (v : Option Value) (s : Store) : Except Panic Bytes :=
  v.elim (.ok (.ofString "<nil>")) (·.show s)

end Tacit
