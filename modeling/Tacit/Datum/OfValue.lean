import Tacit.Datum.Convert
import Tacit.Text.Normal
import Tacit.Type.Relations
import Tacit.Type.Tag
import Tacit.Value.Run

/-!
# Values as data

Which types have values that literal notation can express, and the datum of such a value. A struct
is expressed by the fields whose tag names an attribute. The shape of a type is found by looking at
what it is made of, which does not end for a type that is made of itself.
-/

namespace Tacit

/-! ### Shapes -/

/-- The shape of the values of a predeclared type. -/
def Basic.shape? : Basic → Option Shape
  | bool => some .bool
  | string => some .string
  | uintptr | complex64 | complex128 | unsafePointer => none
  | _ => some .number

/-- The object of some attributes; none is no object. -/
def Shape.ofAttrs : List (Bytes × Shape) → Option Shape
  | [] => none
  | as => some (.object (sortedEntries as))

/-- Whether a field with the tag counts among those of a struct, the others of which follow it: it
names an attribute, and none of the others names the same one. -/
def tagCounts (tag : String) (fs : List (Field Ty)) : Bool :=
  !(attributeName tag = [] || fs.any fun f => attributeName f.tag = attributeName tag)

variable [Declarations]

namespace Ty

mutual
/-- The shape that expresses the values of a type, for given shapes of declared types. -/
def shapeWith (shapeOf : Declared → Option Shape) : Ty → Option Shape
  | basic b => b.shape?
  | declared d => shapeOf d
  | pointer t => t.shapeWith shapeOf
  | slice t => (t.shapeWith shapeOf).map .list
  | map k t => if Ty.assignable .string k then (t.shapeWith shapeOf).map .map else none
  | struct fs => (attrShapesWith shapeOf fs).bind Shape.ofAttrs
  | _ => none
/-- The attributes that fields are expressed by, all of which have to be expressible. Of several
fields for one attribute the last one counts. -/
def attrShapesWith (shapeOf : Declared → Option Shape) :
    List (Field Ty) → Option (List (Bytes × Shape))
  | [] => some []
  | ⟨_, t, tag, _, _⟩ :: fs =>
    if tagCounts tag fs then
      match t.shapeWith shapeOf, attrShapesWith shapeOf fs with
      | some s, some as => some ((Text.compose (attributeName tag), s) :: as)
      | _, _ => none
    else attrShapesWith shapeOf fs
end

mutual
/-- The declared types whose shapes the shape of a type depends on. -/
def askedFor : Ty → List Declared
  | declared d => [d]
  | pointer t | slice t => t.askedFor
  | map k t => if Ty.assignable .string k then t.askedFor else []
  | struct fs => askedForAll fs
  | _ => []
/-- The declared types whose shapes the attributes of fields depend on. -/
def askedForAll : List (Field Ty) → List Declared
  | [] => []
  | ⟨_, t, tag, _, _⟩ :: fs =>
    if tagCounts tag fs then t.askedFor ++ askedForAll fs else askedForAll fs
end

end Ty

namespace Declared

/-- The shape of a declared type that takes at most `n` steps from one declared type to another to
find. A type that is made to hold data can hold any. -/
def shapeWithin : (n : Nat) → Declared → Option Shape
  | 0, _ => none
  | n + 1, d =>
    if (Declarations.carrier d).isSome then some .any else d.underlying.shapeWith (shapeWithin n)

/-- Whether finding the shape of a declared type can take more than `n` steps. -/
def exceeds : (n : Nat) → Declared → Bool
  | 0, _ => true
  | n + 1, d => (Declarations.carrier d).isNone && d.underlying.askedFor.any (exceeds n)

end Declared

/-- More steps than there are declared types: whatever takes so many has come back to where it was,
and does not end. -/
def Declarations.bound : Nat := Declarations.all.length + 1

namespace Ty

/-- Whether looking for the shape of a type does not end. -/
def isEndless (t : Ty) : Bool := t.askedFor.any (Declared.exceeds Declarations.bound)

/-- The shape that expresses the values of a type. -/
def shape? (t : Ty) : Option Shape := t.shapeWith (Declared.shapeWithin Declarations.bound)

end Ty

/-! ### Data -/

/-- The number of a datum, if it is one. -/
def numberDatum? : Data → Option Datum
  | .int n => some (.number (.ofInt n))
  | .float64 bits => (Number.Big.ofDouble? bits.toNat).map .number
  | .float32 bits =>
    (Number.Big.ofDouble? (Number.double.convert Number.single bits.toNat)).map .number
  | _ => none

/-- What is behind pointers, whose number the type says; nothing behind a nil one. -/
def Store.follow (s : Store) : Ty → Data → Option (Ty × Data)
  | .pointer t, .pointer a n => s.follow t (s.target a n)
  | .pointer _, _ => none
  | t, d => some (t, d)

/-- A field by the attribute its tag names; of several the last one counts. -/
def fieldFor? (attr : Bytes) (fs : List (Field Ty)) (ds : List Data) : Option (Field Ty × Data) :=
  (fs.zip ds).reverse.find? fun (f, _) => attributeName f.tag = attr

/-- What a value that is made to hold data holds. It is taken out of the value, which has to be
free. -/
def carried? (a : Access) (t : Ty) (d : Data) : Option Datum :=
  t.carrier?.bind fun c => if a.isFree then some (c.read d) else none

mutual
/-- Whether data of the shape all have just that shape. -/
def Shape.isSettled : Shape → Bool
  | .any => false
  | .bool | .number | .string => true
  | .list s | .set s | .map s => s.isSettled
  | .tuple ss => allSettled ss
  | .object as => attrsSettled as
/-- The same of shapes in a row. -/
def allSettled : List Shape → Bool
  | [] => true
  | s :: ss => s.isSettled && allSettled ss
/-- The same of the shapes of attributes. -/
def attrsSettled : List (Bytes × Shape) → Bool
  | [] => true
  | (_, s) :: as => s.isSettled && attrsSettled as
end

/-- A list of elements for which the shape `e` is meant. Where that leaves something open, they have
to be of one shape. -/
def listDatum? (e : Shape) (ds : List Datum) : Option Datum :=
  if e.isSettled || ds.isEmpty then some (.list e ds) else (Datum.listOf ds).toOption

/-- A map with values for which the shape `e` is meant. Where that leaves something open, they have
to be of one shape. -/
def mapDatum? (e : Shape) (es : List (Bytes × Datum)) : Option Datum :=
  if e.isSettled || es.isEmpty then some (.map e (sortedEntries es))
  else (Datum.mapOf (sortedEntries es)).toOption

/-- The text of a key. -/
def keyText? : Data → Option Bytes
  | .text k => some (Text.compose k)
  | _ => none

/-- Pairs up entries that both have a result. -/
def entry? (k : Option Bytes) (d : Option Datum) : Option (Bytes × Datum) := do
  return (← k, ← d)

mutual
/-- The datum that expresses data of type `t` in shape `shape`. A number that is none has none. -/
def datumOf? (s : Store) : (shape : Shape) → Access → Ty → Data → Option Datum
  | shape, access, t, d =>
    match s.follow t d with
    | none => some (.null shape)
    | some (t, d) =>
      match shape, t.underlying, d with
      | .any, _, d => carried? access t d
      | .bool, _, .bool b => some (.bool b)
      | .string, _, .text x => some (.string (Text.compose x))
      | .number, _, d => numberDatum? d
      | .list e, .slice u, .slice a =>
        ((s.slots a).mapM (datumOf? s e access.item u)).bind (listDatum? e)
      | .list e, _, _ => some (.null (.list e))
      | .map e, .map _ u, .map a =>
        ((s.entries a).mapM fun (k, d) =>
          entry? (keyText? k) (datumOf? s e access.item u d)).bind (mapDatum? e)
      | .map e, _, _ => some (.null (.map e))
      | .object as, .struct fs, .tuple ds => (attrsOf? s as access fs ds).map .object
      | _, _, _ => none
/-- The attributes of a struct. One whose name no tag is exactly, because tags are not normalised,
is null. -/
def attrsOf? (s : Store) : List (Bytes × Shape) → Access → List (Field Ty) → List Data →
    Option (List (Bytes × Datum))
  | [], _, _, _ => some []
  | (k, shape) :: as, access, fs, ds => do
    let v ← match fieldFor? k fs ds with
      | some (f, d) => datumOf? s shape (access.field f) f.type d
      | none => some (.null shape)
    return (k, v) :: (← attrsOf? s as access fs ds)
end

/-- The datum that expresses a value, if literal notation can. -/
def Value.datum? (v : Value) (s : Store) : Option Datum := do
  datumOf? s (← v.type.shape?) .free v.type v.data

end Tacit
