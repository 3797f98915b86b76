import Tacit.Datum.Convert
import Tacit.Datum.OfValue
import Tacit.Text.Printable
import Tacit.Type.Text
import Tacit.Value.Convert

/-!
# Data as values

* `Datum.fill`: a datum as the contents of a variable of a given type. Pointers are followed: what
  they point to is new storage.
* `Datum.box`: a datum as the contents of a variable of an interface type: the value of the type
  that is nearest to the datum, in which all numbers are floating-point numbers.
* `Datum.assign`: either of them, as the type asks for.
-/

namespace Tacit

/-- Why a datum does not fit a type. -/
inductive Misfit where
  /-- There is no null of the type. -/
  | null
  /-- The datum is not known. -/
  | unknown
  /-- The type asks for data of another kind. -/
  | kind (wanted : String)
  /-- The type is none that data have. -/
  | type
  /-- The number is no integer within the limits. -/
  | notWhole (lo hi : Int)
  /-- The number is beyond all floating-point numbers. -/
  | tooLarge
  | listLength (n : Nat)
  | tupleLength (n : Nat)
  | missingAttribute (k : Bytes)
  | unsupportedAttribute (k : Bytes)
  /-- The value lacks methods of the interface. -/
  | methods (t interface : Ty)
  /-- No value is near to data of the shape. -/
  | unsupported (s : Shape)
  /-- The map's keys are of a type that texts are not assignable to. -/
  | foreignKey (key : Ty)
  /-- A field is not exported, so that the method cannot set it. -/
  | closed (setter : String)
  /-- The fault is in the entry with this key. -/
  | inside (k : Bytes) (m : Misfit)

/-- The largest floating-point number, as an integer. -/
def maxReal : Nat := (Nat.pow 2 53 - 1) * Nat.pow 2 971

/-- What a misfit is reported as. -/
def Misfit.message : Misfit → String
  | null => "null value is not allowed"
  | unknown => "value must be known"
  | kind wanted => wanted ++ " value is required"
  | type => "incorrect type"
  | notWhole lo hi =>
    "value must be a whole number, between " ++ Text.decimal lo ++ " and " ++ Text.decimal hi ++
      (if lo = 0 then " inclusive" else "")
  | tooLarge =>
    let limit := Text.decimal maxReal ++ ".000000"
    "value must be between -" ++ limit ++ " and " ++ limit ++ " inclusive"
  | listLength n => "must be a list of length " ++ Text.decimal n
  | tupleLength n => "a tuple of " ++ Text.decimal n ++ " elements is required"
  | missingAttribute k => "missing required attribute " ++ Text.quoteBytes k
  | unsupportedAttribute k => "unsupported attribute " ++ Text.quoteBytes k
  | methods t i => t.text ++ " does not implement " ++ i.text
  | unsupported s => "unsupported value of type " ++ s.describe
  | foreignKey t => (Panic.keyType .string t).explain
  | closed setter => (Panic.sealedField setter).explain
  | inside k m => "in attribute " ++ Text.quoteBytes k ++ ": " ++ m.message

/-- The panic that a misfit amounts to, where it is no error: storing a key of another type breaks
off, and setting a field that is not exported. -/
def Misfit.panic? : Misfit → Option Panic
  | foreignKey t => some (.keyType .string t)
  | closed setter => some (.sealedField setter)
  | _ => none

/-- A computation that takes storage and can meet a misfit. -/
abbrev Build := StateT Store (Except Misfit)

namespace Build

/-- A new cell at the end of the store. -/
def allocate (c : Cell) : Build Addr :=
  modifyGet fun s => (s.cells.length, ⟨s.cells ++ [c]⟩)

/-- A computation for the entry with a key. -/
def inside {α : Type} (k : Bytes) (b : Build α) : Build α := fun s =>
  (b s).mapError (Misfit.inside k)

/-- Data behind `n` pointers. -/
def behind : (n : Nat) → Data → Build Data
  | 0, d => pure d
  | n + 1, d => do
    let a ← allocate (.slots [d])
    behind n (.pointer a none)

end Build

variable [Declarations]

namespace Ty

/-- How many pointers lead to a value, and its type. -/
def peel : Ty → Nat × Ty
  | pointer t => (t.peel.1 + 1, t.peel.2)
  | t => (0, t)

/-- Whether the type is an integer type that data are stored in, and its limits. -/
def limits? (t : Ty) : Option (Int × Int) :=
  match t.underlying with
  | basic .uintptr => none
  | basic b =>
    match b.integer? with
    | some (true, bits) => some (-Nat.pow 2 (bits - 1), Nat.pow 2 (bits - 1) - 1)
    | some (false, bits) => some (0, Nat.pow 2 bits - 1)
    | none => none
  | _ => none

/-- The misfit of a datum of the wrong kind. -/
def misfit (t : Ty) : Misfit :=
  match t.underlying with
  | basic .bool => .kind "bool"
  | basic .string => .kind "string"
  | basic .float32 | basic .float64 => .kind "number"
  | slice _ | array _ _ => .kind "list or set"
  | map _ _ => .kind "map or object"
  | struct _ => .kind "object or tuple"
  | t => if t.limits?.isSome then .kind "number" else .type

/-- The method that sets variables of the type. -/
def setter (t : Ty) : String :=
  match t.underlying with
  | basic .bool => "SetBool"
  | basic .string => "SetString"
  | basic .float32 | basic .float64 => "SetFloat"
  | basic b =>
    match b.integer? with
    | some (true, _) => "SetInt"
    | some (false, _) => "SetUint"
    | none => "Set"
  | _ => "Set"

/-- Whether an attribute for a field of the type can be missing. -/
def isOptional (t : Ty) : Bool :=
  match t.underlying with
  | pointer _ | slice _ | map _ _ | interface _ => true
  | _ => false

end Ty

/-- The floating-point number nearest to a number. -/
def nearestReal (n : Number.Big) : Except Misfit Nat :=
  match n.toDouble with
  | (bits, false) => .ok bits
  | (_, true) => .error .tooLarge

/-- A number as data of a type. -/
def numberData (n : Number.Big) (t : Ty) : Except Misfit Data :=
  match t.limits? with
  | some (lo, hi) =>
    match n.toInt? with
    | some i => if lo ≤ i && i ≤ hi then .ok (.int i) else .error (.notWhole lo hi)
    | none => .error (.notWhole lo hi)
  | none =>
    match t.underlying with
    | .basic .float64 => (nearestReal n).map (Basic.ofDouble .float64)
    | .basic .float32 => (nearestReal n).map (Basic.ofDouble .float32)
    | _ => .error t.misfit

/-- What a variable of the type is set to, which has to be free. -/
def Build.set (a : Access) (t : Ty) (d : Data) : Build Data :=
  if a.isFree then pure d else throw (.closed t.setter)

/-- A null as data behind `n` pointers. Where lists and maps are wanted it is nil; elsewhere it is
the last of the pointers. -/
def nullData (s : Shape) (a : Access) (n : Nat) (base : Ty) : Build Data :=
  match s, base.underlying with
  | .list _, .slice _ | .map _, .map _ _ => do Build.behind n (← Build.set a base .nil)
  | .list _, .array _ _ => throw .null
  | .list _, _ | .map _, _ => throw base.misfit
  | _, _ =>
    match n with
    | 0 => throw .null
    | n + 1 => Build.behind n .nil

/-- Fills a variable with a datum. Its pointers are set first. What is behind them holds any datum,
if it is made for that, and is else filled by `rest`. -/
def Build.reach (d : Datum) (a : Access) (t : Ty) (rest : Nat → Ty → Build Data) : Build Data :=
  if t.peel.1 ≠ 0 && !a.isFree then throw (.closed "Set")
  else match t.peel.2.carrier? with
    | some c => do Build.behind t.peel.1 (← Build.set a t.peel.2 (c.write d))
    | none => rest t.peel.1 t.peel.2

/-- A slice or an array of `k` items. Those of a slice are new, those of an array are parts of
it. -/
def Build.sequence (k : Nat) (items : Access → Ty → Build (List Data)) (a : Access) (t : Ty) :
    Build Data :=
  match t.underlying with
  | .slice u => do
    let c ← Build.allocate (.slots (← items .free u))
    Build.set a t (.slice c)
  | .array n u => if k = n then do return .tuple (← items a.item u) else throw (.listLength n)
  | _ => throw t.misfit

/-- The last field whose tag names an attribute, and its place. -/
def fieldNamed? (k : Bytes) (fs : List (Field Ty)) : Option (Nat × Field Ty) :=
  (fs.mapIdx fun i f => (i, f)).reverse.find? fun (_, f) => attributeName f.tag = k

/-- The attributes that fields need. Of several fields for one attribute the last one counts. -/
def needed : List (Field Ty) → List (Bytes × Unit)
  | [] => []
  | f :: fs =>
    let k := attributeName f.tag
    if k = [] || f.type.isOptional || fs.any fun g => attributeName g.tag = k then needed fs
    else (k, ()) :: needed fs

/-- The first attribute, by name, that fields need and entries do not have. -/
def missing? (es : List (Bytes × Datum)) (fs : List (Field Ty)) : Option Bytes :=
  ((sortedEntries (needed fs)).find? fun (k, _) => (es.lookup k).isNone).map (·.1)

namespace Datum

mutual
/-- The datum as data of a type that is no interface. -/
def fill : Datum → Access → Ty → Build Data
  | null s, a, t => Build.reach (null s) a t (nullData s a)
  | unknown s, a, t => Build.reach (unknown s) a t fun _ _ => throw .unknown
  | bool b, a, t => Build.reach (bool b) a t fun n base =>
    match base.underlying with
    | .basic .bool => do Build.behind n (← Build.set a base (.bool b))
    | _ => throw base.misfit
  | number x, a, t => Build.reach (number x) a t fun n base => do
    Build.behind n (← Build.set a base (← liftM (numberData x base)))
  | string s, a, t => Build.reach (string s) a t fun n base =>
    match base.underlying with
    | .basic .string => do Build.behind n (← Build.set a base (.text s))
    | _ => throw base.misfit
  | list e ds, a, t => Build.reach (list e ds) a t fun n base => do
    Build.behind n (← Build.sequence ds.length (fillAll ds) a base)
  | set e ds, a, t => Build.reach (set e ds) a t fun n base => do
    Build.behind n (← Build.sequence ds.length (fillAll ds) a base)
  | map e es, a, t => Build.reach (map e es) a t fun n base =>
    match base.underlying with
    | .map k u => do
      let c ← Build.allocate (.entries (← fillEntries es k u))
      Build.behind n (← Build.set a base (.map c))
    | _ => throw base.misfit
  | tuple ds, a, t => Build.reach (tuple ds) a t fun n base =>
    match base.underlying with
    | .struct fs =>
      if ds.length = fs.length then do Build.behind n (.tuple (← fillFields ds a fs))
      else throw (.tupleLength fs.length)
    | _ => throw base.misfit
  | object es, a, t => Build.reach (object es) a t fun n base =>
    match base.underlying with
    | .struct fs =>
      match missing? es fs with
      | some k => throw (.missingAttribute k)
      | none => do Build.behind n (.tuple (← fillAttrs es a fs (Ty.zeros fs)))
    | _ => throw base.misfit
/-- Data of one type. -/
def fillAll : List Datum → Access → Ty → Build (List Data)
  | [], _, _ => pure []
  | d :: ds, a, t => do
    let x ← fill d a t
    return x :: (← fillAll ds a t)
/-- Entries of a map. -/
def fillEntries : List (Bytes × Datum) → (key elem : Ty) → Build (List (Data × Data))
  | [], _, _ => pure []
  | (k, d) :: es, key, elem => do
    if !Ty.assignable .string key then throw (.foreignKey key)
    let x ← fill d .free elem
    return (Value.stored ⟨.string, .text k⟩ key, x) :: (← fillEntries es key elem)
/-- The fields of a struct in order. -/
def fillFields : List Datum → Access → List (Field Ty) → Build (List Data)
  | d :: ds, a, f :: fs => do
    let x ← fill d (a.field f) f.type
    return x :: (← fillFields ds a fs)
  | _, _, _ => pure []
/-- The fields of a struct by attribute, over what they hold so far. -/
def fillAttrs : List (Bytes × Datum) → Access → List (Field Ty) → List Data → Build (List Data)
  | [], _, _, xs => pure xs
  | (k, d) :: es, a, fs, xs =>
    match fieldNamed? k fs with
    | none => throw (.unsupportedAttribute k)
    | some (i, f) => do
      let x ← fill d (a.field f) f.type
      fillAttrs es a fs (xs.set i x)
end

mutual
/-- The datum as the contents of a variable of an interface type: nil, or a text, a number, a truth
value, a slice or a map. -/
def box : Datum → Build Data
  | null _ => pure .nil
  | unknown s => throw (.unsupported s)
  | bool b => pure (.boxed .bool (.bool b))
  | number n => do
    let bits ← liftM (nearestReal n)
    return .boxed (.basic .float64) (Basic.ofDouble .float64 bits)
  | string s => pure (.boxed .string (.text s))
  | list _ ds | set _ ds | tuple ds => do
    let a ← Build.allocate (.slots (← boxAll ds))
    return .boxed (.slice .any) (.slice a)
  | map _ es | object es => do
    let a ← Build.allocate (.entries (← boxEntries es))
    return .boxed (.map .string .any) (.map a)
/-- The contents of several variables. -/
def boxAll : List Datum → Build (List Data)
  | [] => pure []
  | d :: ds => do
    let x ← box d
    return x :: (← boxAll ds)
/-- Entries with texts as keys. -/
def boxEntries : List (Bytes × Datum) → Build (List (Data × Data))
  | [] => pure []
  | (k, d) :: es => do
    let x ← Build.inside k (box d)
    return (.text k, x) :: (← boxEntries es)
end

/-- The datum as the contents of a variable of a type. -/
def assign (d : Datum) (t : Ty) : Build Data := do
  if t.isInterface then
    let x ← d.box
    match x with
    | .boxed u _ => if u.assignable t then pure x else throw (.methods u t)
    | _ => pure x
  else d.fill .free t

end Datum

end Tacit
