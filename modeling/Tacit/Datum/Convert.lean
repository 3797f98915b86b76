import Tacit.Datum.Unify
import Tacit.Text.Casing
import Tacit.Text.Printable

/-!
# Conversions of data

A datum in another shape. Whether there is a conversion depends on the shapes alone; it can still
fail on a datum, for instance on a text that is no number.
-/

namespace Tacit

/-- Why a conversion fails. -/
inductive ConvertError where
  /-- There is no conversion between the shapes. -/
  | shape (wanted : Shape)
  | number
  /-- The text is no truth value; it is `like` one but for the case of its letters. -/
  | bool (like : Option Bool)
  /-- There is no entry for an attribute. -/
  | element (key : Bytes)
  /-- The elements of a collection do not have one shape. -/
  | mixed
deriving DecidableEq

/-- What a failed conversion is reported as. -/
def ConvertError.message : ConvertError → String
  | shape .any => "any type required"
  | shape wanted => wanted.describe ++ " required"
  | number => "a number is required"
  | bool none => "a bool is required"
  | bool (some b) =>
    "a bool is required; to convert from string, use lowercase \"" ++
      (if b then "true" else "false") ++ "\""
  | element k => "map has no element for required attribute " ++ Text.quoteBytes k
  | mixed => "element types must all match"

namespace Datum

/-! ### Texts -/

/-- A string as a text. -/
def text (s : String) : Datum := .string (.ofString s)

/-- The truth value that a text is. -/
def boolOfText (s : Bytes) : Except ConvertError Datum :=
  if s = .ofString "true" || s = .ofString "1" then .ok (.bool true)
  else if s = .ofString "false" || s = .ofString "0" then .ok (.bool false)
  else if Text.lower s.toText = "true" then .error (.bool (some true))
  else if Text.lower s.toText = "false" then .error (.bool (some false))
  else .error (.bool none)

/-- The number that a text is. -/
def numberOfText (s : Bytes) : Except ConvertError Datum :=
  match Number.Big.read? s.toText with
  | some n => .ok (.number n)
  | none => .error .number

/-! ### Collections -/

/-- The shape of all elements of a collection; nulls and unknown data of no shape in particular can
have that of the others. -/
def elementShape? (ds : List Datum) : Option Shape :=
  match (shapes ds).filter (· ≠ .any) with
  | [] => some .any
  | s :: ss => if ss.all (· = s) then some s else none

/-- A null or an unknown datum of no shape in particular, in the given shape. -/
def withShape (s : Shape) : Datum → Datum
  | null .any => null s
  | unknown .any => unknown s
  | d => d

/-- The list of some data, at least one. -/
def listOf (ds : List Datum) : Except ConvertError Datum :=
  match elementShape? ds with
  | some s => .ok (list s (ds.map (withShape s)))
  | none => .error .mixed

/-- The set of some data, at least one. -/
def setOf (ds : List Datum) : Except ConvertError Datum :=
  match elementShape? ds with
  | some s => .ok (set s (ds.map (withShape s)))
  | none => .error .mixed

/-- The map of some entries, at least one. -/
def mapOf (es : List (Bytes × Datum)) : Except ConvertError Datum :=
  match elementShape? (es.map (·.2)) with
  | some s => .ok (map s (es.map fun (k, d) => (k, withShape s d)))
  | none => .error .mixed

/-- The shape of the elements of a collection that was of shape `source`, if `target` is asked
for. -/
def emptyElem (source target : Shape) : Shape := if target = .any then source else target

/-- The shape that the parts of a tuple or an object are brought into, if `target` is asked for. -/
def partShape (parts : List Shape) (target : Shape) : Shape :=
  if target = .any then (Shape.unify parts).getD .any else target

/-- Fails at the first attribute that entries do not have. -/
def requireAll (es : List (Bytes × Datum)) : List (Bytes × Shape) → Except ConvertError Unit
  | [] => .ok ()
  | (k, _) :: as => if (es.lookup k).isSome then requireAll es as else .error (.element k)

/-! ### Conversion -/

mutual
/-- The datum in a shape that there is a conversion to. Nulls and unknown data change their shape
only. -/
def reshape : Datum → (target : Shape) → Except ConvertError Datum
  | d, .any => .ok d
  | .unknown t, s => .ok (.unknown (t.settled s))
  | .null t, s => .ok (.null (t.settled s))
  | .bool b, .string => .ok (.text (if b then "true" else "false"))
  | .number n, .string => .ok (.text n.text)
  | .string s, .bool => boolOfText s
  | .string s, .number => numberOfText s
  | .list t [], .list s | .set t [], .list s => .ok (.list (emptyElem t s) [])
  | .list t [], .set s | .set t [], .set s => .ok (.set (emptyElem t s) [])
  | .map t [], .map s => .ok (.map (emptyElem t s) [])
  | .tuple [], .list s => .ok (.list s [])
  | .tuple [], .set s => .ok (.set s [])
  | .object [], .map s => .ok (.map s [])
  | .list _ ds, .list s | .set _ ds, .list s => do listOf (← reshapeEach ds s)
  | .list _ ds, .set s | .set _ ds, .set s => do setOf (← reshapeEach ds s)
  | .tuple ds, .list s => do listOf (← reshapeEach ds (partShape (shapes ds) s))
  | .tuple ds, .set s => do setOf (← reshapeEach ds (partShape (shapes ds) s))
  | .map _ es, .map s => do mapOf (← reshapeValues es s)
  | .object es, .map s => do
    mapOf (← reshapeValues es (partShape ((attrShapes es).map (·.2)) s))
  | .tuple ds, .tuple ss => do return .tuple (← reshapeAll ds ss)
  | .object es, .object as => do return .object (← reshapeAttrs es as)
  | .map _ es, .object as => do
    let attrs ← reshapeAttrs es as
    requireAll es as
    return .object attrs
  | d, _ => .ok d
/-- Data in one shape. -/
def reshapeEach : List Datum → (target : Shape) → Except ConvertError (List Datum)
  | [], _ => .ok []
  | d :: ds, s => do
    let d ← reshape d s
    return d :: (← reshapeEach ds s)
/-- Entries in one shape. -/
def reshapeValues :
    List (Bytes × Datum) → (target : Shape) → Except ConvertError (List (Bytes × Datum))
  | [], _ => .ok []
  | (k, d) :: es, s => do
    let d ← reshape d s
    return (k, d) :: (← reshapeValues es s)
/-- The parts of a tuple in the shapes asked for. -/
def reshapeAll : List Datum → (targets : List Shape) → Except ConvertError (List Datum)
  | d :: ds, s :: ss => do
    let d ← reshape d s
    return d :: (← reshapeAll ds ss)
  | _, _ => .ok []
/-- The entries that are asked for, in the shapes asked for. -/
def reshapeAttrs :
    List (Bytes × Datum) → (targets : List (Bytes × Shape)) →
    Except ConvertError (List (Bytes × Datum))
  | [], _ => .ok []
  | (k, d) :: es, as =>
    match as.lookup k with
    | some s => do
      let d ← reshape d s
      return (k, d) :: (← reshapeAttrs es as)
    | none => reshapeAttrs es as
end

/-- The datum in another shape. -/
def convert (d : Datum) (s : Shape) : Except ConvertError Datum :=
  if d.shape = s then .ok d
  else if d.shape.convertible s then d.reshape s
  else .error (.shape s)

/-! ### Knowledge -/

/-- Whether the datum is a null. -/
def isNull : Datum → Bool
  | .null _ => true
  | _ => false

mutual
/-- Whether nothing in the datum is unknown. -/
def isKnown : Datum → Bool
  | .unknown _ => false
  | .list _ ds | .set _ ds | .tuple ds => allKnown ds
  | .map _ es | .object es => entriesKnown es
  | _ => true
/-- Whether nothing in any of the data is unknown. -/
def allKnown : List Datum → Bool
  | [] => true
  | d :: ds => d.isKnown && allKnown ds
/-- Whether nothing in any of the entries is unknown. -/
def entriesKnown : List (Bytes × Datum) → Bool
  | [] => true
  | (_, d) :: es => d.isKnown && entriesKnown es
end

end Datum

end Tacit
