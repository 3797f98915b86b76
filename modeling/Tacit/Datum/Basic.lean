import Tacit.Number.Big
import Tacit.Text.Basic

/-!
# Data in literal notation

The values that program dumps and program arguments are written in: truth values, numbers, texts,
sequences and keyed collections, and nulls. Lists, sets and maps have elements of one shape; tuples
and objects have a shape for each part. A datum can also be unknown: that is the value of an
expression that could not be evaluated.
-/

namespace Tacit

/-- The shape of a datum. -/
inductive Shape where
  /-- No shape in particular. -/
  | any
  | bool
  | number
  | string
  | list (elem : Shape)
  | set (elem : Shape)
  | map (elem : Shape)
  | tuple (parts : List Shape)
  | object (attrs : List (Bytes × Shape))
deriving Inhabited

/-- A value in literal notation. The entries of maps and objects are sorted by key. -/
inductive Datum where
  | unknown (shape : Shape)
  | null (shape : Shape)
  | bool (b : Bool)
  | number (n : Number.Big)
  | string (s : Bytes)
  | list (elem : Shape) (items : List Datum)
  /-- The items are in the order in which they are enumerated. -/
  | set (elem : Shape) (items : List Datum)
  | map (elem : Shape) (entries : List (Bytes × Datum))
  | tuple (items : List Datum)
  | object (attrs : List (Bytes × Datum))
deriving Inhabited

namespace Shape

mutual
/-- Whether two shapes are the same. -/
def same : Shape → Shape → Bool
  | any, any | bool, bool | number, number | string, string => true
  | list a, list b | set a, set b | map a, map b => same a b
  | tuple as, tuple bs => sameAll as bs
  | object as, object bs => sameAttrs as bs
  | _, _ => false
/-- Whether two lists hold the same shapes. -/
def sameAll : List Shape → List Shape → Bool
  | [], [] => true
  | a :: as, b :: bs => same a b && sameAll as bs
  | _, _ => false
/-- Whether two lists hold the same attributes. -/
def sameAttrs : List (Bytes × Shape) → List (Bytes × Shape) → Bool
  | [], [] => true
  | (k, a) :: as, (l, b) :: bs => k = l && same a b && sameAttrs as bs
  | _, _ => false
end

mutual
theorem same_iff : ∀ a b : Shape, a.same b = true ↔ a = b
  | any, b => by cases b <;> simp [same]
  | bool, b => by cases b <;> simp [same]
  | number, b => by cases b <;> simp [same]
  | string, b => by cases b <;> simp [same]
  | list a, b => by cases b <;> simp [same, same_iff a]
  | set a, b => by cases b <;> simp [same, same_iff a]
  | map a, b => by cases b <;> simp [same, same_iff a]
  | tuple as, b => by cases b <;> simp [same, sameAll_iff as]
  | object as, b => by cases b <;> simp [same, sameAttrs_iff as]
theorem sameAll_iff : ∀ as bs : List Shape, sameAll as bs = true ↔ as = bs
  | [], bs => by cases bs <;> simp [sameAll]
  | a :: as, bs => by cases bs <;> simp [sameAll, same_iff a, sameAll_iff as]
theorem sameAttrs_iff : ∀ as bs : List (Bytes × Shape), sameAttrs as bs = true ↔ as = bs
  | [], bs => by cases bs <;> simp [sameAttrs]
  | _ :: _, [] => by simp [sameAttrs]
  | (_, a) :: as, (_, _) :: bs => by simp [sameAttrs, same_iff a, sameAttrs_iff as bs]
end

instance : DecidableEq Shape := fun a b => decidable_of_iff _ (same_iff a b)

end Shape

mutual
/-- The shape of a datum. -/
def Datum.shape : Datum → Shape
  | .unknown s | .null s => s
  | .bool _ => .bool
  | .number _ => .number
  | .string _ => .string
  | .list s _ => .list s
  | .set s _ => .set s
  | .map s _ => .map s
  | .tuple ds => .tuple (shapes ds)
  | .object as => .object (attrShapes as)
/-- The shapes of data. -/
def shapes : List Datum → List Shape
  | [] => []
  | d :: ds => d.shape :: shapes ds
/-- The shapes of attributes. -/
def attrShapes : List (Bytes × Datum) → List (Bytes × Shape)
  | [] => []
  | (k, d) :: ds => (k, d.shape) :: attrShapes ds
end

/-- Entries with one more, in its place by key; an entry of the same key is replaced. -/
def insertEntry {α : Type} (k : Bytes) (v : α) : List (Bytes × α) → List (Bytes × α)
  | [] => [(k, v)]
  | (l, w) :: es =>
    if k = l then (k, v) :: es
    else if k < l then (k, v) :: (l, w) :: es
    else (l, w) :: insertEntry k v es

/-- Entries sorted by key; of several with one key the last one stays. -/
def sortedEntries {α : Type} (es : List (Bytes × α)) : List (Bytes × α) :=
  es.foldl (fun acc (k, v) => insertEntry k v acc) []

end Tacit
