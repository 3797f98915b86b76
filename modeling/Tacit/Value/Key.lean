import Tacit.Number.Binary
import Tacit.Value.Data

/-!
# Keys of maps

A map has one entry for each key. Numbers are the same key if they are equal, so that both zeros are
one key and what is not a number is never the key that another is.
-/

namespace Tacit

open Number (double single)

namespace Data

/-- Whether two ranks are those of equal numbers. -/
def sameRank : Option Int → Option Int → Bool
  | some a, some b => a = b
  | _, _ => false

mutual
/-- Whether two data are the same key. -/
def sameKey : Data → Data → Bool
  | float64 a, float64 b => sameRank (double.rank? a.toNat) (double.rank? b.toNat)
  | float32 a, float32 b => sameRank (single.rank? a.toNat) (single.rank? b.toNat)
  | complex128 a b, complex128 c d =>
    sameRank (double.rank? a.toNat) (double.rank? c.toNat) &&
      sameRank (double.rank? b.toNat) (double.rank? d.toNat)
  | complex64 a b, complex64 c d =>
    sameRank (single.rank? a.toNat) (single.rank? c.toNat) &&
      sameRank (single.rank? b.toNat) (single.rank? d.toNat)
  | tuple as, tuple bs => sameKeys as bs
  | boxed t a, boxed u b => t = u && sameKey a b
  | a, b => a = b
/-- Whether two lists of data are the same keys. -/
def sameKeys : List Data → List Data → Bool
  | [], [] => true
  | a :: as, b :: bs => sameKey a b && sameKeys as bs
  | _, _ => false
end

/-- The entries of a map with a value stored under a key. -/
def putEntry (k v : Data) : List (Data × Data) → List (Data × Data)
  | [] => [(k, v)]
  | (k', v') :: es => if k'.sameKey k then (k, v) :: es else (k', v') :: putEntry k v es

/-! ### Order -/

/-- The order of ranks: what is not a number comes first. -/
def rankOrder : Option Int → Option Int → Ordering
  | none, none => .eq
  | none, some _ => .lt
  | some _, none => .gt
  | some a, some b => compare a b

/-- The order of texts by their bytes. -/
def textOrder (a b : Bytes) : Ordering :=
  if a.less b then .lt else if b.less a then .gt else .eq

mutual
/-- The order of keys: nil comes first, then truth values with false first, numbers by size, texts
by their bytes, and arrays and structs by the first part that differs. -/
def keyOrder : Data → Data → Ordering
  | nil, nil => .eq
  | nil, _ => .lt
  | _, nil => .gt
  | bool a, bool b => compare a b
  | int a, int b => compare a b
  | float64 a, float64 b => rankOrder (double.rank? a.toNat) (double.rank? b.toNat)
  | float32 a, float32 b => rankOrder (single.rank? a.toNat) (single.rank? b.toNat)
  | complex128 a b, complex128 c d =>
    (rankOrder (double.rank? a.toNat) (double.rank? c.toNat)).then
      (rankOrder (double.rank? b.toNat) (double.rank? d.toNat))
  | complex64 a b, complex64 c d =>
    (rankOrder (single.rank? a.toNat) (single.rank? c.toNat)).then
      (rankOrder (single.rank? b.toNat) (single.rank? d.toNat))
  | text a, text b => textOrder a b
  | tuple as, tuple bs => keysOrder as bs
  | boxed _ a, boxed _ b => keyOrder a b
  | _, _ => .eq
/-- The order of lists of keys. -/
def keysOrder : List Data → List Data → Ordering
  | a :: as, b :: bs => (keyOrder a b).then (keysOrder as bs)
  | _, _ => .eq
end

/-- The entries of a map, sorted by key. -/
def sortEntries (es : List (Data × Data)) : List (Data × Data) :=
  es.mergeSort fun a b => a.1.keyOrder b.1 ≠ .gt

end Data

end Tacit
