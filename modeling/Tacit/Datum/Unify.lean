import Tacit.Datum.Basic

/-!
# Conversions between shapes

Which shapes data of a given shape can be brought into, and the shape that data of several shapes
are brought into together. Texts, numbers and truth values are converted by their notation,
sequences and keyed collections part by part. Nothing is known of data of shape `any`: they are
taken to have a conversion to every shape.

* `Shape.convertible`: whether there is a conversion from one shape to another.
* `Shape.unify`: the shape that shapes are all brought into.
* `Shape.settled`: a shape with what another knows of it.
-/

namespace Tacit.Shape

/-! ### Conversion -/

mutual
/-- Whether there is a conversion from one shape to another. Where any elements are asked for, the
parts of a tuple or an object have to agree on a shape: `unifies` says whether shapes do. -/
def convertibleWith (unifies : List Shape → Bool) : (source target : Shape) → Bool
  | _, any => true
  | any, _ => true
  | bool, bool | string, bool => true
  | number, number | string, number => true
  | bool, string | number, string | string, string => true
  | list a, list b | set a, list b | list a, set b | set a, set b | map a, map b =>
    convertibleWith unifies a b
  | tuple as, list any | tuple as, set any => as.isEmpty || unifies as
  | tuple as, list b | tuple as, set b => as.all fun a => convertibleWith unifies a b
  | object as, map any => as.isEmpty || unifies (as.map (·.2))
  | object as, map b => as.all fun (_, a) => convertibleWith unifies a b
  | tuple as, tuple bs => convertibleAll unifies as bs
  | object as, object bs => convertibleAttrs unifies as bs
  | map a, object bs => convertibleFrom unifies a bs
  | _, _ => false
/-- Whether there are conversions for all parts of a tuple. -/
def convertibleAll (unifies : List Shape → Bool) : (sources targets : List Shape) → Bool
  | [], [] => true
  | a :: as, b :: bs => convertibleWith unifies a b && convertibleAll unifies as bs
  | _, _ => false
/-- Whether there are conversions for all attributes asked for. -/
def convertibleAttrs (unifies : List Shape → Bool) (sources : List (Bytes × Shape)) :
    (targets : List (Bytes × Shape)) → Bool
  | [] => true
  | (k, b) :: bs =>
    (match sources.lookup k with
    | some a => convertibleWith unifies a b
    | none => false) && convertibleAttrs unifies sources bs
/-- Whether there are conversions from one shape to all attributes asked for. -/
def convertibleFrom (unifies : List Shape → Bool) (source : Shape) :
    (targets : List (Bytes × Shape)) → Bool
  | [] => true
  | (_, b) :: bs => convertibleWith unifies source b && convertibleFrom unifies source bs
end

/-! ### Kinds -/

/-- The shapes of the elements of a sequence. -/
def elems : Shape → List Shape
  | list s | set s => [s]
  | tuple ss => ss
  | _ => []

/-- The shapes of the values of a keyed collection. -/
def values : Shape → List Shape
  | map s => [s]
  | object as => as.map (·.2)
  | _ => []

def isList : Shape → Bool
  | list _ => true
  | _ => false

def isSet : Shape → Bool
  | set _ => true
  | _ => false

def isMap : Shape → Bool
  | map _ => true
  | _ => false

def isTuple : Shape → Bool
  | tuple _ => true
  | _ => false

def isObject : Shape → Bool
  | object _ => true
  | _ => false

/-- The keys of an object. -/
def keys : Shape → List Bytes
  | object as => as.map (·.1)
  | _ => []

/-- The shape of an attribute. -/
def attr? (k : Bytes) : Shape → Option Shape
  | object as => as.lookup k
  | _ => none

/-! ### Preference -/

/-- The one of two orders that some parts have and no part contradicts. -/
def agree (os : List Ordering) : Ordering :=
  match os.contains .lt, os.contains .gt with
  | true, false => .lt
  | false, true => .gt
  | _, _ => .eq

mutual
/-- The order in which two shapes are tried as the shape of both; `eq` is no order. Texts can
express more than numbers and truth values, and collections of one shape more than those with a
shape for each part. -/
def preference : Shape → Shape → Ordering
  | any, any => .eq
  | any, _ => .gt
  | _, any => .lt
  | string, bool | string, number => .lt
  | bool, string | number, string => .gt
  | list a, list b | set a, set b | map a, map b => preference a b
  | list _, tuple _ | list _, set _ | set _, tuple _ | map _, object _ => .lt
  | tuple _, list _ | set _, list _ | tuple _, set _ | object _, map _ => .gt
  | tuple as, tuple bs => if as.length = bs.length then agree (preferences as bs) else .eq
  | object as, object bs =>
    if as.map (·.1) = bs.map (·.1) then agree (attrPreferences as bs) else .eq
  | _, _ => .eq
/-- The order of the parts of two tuples. -/
def preferences : List Shape → List Shape → List Ordering
  | a :: as, b :: bs => preference a b :: preferences as bs
  | _, _ => []
/-- The order of the attributes of two objects with the same keys. -/
def attrPreferences : List (Bytes × Shape) → List (Bytes × Shape) → List Ordering
  | (_, a) :: as, (_, b) :: bs => preference a b :: attrPreferences as bs
  | _, _ => []
end

/-- The positions of shapes in the order in which they are tried, those in `queue` first. A position
joins the queue when the last one that comes before it has been `taken`. -/
def positionsFrom (ss : List Shape) : (fuel : Nat) → (taken queue : List Nat) → List Nat
  | 0, _, _ => []
  | _, _, [] => []
  | fuel + 1, taken, i :: queue =>
    let before (i j : Nat) : Bool := match ss[i]?, ss[j]? with
      | some s, some t => preference s t = .lt
      | _, _ => false
    let all := List.range ss.length
    let taken := i :: taken
    let ready := all.filter fun j => before i j && all.all fun k => !before k j || taken.contains k
    i :: positionsFrom ss fuel taken (queue ++ ready)

/-- The shapes in the order in which they are tried. -/
def byPreference (ss : List Shape) : List Shape :=
  let all := List.range ss.length
  let free := all.filter fun j => match ss[j]? with
    | some t => ss.all fun s => preference s t ≠ .lt
    | none => false
  (positionsFrom ss ss.length [] free).filterMap (ss[·]?)

/-! ### Unification -/

/-- The first shape, in the order of preference, that all of them have a conversion to. -/
def preferred? (can : Shape → Shape → Bool) (ss : List Shape) : Option Shape :=
  (byPreference ss).find? fun t => ss.all (can · t)

/-- The shapes of all elements of shapes. -/
def allElems (ss : List Shape) : List Shape := ss.flatMap fun s => s.elems ++ s.values

/-- Whether shapes have the same parts: the same keys, or the same number of elements. -/
def sameParts : List Shape → Bool
  | [] => true
  | s :: ss => ss.all fun t => t.keys = s.keys && t.elems.length = s.elems.length

/-- The shape that shapes, at least one, are all brought into: a common one for each part where they
have the same parts, and a list or a map of a common shape where they do not. Collections next to
shapes of which nothing is known can be anything. At most `fuel` nested steps are taken. -/
def unifyWith : (fuel : Nat) → List Shape → Option Shape
  | 0, _ => none
  | fuel + 1, ss =>
    let can (s t : Shape) : Bool := convertibleWith (fun ss => (unifyWith fuel ss).isSome) s t
    let collection (make : Shape → Shape) (ss : List Shape) : Option Shape := do
      let t := make (← unifyWith fuel (allElems ss))
      if ss.all (can · t) then some t else none
    let gathered (isKind isResult : Shape → Bool) (make : Shape → Shape) : Option Shape := do
      let t ← collection make (ss.filter isKind)
      (unifyWith fuel (ss.map fun s => if isKind s then t else s)).filter isResult
    let known := ss.filter (· ≠ any)
    if known.isEmpty then preferred? can ss
    else if known.all isMap || known.all isList || known.all isSet || known.all isObject
        || known.all isTuple then
      if ss.contains any then some any
      else match ss.headD any with
        | map _ => collection map ss
        | list _ => collection list ss
        | set _ => collection set ss
        | object as =>
          if sameParts ss then do
            let t := object (← (as.map (·.1)).mapM fun k => do
              return (k, ← unifyWith fuel (ss.filterMap (attr? k))))
            if ss.all (can · t) then some t else collection map ss
          else collection map ss
        | tuple ps =>
          if sameParts ss then do
            let t := tuple (← (List.range ps.length).mapM fun i =>
              unifyWith fuel (ss.filterMap (·.elems[i]?)))
            if ss.all (can · t) then some t else collection list ss
          else collection list ss
        | _ => none
    else if known.all fun s => s.isMap || s.isObject then
      (gathered isObject isMap map).or (preferred? can ss)
    else if known.all fun s => s.isList || s.isTuple then
      (gathered isTuple isList list).or (preferred? can ss)
    else if known.any isObject && known.any isTuple then none
    else preferred? can ss

mutual
/-- How deep the parts of a shape go. -/
def depth : Shape → Nat
  | list s | set s | map s => s.depth + 1
  | tuple ss => depthAll ss + 1
  | object as => depthAttrs as + 1
  | _ => 1
/-- How deep the parts of shapes go. -/
def depthAll : List Shape → Nat
  | [] => 0
  | s :: ss => max s.depth (depthAll ss)
/-- How deep the parts of attributes go. -/
def depthAttrs : List (Bytes × Shape) → Nat
  | [] => 0
  | (_, s) :: as => max s.depth (depthAttrs as)
end

/-- The shape that shapes are all brought into. Every level of depth takes two steps at most. -/
def unify (ss : List Shape) : Option Shape := unifyWith (2 * depthAll ss + 2) ss

/-- Whether there is a conversion from one shape to another. -/
def convertible (source target : Shape) : Bool :=
  convertibleWith (fun ss => (unify ss).isSome) source target

mutual
/-- The target of a conversion with the shapes of the source where the target has `any`. -/
def settled : (source target : Shape) → Shape
  | any, t => t
  | s, any => s
  | list a, list b | set a, list b => list (settled a b)
  | list a, set b | set a, set b => set (settled a b)
  | map a, map b => map (settled a b)
  | tuple as, list b => list (settled ((unify as).getD any) b)
  | tuple as, set b => set (settled ((unify as).getD any) b)
  | object as, map b => map (settled ((unify (as.map (·.2))).getD any) b)
  | tuple as, tuple bs => tuple (settledAll as bs)
  | object as, object bs => object (settledAttrs as bs)
  | map a, object bs => object (settledFrom a bs)
  | _, t => t
/-- The parts of a tuple with the shapes of the source. -/
def settledAll : (sources targets : List Shape) → List Shape
  | a :: as, b :: bs => settled a b :: settledAll as bs
  | _, bs => bs
/-- The attributes of an object with the shapes of the source. -/
def settledAttrs (sources : List (Bytes × Shape)) :
    (targets : List (Bytes × Shape)) → List (Bytes × Shape)
  | [] => []
  | (k, b) :: bs => (k, settled ((sources.lookup k).getD any) b) :: settledAttrs sources bs
/-- The attributes of an object with the shape of the values of the source. -/
def settledFrom (source : Shape) : (targets : List (Bytes × Shape)) → List (Bytes × Shape)
  | [] => []
  | (k, b) :: bs => (k, settled source b) :: settledFrom source bs
end

/-! ### Description -/

/-- What a shape is called. -/
def describe : Shape → String
  | any => "dynamic"
  | bool => "bool"
  | number => "number"
  | string => "string"
  | list s => "list of " ++ s.describe
  | set s => "set of " ++ s.describe
  | map s => "map of " ++ s.describe
  | tuple _ => "tuple"
  | object _ => "object"

end Tacit.Shape
