import Tacit.Datum.Convert
import Tacit.Formula.Basic
import Tacit.Text.Normal

/-!
# The value of a formula

A formula always has a value; where something is wrong the value is unknown as far as it has to be,
and the outcome says so. An outcome that is in order can come from parts that are not: only the
chosen alternative of a conditional counts, and only the deciding operand of a logical operator.
-/

namespace Tacit

namespace Datum

mutual
/-- Whether two data are equal. Nulls are equal whatever their shape is; other data are not unless
they have the same shape. -/
def equals : Datum → Datum → Bool
  | null _, null _ => true
  | bool a, bool b => a = b
  | number m, number n => m.equal n
  | string a, string b => a = b
  | list s as, list t bs | set s as, set t bs => s = t && equalsAll as bs
  | map s as, map t bs => s = t && equalsEntries as bs
  | tuple as, tuple bs => shapes as = shapes bs && equalsAll as bs
  | object as, object bs => attrShapes as = attrShapes bs && equalsEntries as bs
  | _, _ => false
/-- Whether two lists hold equal data. -/
def equalsAll : List Datum → List Datum → Bool
  | [], [] => true
  | a :: as, b :: bs => equals a b && equalsAll as bs
  | _, _ => false
/-- Whether two lists hold the same keys with equal data. -/
def equalsEntries : List (Bytes × Datum) → List (Bytes × Datum) → Bool
  | [], [] => true
  | (k, a) :: as, (l, b) :: bs => k = l && equals a b && equalsEntries as bs
  | _, _ => false
end

/-- The elements of a collection, each with its key. -/
def elements? : Datum → Option (List (Datum × Datum))
  | list _ ds | tuple ds => some (ds.mapIdx fun i d => (number (.ofInt i), d))
  | set _ ds => some (ds.map fun d => (d, d))
  | map _ es | object es => some (es.map fun (k, d) => (string k, d))
  | _ => none

end Datum

/-- Whether data of the shape have elements. -/
def Shape.hasElements : Shape → Bool
  | .list _ | .set _ | .map _ | .tuple _ | .object _ => true
  | _ => false

namespace Formula

open Number (Big)

/-- The value of a formula, and whether all was in order. -/
structure Outcome where
  value : Datum
  valid : Bool

namespace Outcome

/-- A value that is in order. -/
def ok (d : Datum) : Outcome := ⟨d, true⟩

/-- Something is wrong, and nothing is known of the value but its shape. -/
def fail (s : Shape) : Outcome := ⟨.unknown s, false⟩

/-- The outcome of a step after others; `valid` says whether those were in order. -/
def after (valid : Bool) (o : Outcome) : Outcome := ⟨o.value, valid && o.valid⟩

end Outcome

/-- What names stand for, those of comprehensions and the element of a splat. -/
structure Scope where
  names : List (String × Datum)
  /-- No name stands for anything until a comprehension gives the next one a value. -/
  blocked : Bool
  element : Datum

namespace Scope

/-- No names. -/
def empty : Scope := ⟨[], false, .unknown .any⟩

/-- The scope with the names of a comprehension. -/
def bind (σ : Scope) (key : Option String) (item : String) (k d : Datum) : Scope :=
  { σ with names := (item, d) :: (key.toList.map (·, k) ++ σ.names), blocked := false }

/-- What a name stands for. -/
def lookup (σ : Scope) (s : String) : Option Datum := if σ.blocked then none else σ.names.lookup s

end Scope

/-! ### Operators -/

/-- Brings the operand of an operator into a shape, and goes on if it is there. A null has no
result. -/
def withOperand (target result : Shape) (x : Datum) (f : Datum → Outcome) : Outcome :=
  match x.convert target with
  | .ok x => if x.isNull then .fail result else if x.isKnown then f x else .ok (.unknown result)
  | .error _ => .fail result

/-- An operator before its operand. -/
def applyUnary (op : UnaryOp) (x : Datum) : Outcome :=
  match op with
  | .negate => withOperand .number .number x fun
    | .number n => .ok (.number n.neg)
    | _ => .fail .number
  | .not => withOperand .bool .bool x fun
    | .bool b => .ok (.bool !b)
    | _ => .fail .bool

/-- A computation with two numbers; nothing is no result. -/
def withNumbers (result : Shape) (f : Big → Big → Option Datum) (x y : Datum) : Outcome :=
  match x.convert .number, y.convert .number with
  | .ok (.number m), .ok (.number n) =>
    match f m n with
    | some d => .ok d
    | none => .fail result
  | .ok x, .ok y => if x.isNull || y.isNull then .fail result else .ok (.unknown result)
  | _, _ => .fail result

/-- Arithmetic. -/
def arithmetic (f : Big → Big → Option Big) : Datum → Datum → Outcome :=
  withNumbers .number fun m n => (f m n).map .number

/-- A comparison of numbers. -/
def comparison (f : Ordering → Bool) : Datum → Datum → Outcome :=
  withNumbers .bool fun m n => some (.bool (f (m.compare n)))

/-- Whether two data are equal, or differ, if that is known. -/
def equality (equal : Bool) (x y : Datum) : Outcome :=
  if x.isKnown && y.isKnown then .ok (.bool (x.equals y = equal)) else .ok (.unknown .bool)

/-- Whether a truth value is known and true. -/
def isTrue : Datum → Bool
  | .bool b => b
  | _ => false

/-- A logical operator, which is `decisive` as soon as one operand is. Only the operand that decides
has to be in order; next to one that does not decide it is the unknown one. A null decides where
false does. -/
def logic (decisive : Bool) (x y : Outcome) : Outcome :=
  match x.value.convert .bool, y.value.convert .bool with
  | .ok a, .ok b =>
    let decides (d : Datum) : Bool := d.isKnown && isTrue d = decisive
    if !a.isKnown && !b.isKnown then ⟨.unknown .bool, x.valid && y.valid⟩
    else if decides a then ⟨.bool decisive, x.valid⟩
    else if decides b then ⟨.bool decisive, y.valid⟩
    else if !a.isKnown then ⟨.unknown .bool, x.valid⟩
    else if !b.isKnown then ⟨.unknown .bool, y.valid⟩
    else if a.isNull || b.isNull then .fail .bool
    else ⟨.bool !decisive, x.valid && y.valid⟩
  | _, _ => .fail .bool

/-- An operator between its operands. -/
def applyBinary (op : BinaryOp) (x y : Outcome) : Outcome :=
  let both (f : Datum → Datum → Outcome) : Outcome :=
    (f x.value y.value).after (x.valid && y.valid)
  match op with
  | .or => logic true x y
  | .and => logic false x y
  | .equal => both (equality true)
  | .notEqual => both (equality false)
  | .greater => both (comparison (· = .gt))
  | .greaterEqual => both (comparison (· ≠ .lt))
  | .less => both (comparison (· = .lt))
  | .lessEqual => both (comparison (· ≠ .gt))
  | .add => both (arithmetic Big.add?)
  | .subtract => both (arithmetic Big.sub?)
  | .multiply => both (arithmetic Big.mul?)
  | .divide => both (arithmetic Big.div?)
  | .remainder => both (arithmetic Big.rem?)

/-- An alternative of a conditional in the shape of both. -/
def chosen (o : Outcome) (s : Shape) : Outcome :=
  match o.value.convert s with
  | .ok d => ⟨d, o.valid⟩
  | .error _ => .fail s

/-- The shape that both alternatives of a conditional are brought into. A bare null takes the shape
of the other; where nothing is known of one, both stay what they are. -/
def armShape? : Datum → Datum → Option Shape
  | .null .any, y => some y.shape
  | x, .null .any => some x.shape
  | x, y =>
    if x.shape = .any || y.shape = .any then some .any else Shape.unify [x.shape, y.shape]

/-- A conditional. Both alternatives have to agree on a shape; only the chosen one has to be in
order. -/
def conditionalOf (c t f : Outcome) : Outcome :=
  match armShape? t.value f.value with
  | none => .fail .any
  | some s =>
    match c.value with
    | .null _ => .fail s
    | .unknown _ => ⟨.unknown s, c.valid⟩
    | d =>
      match d.convert .bool with
      | .ok d => (chosen (if isTrue d then t else f) s).after c.valid
      | .error _ => .fail s

/-! ### Parts -/

/-- The position that a number is in a sequence. -/
def position? (n : Big) : Option Nat :=
  match n.toInt? with
  | some (.ofNat i) => some i
  | _ => none

/-- A part that is there. -/
def found (d : Option Datum) : Outcome :=
  match d with
  | some d => .ok d
  | none => .fail .any

/-- What a key selects. The key is brought into the shape `target`; if it is not known, the part is
of shape `elem`. -/
def select (target elem : Shape) (key : Datum) (part : Datum → Outcome) : Outcome :=
  match key.convert target with
  | .ok (.unknown _) => .ok (.unknown elem)
  | .ok k => part k
  | .error _ => .fail .any

/-- The element of a sequence at a position. -/
def elementAt {α : Type} (xs : List α) : Datum → Option α
  | .number n => (position? n).bind (xs[·]?)
  | _ => none

/-- The entry with a key. -/
def entryAt {α : Type} (es : List (Bytes × α)) : Datum → Option α
  | .string k => es.lookup k
  | _ => none

/-- The element of a collection that a key selects. -/
def indexOf (x key : Datum) : Outcome :=
  if x.isNull || key.isNull then .fail .any
  else if x.shape = .any || key.shape = .any then .ok (.unknown .any)
  else match x with
    | .list s ds => select .number s key fun k => found (elementAt ds k)
    | .tuple ds => select .number .any key fun k => found (elementAt ds k)
    | .map s es => select .string s key fun k => found (entryAt es k)
    | .object es => select .string .any key fun k => found (entryAt es k)
    | .unknown (.list s) => select .number s key fun _ => .ok (.unknown s)
    | .unknown (.tuple ss) =>
      select .number .any key fun k => found ((elementAt ss k).map .unknown)
    | .unknown (.map s) => select .string s key fun _ => .ok (.unknown s)
    | .unknown (.object as) =>
      select .string .any key fun k => found ((entryAt as k).map .unknown)
    | _ => .fail .any

/-- The attribute with a name. -/
def attributeOf (x : Datum) (name : String) : Outcome :=
  let k := Text.compose (.ofString name)
  match x with
  | .map _ es | .object es => found (es.lookup k)
  | .unknown .any => .ok (.unknown .any)
  | .unknown (.map s) => .ok (.unknown s)
  | .unknown (.object as) => found ((as.lookup k).map .unknown)
  | _ => .fail .any

/-- The shape of what a splat makes of data of a shape, and whether all is in order; `typed` is the
formula for each element where only the element's shape is known. -/
def splatShape (typed : Shape → Outcome) : Shape → Shape × Bool
  | .list s | .set s => (.list (typed s).value.shape, (typed s).valid)
  | .tuple ss =>
    let os := ss.map typed
    (.tuple (shapes (os.map (·.value))), os.all (·.valid))
  | _ => (.any, true)

/-- A list of what a splat makes of elements. -/
def splatList (os : List Outcome) : Outcome :=
  match Datum.listOf (os.map (·.value)) with
  | .ok d => .ok d
  | .error _ => .fail .any

/-- The sequence of what a splat makes of the elements of `x`: of each by `each`, and by `typed`
where only its shape is known. A null that is no sequence has no elements, and any other value that
is none is its own only element. -/
def splatOf (x : Datum) (each : Datum → Outcome) (typed : Shape → Outcome) : Outcome :=
  let unknown (valid : Bool) (s : Shape) : Outcome :=
    let (s, inOrder) := splatShape typed s
    ⟨.unknown s, valid && inOrder⟩
  let gather (s : Shape) (ds : List Datum) (sequence : List Outcome → Outcome) : Outcome :=
    let os := ds.map each
    if os.all (·.valid) then sequence os else unknown false s
  let tupleOf (os : List Outcome) : Outcome := .ok (.tuple (os.map (·.value)))
  match x with
  | .null (.list _) | .null (.set _) | .null (.tuple _) => .fail .any
  | .null _ => .ok (.tuple [])
  | .unknown (.list s) => unknown true (.list s)
  | .unknown (.set s) => unknown true (.set s)
  | .unknown (.tuple ss) => unknown true (.tuple ss)
  | .unknown .any => .ok (.unknown .any)
  | .unknown _ => ⟨.unknown .any, (each x).valid⟩
  | .list s [] | .set s [] => ⟨.list (typed s).value.shape [], (typed s).valid⟩
  | .list s ds | .set s ds => gather (.list s) ds splatList
  | .tuple ds => gather (.tuple (shapes ds)) ds tupleOf
  | x => gather (.tuple [x.shape]) [x] tupleOf

/-! ### Collections -/

/-- A part of a text, as a text. -/
def textPart (o : Outcome) : Outcome :=
  match o.value with
  | .null _ => .fail .string
  | .unknown _ => ⟨.unknown .string, o.valid⟩
  | d =>
    match d.convert .string with
    | .ok d => ⟨d, o.valid⟩
    | .error _ => .fail .string

/-- The bytes of a text. -/
def bytes? : Datum → Option Bytes
  | .string s => some s
  | _ => none

/-- A text put together from parts. -/
def templateOf (parts : List Outcome) : Outcome :=
  let parts := parts.map textPart
  let valid := parts.all (·.valid)
  match parts.mapM (bytes? ·.value) with
  | some ss => ⟨.string (Text.compose ss.flatten), valid⟩
  | none => ⟨.unknown .string, valid⟩

/-- A text put together from the elements of a sequence. -/
def joinOf (o : Outcome) : Outcome :=
  match o.value with
  | .tuple ds => (templateOf (ds.map .ok)).after o.valid
  | _ => ⟨.unknown .string, o.valid⟩

/-- A key as a text. Where there is none, it says whether the key is in order all the same. -/
def keyText (o : Outcome) : Except Bool Bytes :=
  if o.value.isNull then .error false
  else match o.value.convert .string with
    | .ok (.string k) => .ok k
    | .ok _ => .error o.valid
    | .error _ => .error false

/-- An object of entries, of which a later one covers an earlier one with the same key. Nothing is
known of it if a key is not known. -/
def objectOf (es : List (Outcome × Outcome)) : Outcome :=
  let valid := es.all fun (k, v) => k.valid && v.valid && (keyText k matches .ok _ | .error true)
  let known := es.filterMap fun (k, v) => match keyText k with
    | .ok s => if k.valid then some (s, v.value) else none
    | .error _ => none
  if known.length = es.length then ⟨.object (sortedEntries known), valid⟩
  else ⟨.unknown .any, valid⟩

/-- Whether an element is included in a comprehension, if that is known, and whether the condition
is in order. -/
def inclusion (o : Outcome) : Option Bool × Bool :=
  if o.value.isNull then (none, false)
  else match o.value.convert .bool with
    | .ok (.bool b) => (some b, o.valid)
    | .ok _ => (none, o.valid)
    | .error _ => (none, false)

/-- A sequence of what stands for the elements that are included. Nothing is known of it if that is
not known of an element. -/
def comprehendTuple (os : List (Outcome × Outcome)) : Outcome :=
  let os := os.map fun (c, v) => (inclusion c, v)
  let chosen := os.filter fun ((b, _), _) => b = some true
  let valid := (os.all fun ((_, valid), _) => valid) && chosen.all fun (_, v) => v.valid
  if os.all fun ((b, _), _) => b.isSome then ⟨.tuple (chosen.map fun (_, v) => v.value), valid⟩
  else ⟨.unknown .any, valid⟩

/-- The entries grouped by their keys. -/
def grouped (es : List (Bytes × Datum)) : List (Bytes × Datum) :=
  sortedEntries (es.map fun (k, _) =>
    (k, .tuple ((es.filter fun (l, _) => l = k).map (·.2))))

/-- Whether no two entries have the same key. -/
def distinctKeys : List (Bytes × Datum) → Bool
  | [] => true
  | (k, _) :: es => (es.lookup k).isNone && distinctKeys es

/-- The first entry of every key. -/
def firstEntries (es : List (Bytes × Datum)) : List (Bytes × Datum) := sortedEntries es.reverse

/-- An object of what stands for the elements that are included. Unless they are grouped, two
elements cannot have the same key. -/
def comprehendObject (group : Bool) (os : List (Outcome × Outcome × Outcome)) : Outcome :=
  let os := os.map fun (c, k, v) => (inclusion c, k, v)
  let chosen := os.filter fun ((b, _), _) => b = some true
  let keyed := chosen.filterMap fun (_, k, v) => match keyText k with
    | .ok s => some (s, v)
    | .error _ => none
  let es := keyed.map fun (k, v) => (k, v.value)
  let valid := (os.all fun ((_, valid), _) => valid) && keyed.all fun (_, v) => v.valid
  let valid := valid && chosen.all fun (_, k, _) =>
    k.valid && (keyText k matches .ok _ | .error true)
  if (os.all fun ((b, _), _) => b.isSome) && keyed.length = chosen.length then
    if group then ⟨.object (grouped es), valid⟩
    else ⟨.object (firstEntries es), valid && distinctKeys es⟩
  else ⟨.unknown .any, valid⟩

/-- Goes through the elements of a collection. The condition has to be a truth value also where
nothing is known of the element. -/
def comprehend (source : Outcome) (condition : Outcome) (go : List (Datum × Datum) → Outcome) :
    Outcome :=
  match source.value with
  | .null _ => .fail .any
  | .unknown s => ⟨.unknown .any, source.valid && (s = .any || s.hasElements)⟩
  | d =>
    match d.elements? with
    | none => .fail .any
    | some es => if (inclusion condition).2 then (go es).after source.valid else .fail .any

/-! ### Evaluation -/

mutual
/-- The value of a formula. -/
def eval : Formula → Scope → Outcome
  | .literal d, _ => .ok d
  | .name s, σ =>
    match σ.lookup s with
    | some d => .ok d
    | none => .fail .any
  | .undefined, _ | .call _ _ _, _ => .fail .any
  | .element, σ => .ok σ.element
  | .parens x, σ => eval x σ
  | .template ps, σ => templateOf (evalAll ps σ)
  | .join x, σ => joinOf (eval x σ)
  | .tuple xs, σ =>
    let os := evalAll xs σ
    ⟨.tuple (os.map (·.value)), os.all (·.valid)⟩
  | .object es, σ => objectOf (evalEntries es σ)
  | .unary op x, σ =>
    let x := eval x σ
    (applyUnary op x.value).after x.valid
  | .binary op x y, σ => applyBinary op (eval x σ) (eval y σ)
  | .conditional c t f, σ => conditionalOf (eval c σ) (eval t σ) (eval f σ)
  | .attribute x s, σ =>
    let x := eval x σ
    (attributeOf x.value s).after x.valid
  | .index x k, σ =>
    let x := eval x σ
    let k := eval k σ
    (indexOf x.value k.value).after (x.valid && k.valid)
  | .splat x each, σ =>
    let x := eval x σ
    let typed (s : Shape) : Outcome :=
      eval each { σ with blocked := true, element := .unknown s }
    if x.valid then splatOf x.value (fun d => eval each { σ with element := d }) typed
    else .fail .any
  | .tupleFor key item source body condition, σ =>
    let unknown := σ.bind key item (.unknown .any) (.unknown .any)
    comprehend (eval source σ) (eval condition unknown) fun es =>
      comprehendTuple (es.map fun (k, d) =>
        let τ := σ.bind key item k d
        (eval condition τ, eval body τ))
  | .objectFor key item source label body condition group, σ =>
    let unknown := σ.bind key item (.unknown .any) (.unknown .any)
    comprehend (eval source σ) (eval condition unknown) fun es =>
      comprehendObject group (es.map fun (k, d) =>
        let τ := σ.bind key item k d
        (eval condition τ, eval label τ, eval body τ))
/-- The values of formulas. -/
def evalAll : List Formula → Scope → List Outcome
  | [], _ => []
  | x :: xs, σ => eval x σ :: evalAll xs σ
/-- The values of the keys and values of entries. -/
def evalEntries : List (Formula × Formula) → Scope → List (Outcome × Outcome)
  | [], _ => []
  | (k, x) :: es, σ => (eval k σ, eval x σ) :: evalEntries es σ
end

/-- The value of a formula without names, if it is in order. -/
def value? (x : Formula) : Option Datum :=
  let o := eval x .empty
  if o.valid then some o.value else none

end Formula

end Tacit
