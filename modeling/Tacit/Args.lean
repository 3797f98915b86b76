import Tacit.Datum.ToValue
import Tacit.Formula.Eval
import Tacit.Formula.Parser

/-!
# Program arguments

The arguments of a program are written as one formula, a sequence with an element for each
parameter. `Args.decode` brings every element into the shape that expresses the parameter's type,
where there is one, and then into a value of exactly that type.
-/

namespace Tacit

/-- Why a text is no arguments for a program. -/
inductive ArgsError where
  /-- The text is no formula, or its value is not in order. -/
  | formula
  /-- The value is no sequence. -/
  | notSequence (s : Shape)
  | count (wanted given : Nat)
  /-- There is no end to finding the shape of a parameter's type. -/
  | endless
  | conversion (e : ConvertError)
  /-- The element at a position does not fit. -/
  | input (i : Nat) (m : Misfit)

/-- What unusable arguments are reported as. -/
def ArgsError.message (e : ArgsError) : String :=
  "invalid program arguments: " ++ match e with
    | formula => "<diagnostics>"
    | notSequence s => "expected a list like [1, 2], got " ++ s.describe
    | count wanted given =>
      "program takes " ++ Text.decimal wanted ++ " inputs, got " ++ Text.decimal given
    | endless => Panic.endless.explain
    | conversion e => e.message
    | input i m => "input " ++ Text.decimal i ++ ": " ++ m.message

/-- The panic that decoding the arguments breaks off with, where it gives no error. -/
def ArgsError.panic? : ArgsError → Option Panic
  | endless => some .endless
  | input _ m => m.panic?
  | _ => none

variable [Declarations]

namespace Args

/-- The sequence that a text is. A blank text is the empty sequence. -/
def formula? (s : Bytes) : Option Formula :=
  if Text.isBlankText s then some (.tuple [])
  else Formula.ofText? s

/-- The elements of a sequence, if the datum is a known one. -/
def sequence? (d : Datum) : Option (List Datum) :=
  match d with
  | .tuple ds | .list _ ds => if d.isKnown then some ds else none
  | _ => none

/-- The shape that an argument for a parameter is brought into. -/
def wantedShape (t : Ty) : Shape := t.shape?.getD .any

/-- The elements in the shapes that express the types. -/
def convert (d : Datum) (types : List Ty) : Except ArgsError (List Datum) :=
  match d.convert (.tuple (types.map wantedShape)) with
  | .ok (.tuple ds) => .ok ds
  | .ok _ => .ok []
  | .error e => .error (.conversion e)

/-- Values of the types, one for each datum; `i` is the position of the first. -/
def assignAll : (i : Nat) → List Datum → List Ty → Store → Except ArgsError (List Value × Store)
  | i, d :: ds, t :: ts, s => do
    let (x, s) ← (d.assign t s).mapError (.input i)
    let (vs, s) ← assignAll (i + 1) ds ts s
    return (⟨t, x⟩ :: vs, s)
  | _, _, _, s => .ok ([], s)

/-- The values, one for each type, that a text stands for, and the store with what they refer to. -/
def decode (text : Bytes) (types : List Ty) (s : Store) :
    Except ArgsError (List Value × Store) := do
  let some d := (formula? text).bind Formula.value? | throw .formula
  let some ds := sequence? d | throw (.notSequence d.shape)
  if ds.length = types.length then
    if types.any Ty.isEndless then throw .endless
    else assignAll 0 (← convert d types) types s
  else throw (.count types.length ds.length)

end Args

end Tacit
