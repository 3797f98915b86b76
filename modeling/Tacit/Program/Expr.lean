import Tacit.Program.Error
import Tacit.Type.Relations
import Tacit.Value.Data

/-!
# Programs

A program takes inputs, declares temporaries and runs operations in order. Expressions refer to
inputs and temporaries by identity: two slots are the same if they have the same number and type,
whatever they are called. Nodes, types and constants may be missing, because programs can be put
together by hand; `Expr.type` and `Expr.checkBind` say what happens then.
-/

namespace Tacit

/-- An input or a temporary. -/
structure Slot where
  id : Nat
  type : Option Ty
  name : String
deriving DecidableEq

/-- Whether two slots are one. Names do not matter. -/
def Slot.is (a b : Slot) : Bool := a.id = b.id && a.type = b.type

/-- Nodes of a program. -/
inductive Expr where
  /-- No node where one should be. -/
  | missing
  /-- A constant; it may lack its value. -/
  | const (value : Option Value)
  /-- A constant whose value was read out of an unexported field. It can be looked at and converted,
  but not be stored, called or handed over to a func. -/
  | sealed (value : Value)
  | param (slot : Slot)
  | temp (slot : Slot)
  /-- A call. The name is for messages only. -/
  | invoke (name : String) (fn : Expr) (operands : List Expr)
  | assign (dst : Slot) (src : Expr)
  | convert (x : Expr) (target : Option Ty)
  | block (temps : List Slot) (ops : List Expr)
deriving Inhabited

/-- The operations of a program and the temporaries they use. -/
structure Block where
  temps : List Slot
  ops : List Expr

/-- A program: its inputs and, unless it is missing, its body. -/
structure Lambda where
  params : List Slot
  body : Option Block

/-- The types of the inputs. -/
def Lambda.paramTypes (l : Lambda) : List (Option Ty) := l.params.map (·.type)

variable [Declarations]

namespace Expr

/-- The kind of a node as messages name it. -/
def kind : Expr → String
  | missing => "<nil>"
  | const _ | sealed _ => "*ir.Const"
  | param _ => "*ir.Param"
  | temp _ => "*ir.Local"
  | invoke _ _ _ => "*ir.Invoke"
  | assign _ _ => "*ir.Assign"
  | convert _ _ => "*ir.Convert"
  | block _ _ => "*ir.Block"

/-- The type of the first result of a func of type `t`. -/
def resultType (t : Option Ty) : Option Ty :=
  match t.bind Ty.func? with
  | some (_, r :: _, _) => some r
  | _ => none

/-- The type of the value that a node yields, if it yields one. -/
def type : Expr → Except Panic (Option Ty)
  | missing => .error .nilDereference
  | const none => .error .typeOfNothing
  | const (some v) | sealed v => .ok (some v.type)
  | param s | temp s => .ok s.type
  | invoke _ fn _ => resultType <$> fn.type
  | assign dst _ => .ok dst.type
  | convert _ target => .ok target
  | block _ _ => .ok none

/-- Whether what the node yields is sealed: it is so as a constant, and conversions keep it so. -/
def isSealed : Expr → Bool
  | sealed _ => true
  | convert x _ => x.isSealed
  | _ => false

/-- The type of a node as a check. -/
def typeOf (e : Expr) : Check (Option Ty) := Check.ofPanicking e.type

/-- Whether a conversion between types, either of which may be missing, can be carried out. -/
def canConvert (a : Ty) (b : Option Ty) : Check Bool :=
  match b with
  | some b => .ok (a.canConvert b)
  | none => if a.isInterface then .ok true else .error (.panic .nilDereference)

/-- If the node is a conversion, whether its operand converts. -/
def checkConversion (e : Expr) (target : Ty) : Check Unit :=
  match e with
  | convert x _ => do
    match ← x.typeOf with
    | none => Check.fail (.mismatch (.operandConversion none target))
    | some t =>
      if t.canConvert target then pure ()
      else Check.fail (.mismatch (.operandConversion (some t) target))
  | _ => pure ()

/-- Whether what the node yields can be handed over as a value of type `target`. -/
def checkBind (e : Expr) (target : Option Ty) : Check Unit := do
  match ← e.typeOf with
  | none => Check.fail (.mismatch (.noValue target))
  | some t =>
    e.checkConversion t
    match target with
    | none => .error (.panic .untypedTarget)
    | some target =>
      if t.assignable target then pure () else Check.fail (.mismatch (.assignment t target))

end Expr

end Tacit
