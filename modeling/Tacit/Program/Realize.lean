import Tacit.Program.Routine

/-!
# Realization

`Lambda.realize` turns a program and a signature into a routine, or says why it cannot. All checks
on types are made here, so that of a routine's conversions only those out of an interface, and those
of a slice to an array, depend on what happens at run time.
-/

namespace Tacit

variable [Declarations]

/-- Whether the signature takes exactly the inputs, in order. -/
def checkInputs (sig : Ty) : (index : Nat) → List Ty → List Slot → Check Unit
  | i, t :: ts, s :: ss =>
    if some t = s.type then checkInputs sig (i + 1) ts ss
    else Check.fail (.signature (.inputType i sig t s.name s.type))
  | _, _, _ => pure ()

/-- Whether the signature is that of the program. -/
def Lambda.checkSignature (l : Lambda) (sig : Option Ty) : Check Ty := do
  match sig, sig.bind Ty.func? with
  | some sig, some (params, results, variadic) =>
    if variadic then Check.fail (.signature (.variadic sig))
    else if params.length ≠ l.params.length then
      Check.fail (.signature (.inputCount sig params.length l.params.length))
    else
      checkInputs sig 0 params l.params
      if results.isEmpty then pure sig
      else Check.fail (.signature (.results sig results.length))
  | _, _ => Check.fail (.signature (.notFunc sig))

/-- What the nodes of a program can refer to. -/
structure Scope where
  params : List Slot
  temps : List Slot

/-- The last position of a slot in a list. -/
def lastIndex? (s : Slot) (slots : List Slot) : Option Nat :=
  (slots.reverse.findIdx? (·.is s)).map fun i => slots.length - 1 - i

/-- The position of a temporary. -/
def Scope.temp (sc : Scope) (s : Slot) : Check Nat :=
  match lastIndex? s sc.temps with
  | some i => pure i
  | none => Check.fail (.malformed (.unknownTemporary s.name))

/-- The position of an input. -/
def Scope.param (sc : Scope) (s : Slot) : Check Nat :=
  match lastIndex? s sc.params with
  | some i => pure i
  | none => Check.fail (.malformed (.unknownInput s.name))

/-- The parameters of what a call calls, which has to be a func of as many parameters as there are
operands. -/
def callParams (name : String) (fn : Expr) (count : Nat) : Check (List Ty) := do
  match ← fn.typeOf with
  | none => .error (.panic .nilDereference)
  | some t =>
    match t.func? with
    | none => Check.fail (.malformed (.notFunc name))
    | some (params, _, _) =>
      if params.length = count then pure params
      else Check.fail (.malformed (.operandCount name params.length count))

/-- The conversion of `x`, whose operand has type `given`, to type `target`. -/
def conversionCode (given target : Ty) (x : Code) : Code :=
  if given.isInterface then .unbox x given target else .convert x target

/-- The types of a conversion that can be carried out. -/
def conversionTypes (x : Expr) (target : Option Ty) : Check (Ty × Ty) := do
  match ← x.typeOf with
  | none => Check.fail (.mismatch (.conversion none target))
  | some given =>
    if ← Expr.canConvert given target then
      match target with
      | some target => pure (given, target)
      | none => .error (.panic .nilDereference)
    else Check.fail (.mismatch (.conversion (some given) target))

mutual
/-- The code of a node that has to yield a value. -/
def Expr.code (sc : Scope) : Expr → Check Code
  | .const none => Check.fail (.malformed .emptyConstant)
  | .const (some v) => pure (.const v)
  | .sealed v => pure (.sealed v)
  | .param s => return .param (← sc.param s)
  | .temp s => return .temp (← sc.temp s)
  | .convert x target => do
    let (given, target) ← conversionTypes x target
    return conversionCode given target (← x.code sc)
  | .invoke name fn operands => do
    if (← (Expr.invoke name fn operands).typeOf).isNone then
      Check.fail (.mismatch (.noResult name))
    else
      let params ← callParams name fn operands.length
      let f ← fn.code sc
      return .call f (← Expr.operandCodes sc name 0 params operands)
  | e => Check.fail (.malformed (.notValue e.kind))
/-- The codes of the operands of a call, each checked against its parameter. -/
def Expr.operandCodes (sc : Scope) (name : String) :
    (index : Nat) → List Ty → List Expr → Check (List Code)
  | i, t :: ts, e :: es => do
    Check.inside (.operand name i) (e.checkBind (some t))
    let c ← e.code sc
    return c :: (← Expr.operandCodes sc name (i + 1) ts es)
  | _, _, _ => pure []
end

/-- The operation that a node is. -/
def Expr.step (sc : Scope) : Expr → Check Step
  | .assign dst src => do
    let i ← sc.temp dst
    Check.inside (.assign dst.name) (src.checkBind dst.type)
    return .assign i (← src.code sc)
  | .invoke name fn operands => do
    let params ← callParams name fn operands.length
    let f ← fn.code sc
    return .run f (← Expr.operandCodes sc name 0 params operands)
  | e => Check.fail (.malformed (.notOperation e.kind))

/-- The operations that nodes are. -/
def Expr.steps (sc : Scope) : (index : Nat) → List Expr → Check (List Step)
  | _, [] => pure []
  | i, e :: es => do
    let s ← Check.inside (.operation i) (e.step sc)
    return s :: (← Expr.steps sc (i + 1) es)

/-- The routine of a program under a signature. -/
def Lambda.realize (l : Lambda) (sig : Option Ty) : Check Routine := do
  match l.body with
  | none => Check.fail (.malformed .noBody)
  | some body =>
    let type ← l.checkSignature sig
    let steps ← Expr.steps ⟨l.params, body.temps⟩ 0 body.ops
    return ⟨type, body.temps.map (·.type), steps⟩

/-- The same for a program that may itself be missing. -/
def realize? (l : Option Lambda) (sig : Option Ty) : Check Routine :=
  match l with
  | some l => l.realize sig
  | none => Check.fail (.malformed .noBody)

end Tacit
