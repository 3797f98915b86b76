import Tacit.Program.Expr
import Tacit.Value.Convert

/-!
# Routines

A routine is a program ready to run: its checks are done, inputs and temporaries are positions, and
conversions are settled as far as types alone settle them. `Routine.invoke` runs it on a host.
-/

namespace Tacit

/-- Expressions of a routine. -/
inductive Code where
  | const (value : Value)
  /-- A constant whose value was read out of an unexported field. -/
  | sealed (value : Value)
  | param (index : Nat)
  | temp (index : Nat)
  | convert (x : Code) (target : Ty)
  /-- Out of an interface of type `box`. -/
  | unbox (x : Code) (box target : Ty)
  | call (fn : Code) (operands : List Code)
deriving Inhabited

/-- Operations of a routine. -/
inductive Step where
  | assign (index : Nat) (src : Code)
  | run (fn : Code) (operands : List Code)

/-- A program that can be invoked. -/
structure Routine where
  type : Ty
  temps : List (Option Ty)
  steps : List Step

/-- The inputs and temporaries of one invocation. -/
structure Frame where
  params : List Value
  temps : List Value

variable [Declarations]

/-! ### Calls -/

/-- The operand as a parameter of type `t` holds it. -/
def bindOperand (mismatch : Ty → Ty → Panic) (v : Value) (t : Ty) : Except Panic Data :=
  if v.type.assignable t then .ok (v.stored t) else .error (mismatch v.type t)

/-- Operands for as many parameters. -/
def bindOperands : List Value → List Ty → Except Panic (List Data)
  | v :: vs, t :: ts => do
    let d ← bindOperand .operandType v t
    return d :: (← bindOperands vs ts)
  | [], _ :: _ => .error .tooFewOperands
  | _ :: _, [] => .error .tooManyOperands
  | [], [] => .ok []

/-- Operands for the parameters of a variadic func: those beyond the fixed parameters become the
slots of a new slice. -/
def bindVariadic (vs : List Value) (fixed : List Ty) (rest : Ty) : Run (List Data) := do
  if vs.length < fixed.length then Run.panic .tooFewOperands
  else
    let front ← Run.ofExcept (bindOperands (vs.take fixed.length) fixed)
    let elem := match rest with | .slice t => t | t => t
    let items ← Run.ofExcept
      ((vs.drop fixed.length).mapM (bindOperand .variadicOperandType · elem))
    let cell ← Run.allocate (.slots items)
    return front ++ [.slice cell]

/-- Calls a func on a host and gives its results their types. -/
def Value.call (host : Host) (fn : Value) (operands : List Value) : Run (List Value) := do
  match fn.type.func?, fn.data with
  | some (ps, rs, variadic), .func code captured =>
    let ds ← match variadic, ps.getLast? with
      | true, some rest => bindVariadic operands ps.dropLast rest
      | _, _ => Run.ofExcept (bindOperands operands ps)
    let results ← host.call code captured ds
    return rs.zipWith Value.mk results
  | _, _ => Run.panic .nilCall

/-- Whether what the code yields is sealed. -/
def Code.isSealed : Code → Bool
  | .sealed _ => true
  | .convert x _ | .unbox x _ _ => x.isSealed
  | _ => false

/-- The host as a call with a sealed operand finds it: no func runs. -/
def Host.closed (host : Host) : Host := { host with call := fun _ _ _ => Run.panic .sealedCall }

/-- Calls a func with operands, if it is not sealed. A sealed operand is noticed when all operands
are bound. -/
def Value.handOver (host : Host) (sealedFn sealedOperand : Bool) (fn : Value)
    (operands : List Value) : Run (List Value) :=
  if sealedFn then Run.panic .sealedCall
  else fn.call (if sealedOperand then host.closed else host) operands

/-! ### Invocations -/

mutual
/-- The value of an expression. Operands run left to right, then the func, then the call. -/
def Code.eval (host : Host) (fr : Frame) : Code → Run Value
  | .const v | .sealed v => pure v
  | .param i => Run.ofExcept (fr.params[i]?.elim (.error .nilDereference) .ok)
  | .temp i => Run.ofExcept (fr.temps[i]?.elim (.error .nilDereference) .ok)
  | .convert x target => do (← x.eval host fr).convert target
  | .unbox x box target => do (← x.eval host fr).unbox box target
  | .call fn operands => do
    let vs ← Code.evalAll host fr operands
    let f ← fn.eval host fr
    match ← f.handOver host fn.isSealed (operands.any Code.isSealed) vs with
    | v :: _ => pure v
    | [] => Run.panic .nilDereference
/-- The values of expressions, left to right. -/
def Code.evalAll (host : Host) (fr : Frame) : List Code → Run (List Value)
  | [] => pure []
  | c :: cs => do
    let v ← c.eval host fr
    return v :: (← Code.evalAll host fr cs)
end

/-- The frame after a value is stored in a temporary. -/
def Frame.store (fr : Frame) (i : Nat) (v : Value) : Except Panic Frame :=
  match fr.temps[i]? with
  | none => .error .nilDereference
  | some old =>
    if v.type.assignable old.type then
      .ok { fr with temps := fr.temps.set i ⟨old.type, v.stored old.type⟩ }
    else .error (.storedType v.type old.type)

/-- Carries one operation out. -/
def Step.exec (host : Host) (fr : Frame) : Step → Run Frame
  | .assign i src => do
    let v ← src.eval host fr
    if src.isSealed then Run.panic .sealedStore else Run.ofExcept (fr.store i v)
  | .run fn operands => do
    let vs ← Code.evalAll host fr operands
    let f ← fn.eval host fr
    let _ ← f.handOver host fn.isSealed (operands.any Code.isSealed) vs
    return fr

/-- Carries operations out, top to bottom. -/
def Step.execAll (host : Host) (fr : Frame) : List Step → Run Frame
  | [] => pure fr
  | s :: ss => do Step.execAll host (← s.exec host fr) ss

/-- A temporary before it is assigned. -/
def unsetTemp : Option Ty → Except Panic Value
  | some t => .ok (.zero t)
  | none => .error .untypedVariable

/-- Runs the routine. All temporaries start out unset. -/
def Routine.invoke (host : Host) (r : Routine) (args : List Value) : Run Unit := do
  let temps ← Run.ofExcept (r.temps.mapM unsetTemp)
  let _ ← Step.execAll host ⟨args, temps⟩ r.steps
  return ()

end Tacit
