import Tacit.Dump.Program
import Tacit.Log.Line
import Tacit.Log.Record
import Tacit.Program.Realize
import Tacit.Word.Basic

/-!
# The compiler

Literals are pushed and words applied; the compiler keeps a stack of the expressions whose values
nothing has used yet and turns every application into an operation. An operand that the stack lacks
becomes an input of the program. Finishing hands the program to a realizer and ends compilation.

Every call answers with the compiler after it, the records it logs and its result. What becomes of
the records is up to the logger: `Reply.logged` is the answer once it has dealt with them.
-/

namespace Tacit

open Log (Logger Record Attr)

/-- A finished program: its type and what an invocation does. -/
structure Callable where
  type : Ty
  invoke : Host → List Value → Run Unit

/-- Makes a program callable under a signature. -/
abbrev Realizer := Lambda → Option Ty → Check Callable

/-- The realizer that runs programs as routines. -/
def routineRealizer [Declarations] : Realizer := fun l sig => do
  let r ← l.realize sig
  return ⟨r.type, fun host args => r.invoke host args⟩

/-- What a compiler is set up with. -/
structure Settings where
  /-- Operands are checked when a word is applied, not only when the program is finished. -/
  eager : Bool := false
  logger : Logger := .discard
  realizer : [Declarations] → Realizer := routineRealizer

/-- A program in the making. -/
structure Compiler where
  settings : Settings
  inputs : List Slot
  temps : List Slot
  ops : List Expr
  /-- Values that no word has consumed, the last one produced first. -/
  stack : List Expr
  finished : Bool

/-- The answer to a call: the compiler after it, what is logged, and the result. -/
structure Reply (α : Type) where
  compiler : Compiler
  log : List Record
  result : Except Failure α

namespace Compiler

/-- A compiler that nothing has been done with. -/
def new (settings : Settings) : Compiler := ⟨settings, [], [], [], [], false⟩

/-- The number of values that no word has consumed. -/
def depth (c : Compiler) : Nat := c.stack.length

/-- The program so far. Values on the stack are not part of it. -/
def assemble (c : Compiler) : Lambda := ⟨c.inputs, some ⟨c.temps, c.ops⟩⟩

/-- A call that is refused. -/
def refuse {α : Type} (c : Compiler) (e : Error) : Reply α := ⟨c, [], .error (.error e)⟩

variable [Declarations]

/-! ### Literals -/

/-- Whether a nil can be of the type. -/
def nillable (t : Ty) : Bool :=
  match t.underlying with
  | .pointer _ | .interface _ | .map _ _ | .slice _ | .channel _ _ | .func _ _ _ => true
  | _ => false

/-- The constant of a value, which may be nil, under a declared type or else its own. -/
def literal (value : Option Value) (t : Option Ty) : Except LiteralFault Value :=
  match value, t with
  | none, none => .error .untypedNil
  | some v, none => .ok v
  | none, some t => if nillable t then .ok ⟨t, .nil⟩ else .error (.notNillable t)
  | some v, some t =>
    if v.type.assignable t then .ok ⟨t, v.stored t⟩ else .error (.assignment v.type t)

/-- Pushes a literal. -/
def push (c : Compiler) (value : Option Value) (t : Option Ty) : Reply Unit :=
  if c.finished then c.refuse .finished
  else match literal value t with
    | .error fault => c.refuse (.literal fault)
    | .ok v =>
      let c' := { c with stack := .const (some v) :: c.stack }
      ⟨c', c.settings.logger.log Log.debug "Literal pushed."
        [("type", .text v.type.text), ("value", .value value), ("depth", .number c'.depth)],
        .ok ()⟩

/-! ### Words -/

/-- The operands of a word, and the stack and inputs that are left. -/
structure Operands where
  operands : List Expr
  stack : List Expr
  inputs : List Slot

/-- An expression as an operand of type `t`: converted, if its type asks for it. -/
def coerce (e : Expr) (t : Ty) : Expr :=
  match e.type with
  | .ok (some s) => if s.needsConversion t then .convert e (some t) else e
  | _ => e

/-- A new input of type `t`, named for its position. -/
def newInput (inputs : List Slot) (t : Ty) : Slot :=
  ⟨inputs.length, some t, "i" ++ Nat.repr inputs.length⟩

/-- An operand for each parameter, in order: the top of the stack, or a new input once the stack is
empty. -/
def takeOperands : List Ty → (stack : List Expr) → (inputs : List Slot) → Operands
  | [], stack, inputs => ⟨[], stack, inputs⟩
  | t :: ts, e :: stack, inputs =>
    let rest := takeOperands ts stack inputs
    { rest with operands := coerce e t :: rest.operands }
  | t :: ts, [], inputs =>
    let input := newInput inputs t
    let rest := takeOperands ts [] (inputs ++ [input])
    { rest with operands := .param input :: rest.operands }

/-- Checks operands against the parameters of a word. -/
def checkOperands (name : String) : (index : Nat) → List Expr → List Ty → Check Unit
  | i, e :: es, t :: ts => do
    Check.inside (.applyOperand name i) (e.checkBind (some t))
    checkOperands name (i + 1) es ts
  | _, _, _ => pure ()

/-- The compiler once operands are taken: the stack has lost them, and the inputs that stand in for
what it lacked are declared. -/
def taken (c : Compiler) (o : Operands) : Compiler :=
  { c with stack := o.stack, inputs := o.inputs }

/-- Goes back to a stack that was saved and to the inputs that were declared then. -/
def restore (c : Compiler) (saved : List Expr) (declared : Nat) : Compiler :=
  { c with stack := saved, inputs := c.inputs.take declared }

/-- The compiler after a word is applied to operands that it has taken. -/
def extend (c : Compiler) (w : Word) (operands : List Expr) : Compiler :=
  let call := Expr.invoke w.name (.const (some w.fn)) operands
  match w.result with
  | none => { c with ops := c.ops ++ [call] }
  | some t =>
    let temp : Slot := ⟨c.temps.length, some t, "o" ++ Nat.repr c.temps.length⟩
    { c with
      stack := .temp temp :: c.stack
      ops := c.ops ++ [.assign temp call]
      temps := c.temps ++ [temp] }

/-- What is logged when a word has taken its operands, before which there were `declared` inputs,
and is applied. -/
def applyLog (c : Compiler) (w : Word) (declared : Nat) : List Record :=
  let logger := c.settings.logger
  logger.log Log.debug "Operand frame resolved."
    [("word", .text w.name), ("arity", .number w.arity),
      ("new_inputs", .number (c.inputs.length - declared)), ("depth", .number c.depth)] ++
    if w.producing then
      logger.log Log.debug "Producing word applied."
        [("word", .text w.text), ("result", .text ("o" ++ Nat.repr c.temps.length))]
    else logger.log Log.debug "Effectful word applied." [("word", .text w.text)]

/-- Applies a word. An eager compiler checks the operands when it has taken them, and has to undo
that if one of them does not pass. -/
def applyWord (c : Compiler) (w : Option Word) : Reply Unit :=
  if c.finished then c.refuse .finished
  else match w with
    | none => c.refuse (.within .apply (.operator (.nil none)))
    | some w =>
      let saved := if c.settings.eager then c.stack else []
      let declared := c.inputs.length
      let o := takeOperands w.params c.stack c.inputs
      let next := c.taken o
      match if c.settings.eager then checkOperands w.name 0 o.operands w.params else .ok () with
      | .error f => ⟨next.restore saved declared, [], .error f⟩
      | .ok () => ⟨next.extend w o.operands, next.applyLog w declared, .ok ()⟩

/-- Applies a func under the name that its symbol suggests. -/
def apply (c : Compiler) (host : Host) (fn : Option Value) : Reply Unit :=
  match Word.named host [] fn with
  | .error fault => c.refuse (.within .apply (.operator fault))
  | .ok w => c.applyWord (some w)

/-! ### Finishing -/

/-- What is logged about the program: its dump, at a level that shows it. -/
def assemblyLog (c : Compiler) (s : Store) : List Record :=
  if c.settings.logger.enabled Log.debug then
    c.settings.logger.log Log.debug "Program assembled."
      [("inputs", .number c.inputs.length), ("locals", .number c.temps.length),
        ("ops", .number c.ops.length), ("program", .made (Dump.program s c.assemble))]
  else []

/-- What is logged about values that are left on the stack. -/
def leftoverLog (c : Compiler) : List Record :=
  if c.stack.isEmpty then []
  else c.settings.logger.log Log.warn
    "Unconsumed stack values are not returned by the compiled program."
    [("count", .number c.depth)]

/-- Finishes the program under a signature. -/
def finishType (c : Compiler) (s : Store) (sig : Option Ty) : Reply Callable :=
  if c.finished then c.refuse .finished
  else
    let log := c.leftoverLog ++ c.assemblyLog s
    match Check.inside .finish (c.settings.realizer c.assemble sig) with
    | .error f => ⟨c, log, .error f⟩
    | .ok fn => ⟨{ c with finished := true }, log, .ok fn⟩

/-- The type of the func variable that a value points to. -/
def funcTarget? (target : Option Value) : Option Ty :=
  match target with
  | some ⟨.pointer t, .pointer _ _⟩ => if t.func?.isSome then some t else none
  | _ => none

/-- Finishes the program for a variable that a pointer points to; the result is what the variable
then holds. -/
def finish (c : Compiler) (s : Store) (target : Option Value) : Reply Callable :=
  if c.finished then c.refuse .finished
  else match funcTarget? target with
    | none => c.refuse (.target (target.map (·.type)))
    | some t => c.finishType s (some t)

end Compiler

/-- The answer to a call on a compiler once its logger has dealt with the records: where that breaks
off, so does the call, and nothing is done. -/
def Reply.logged [Declarations] {α : Type} (r : Reply α) (c : Compiler) (s : Store) : Reply α :=
  let lg := c.settings.logger
  match lg.write s r.log with
  | .ok _ => r
  | .error p => ⟨c, r.log.takeWhile fun x => (lg.handle s x).isOk, .error (.panic p)⟩

end Tacit
