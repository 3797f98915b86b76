import Tacit.Text.Printable
import Tacit.Value.Panic

/-!
# Errors

Why a word, a literal or a program is refused. Each error is a cause inside the contexts it arose
in, and `Error.message` writes both.
-/

namespace Tacit

/-- A type where one is expected; `missing` stands for none. -/
def typeText (missing : String) : Option Ty → String
  | some t => t.text
  | none => missing

/-- A type in a place that always takes one. -/
def requiredText : Option Ty → String := typeText "%!s(<nil>)"

/-- An expression does not yield a value of the type required of it. -/
inductive Mismatch where
  | noValue (required : Option Ty)
  /-- An operand that is a conversion does not convert. -/
  | operandConversion (given : Option Ty) (wanted : Ty)
  /-- A conversion inside an expression does not convert. -/
  | conversion (given : Option Ty) (wanted : Option Ty)
  | assignment (given wanted : Ty)
  | noResult (word : String)
deriving DecidableEq

/-- A program is not put together as programs are. -/
inductive Malformation where
  | noBody
  | notOperation (node : String)
  | notValue (node : String)
  | emptyConstant
  | unknownInput (name : String)
  | unknownTemporary (name : String)
  | notFunc (word : String)
  | operandCount (word : String) (wanted given : Nat)
deriving DecidableEq

/-- A signature is not that of the program. -/
inductive SignatureFault where
  | notFunc (sig : Option Ty)
  | variadic (sig : Ty)
  | inputCount (sig : Ty) (wanted given : Nat)
  | inputType (index : Nat) (sig wanted : Ty) (input : String) (given : Option Ty)
  | results (sig : Ty) (count : Nat)
deriving DecidableEq

/-- A value is no operator. -/
inductive OperatorFault where
  | nil (type : Option Ty)
  | notFunc (type : Ty)
  | variadic (type : Ty)
  | results (type : Ty) (count : Nat)
  | name (given : Bytes)
deriving DecidableEq

/-- A literal is not of its declared type. -/
inductive LiteralFault where
  | untypedNil
  | notNillable (type : Ty)
  | assignment (given wanted : Ty)
deriving DecidableEq

/-- Where an error arose. -/
inductive Context where
  | apply
  | applyOperand (word : String) (index : Nat)
  | finish
  | operation (index : Nat)
  | assign (name : String)
  | operand (word : String) (index : Nat)
deriving DecidableEq

/-- The causes of an error and the contexts around it. -/
inductive Error where
  | finished
  | literal (fault : LiteralFault)
  /-- What a finished program should be stored in cannot hold one; the type of what was given. -/
  | target (given : Option Ty)
  | signature (fault : SignatureFault)
  | malformed (fault : Malformation)
  | mismatch (fault : Mismatch)
  | operator (fault : OperatorFault)
  /-- A realizer gave up for a reason of its own. -/
  | custom (text : String)
  | within (context : Context) (cause : Error)
deriving DecidableEq

namespace Mismatch

/-- The text of a mismatch. -/
def text : Mismatch → String
  | noValue required =>
    "expression yields no value but " ++ requiredText required ++ " is required"
  | operandConversion given wanted =>
    "cannot convert " ++ typeText "nothing" given ++ " to " ++ wanted.text
  | conversion given wanted =>
    "cannot convert " ++ typeText "<nil>" given ++ " to " ++ requiredText wanted
  | assignment given wanted => given.text ++ " is not assignable to " ++ wanted.text
  | noResult word => word ++ " yields no value"

end Mismatch

namespace Malformation

/-- The text of a malformation. -/
def text : Malformation → String
  | noBody => "lambda has no body"
  | notOperation node => node ++ " is not an operation"
  | notValue node => node ++ " is not a value"
  | emptyConstant => "constant has no value"
  | unknownInput name => "input " ++ name ++ " is not a parameter of the program"
  | unknownTemporary name => "temporary " ++ name ++ " is not declared by the block"
  | notFunc word => word ++ " is not a func"
  | operandCount word wanted given =>
    word ++ " takes " ++ Nat.repr wanted ++ " operands, got " ++ Nat.repr given

end Malformation

namespace SignatureFault

/-- The text of a signature fault. -/
def text : SignatureFault → String
  | notFunc sig => typeText "<nil>" sig ++ " is not a func type"
  | variadic sig => sig.text ++ " is variadic"
  | inputCount sig wanted given =>
    sig.text ++ " takes " ++ Nat.repr wanted ++ " parameters, program has " ++ Nat.repr given ++
      " inputs"
  | inputType i sig wanted input given =>
    "parameter " ++ Nat.repr i ++ " of " ++ sig.text ++ " is " ++ wanted.text ++ ", input " ++
      input ++ " is " ++ requiredText given
  | results sig count =>
    sig.text ++ " returns " ++ Nat.repr count ++ " values, program returns none"

end SignatureFault

namespace OperatorFault

/-- The text of an operator fault. -/
def text : OperatorFault → String
  | nil none => "operator is nil"
  | nil (some t) => "operator is nil: nil " ++ t.text
  | notFunc t => "operator is not a func: got " ++ t.text
  | variadic t => "variadic operators are not supported: " ++ t.text
  | results t count =>
    "operator returns more than one value: " ++ t.text ++ " has " ++ Nat.repr count ++ " results"
  | name given => "invalid operator name: " ++ Text.quoteBytes given

end OperatorFault

namespace LiteralFault

/-- The text of a literal fault. -/
def text : LiteralFault → String
  | untypedNil => "untyped nil"
  | notNillable t => "nil is not a " ++ t.text
  | assignment given wanted => given.text ++ " is not assignable to " ++ wanted.text

end LiteralFault

/-- The text in front of an error's cause. -/
def Context.text : Context → String
  | apply => "apply"
  | applyOperand word i => "apply " ++ word ++ ": operand " ++ Nat.repr i
  | finish => "finish"
  | operation i => "operation " ++ Nat.repr i
  | assign name => "assign " ++ name
  | operand word i => word ++ " operand " ++ Nat.repr i

namespace Error

/-- The text of an error. -/
def message : Error → String
  | finished => "compiler already finished"
  | literal fault => "literal does not match its declared type: " ++ fault.text
  | target given =>
    "finish target must be a non-nil pointer to a func: got " ++ typeText "<nil>" given
  | signature fault => "signature mismatch: " ++ fault.text
  | malformed fault => "malformed program: " ++ fault.text
  | mismatch fault => "type mismatch: " ++ fault.text
  | operator fault => fault.text
  | custom text => text
  | within context cause => context.text ++ ": " ++ cause.message

/-- The cause without its contexts. -/
def cause : Error → Error
  | within _ e => e.cause
  | e => e

end Error

/-- Why a computation has no result: an error it reports or a panic that breaks it off. -/
inductive Failure where
  | error (e : Error)
  | panic (p : Panic)
deriving DecidableEq

/-- A computation that may be refused. -/
abbrev Check (α : Type) := Except Failure α

namespace Check

/-- Reports an error. -/
def fail {α : Type} (e : Error) : Check α := .error (.error e)

/-- A computation that can only panic. -/
def ofPanicking {α : Type} : Except Panic α → Check α
  | .ok a => .ok a
  | .error p => .error (.panic p)

/-- Puts a context around the error, if there is one. -/
def inside {α : Type} (context : Context) : Check α → Check α
  | .error (.error e) => .error (.error (.within context e))
  | r => r

end Check

end Tacit
