import Tacit.Text.Basic
import Tacit.Type.Text

/-!
# Panics

Why a run, or the inspection of an ill-formed program, can break off, with the text of each cause.
-/

namespace Tacit

/-- The causes of a panic. -/
inductive Panic where
  /-- Something absent was used: a node, a type, the target of a pointer, the content of an
  interface, or a func called inside a word. -/
  | nilDereference
  | indexOutOfRange (index length : Nat)
  | divisionByZero
  | nilMapWrite
  | negativeRepeat
  /-- The length of a repeated text is no number. -/
  | repeatOverflow
  /-- A text is longer than storage can be. -/
  | lengthOutOfRange
  /-- A method on values was called through a nil pointer. -/
  | nilReceiver (type : Declared) (method : Method)
  /-- A nil func was called. -/
  | nilCall
  /-- The type of a constant without a value was asked for. -/
  | typeOfNothing
  /-- A variable without a type was asked for. -/
  | untypedVariable
  /-- Assignability to no type was asked for. -/
  | untypedTarget
  /-- A slice is too short for the array it should become. -/
  | shortSlice (given wanted : Nat) (toPointer : Bool)
  | tooFewOperands
  | tooManyOperands
  | operandType (given wanted : Ty)
  | variadicOperandType (given wanted : Ty)
  | storedType (given wanted : Ty)
  /-- A value out of an unexported field was called or handed over to a func. -/
  | sealedCall
  /-- A value out of an unexported field was stored. -/
  | sealedStore
  /-- A value out of an unexported field was to be shown. -/
  | sealedContent
  /-- An unexported field was to be set by a method. -/
  | sealedField (setter : String)
  /-- A value was stored as a key of a map whose keys have another type. -/
  | keyType (given wanted : Ty)
  /-- An empty interface was unboxed. -/
  | emptyBox (box wanted : Ty)
  /-- An interface was unboxed whose content does not convert. -/
  | boxContent (content wanted : Ty)
  /-- A datum that is not known was to be written down. -/
  | unknownDatum
  /-- Something took more steps than there is storage for, since it does not end. -/
  | endless
  /-- A word gave up with a text of its own. -/
  | raised (text : Bytes)
deriving DecidableEq

namespace Panic

/-- The text of a cause, where it is not the word's own. -/
def explain : Panic → String
  | nilDereference => "runtime error: invalid memory address or nil pointer dereference"
  | indexOutOfRange i n =>
    "runtime error: index out of range [" ++ Nat.repr i ++ "] with length " ++ Nat.repr n
  | divisionByZero => "runtime error: integer divide by zero"
  | nilMapWrite => "assignment to entry in nil map"
  | negativeRepeat => "strings: negative Repeat count"
  | repeatOverflow => "strings: Repeat output length overflow"
  | lengthOutOfRange => "runtime error: makeslice: len out of range"
  | nilReceiver d m =>
    "value method " ++ d.text ++ "." ++ m.name ++ " called using nil *" ++ d.name ++ " pointer"
  | nilCall => "reflect.Value.Call: call of nil function"
  | typeOfNothing => "reflect: call of reflect.Value.Type on zero Value"
  | untypedVariable => "reflect: New(nil)"
  | untypedTarget => "reflect: nil type passed to Type.AssignableTo"
  | shortSlice given wanted toPointer =>
    "reflect: cannot convert slice with length " ++ Nat.repr given ++
      (if toPointer then " to pointer to array with length " else " to array with length ") ++
      Nat.repr wanted
  | tooFewOperands => "reflect: Call with too few input arguments"
  | tooManyOperands => "reflect: Call with too many input arguments"
  | operandType given wanted => "reflect: Call using " ++ given.text ++ " as type " ++ wanted.text
  | variadicOperandType given wanted =>
    "reflect: cannot use " ++ given.text ++ " as type " ++ wanted.text ++ " in Call"
  | storedType given wanted =>
    "reflect.Set: value of type " ++ given.text ++ " is not assignable to type " ++ wanted.text
  | sealedCall => "reflect: reflect.Value.Call using value obtained using unexported field"
  | sealedStore => "reflect: reflect.Value.Set using value obtained using unexported field"
  | sealedContent =>
    "reflect.Value.Interface: cannot return value obtained from unexported field or method"
  | sealedField setter =>
    "reflect: reflect.Value." ++ setter ++ " using value obtained using unexported field"
  | keyType given wanted =>
    "reflect.Value.SetMapIndex: value of type " ++ given.text ++ " is not assignable to type " ++
      wanted.text
  | emptyBox box wanted => "type mismatch: cannot convert nil " ++ box.text ++ " to " ++ wanted.text
  | boxContent content wanted =>
    "type mismatch: cannot convert " ++ content.text ++ " to " ++ wanted.text
  | unknownDatum => "cannot produce tokens for unknown value"
  | endless => "stack overflow"
  | raised _ => ""

/-- The text of a panic. -/
def text : Panic → Bytes
  | raised t => t
  | p => Bytes.ofString p.explain

/-- Whether the panic reports a failed unboxing. -/
def isTypeMismatch : Panic → Bool
  | emptyBox _ _ | boxContent _ _ => true
  | _ => false

end Panic

end Tacit
