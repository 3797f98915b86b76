import Tacit.Declarations
import Tacit.Program.Error
import Tacit.Text.Identifier

/-!
# Words

A word is a func that can be applied to the operand stack: it is not nil, not variadic and has at
most one result. Its name is an identifier, given with it or derived from its symbol.
-/

namespace Tacit

/-- A func that can be applied, with its signature. -/
structure Word where
  name : String
  fn : Value
  params : List Ty
  /-- Nothing for a word that is applied for its effect. -/
  result : Option Ty
deriving DecidableEq

/-! ### Names -/

/-- What follows the last occurrence of a byte, or everything. -/
def afterLast (b : UInt8) (s : Bytes) : Bytes := (s.reverse.takeWhile (· ≠ b)).reverse

/-- What follows the first occurrence of a byte, or everything. -/
def afterFirst (b : UInt8) (s : Bytes) : Bytes :=
  match s.dropWhile (· ≠ b) with
  | [] => s
  | _ :: rest => rest

/-- Letters, digits and underscores of ASCII. -/
def isWordChar (c : Char) : Bool := c.isAlphanum || c = '_'

/-- The name that a symbol suggests: the part after its path and package, with an underscore for
every character that cannot be in a name. -/
def nameOfSymbol (symbol : Bytes) : String :=
  let short := afterFirst 46 (afterLast 47 symbol)
  let plain := short.runes.map fun r => if isWordChar r.toChar then r.toChar else '_'
  match plain.dropWhile (· = '_') with
  | [] => "word_"
  | c :: cs => if c.isDigit then "word_" ++ String.ofList (c :: cs) else String.ofList (c :: cs)

/-- The name of a func that is given none. One that has no symbol either is just a word. -/
def symbolName : (symbol : Option Bytes) → String
  | some symbol => nameOfSymbol symbol
  | none => "word"

variable [Declarations]

namespace Word

/-- The word of a func value. An empty name is derived from the func's symbol. -/
def named (host : Host) (name : Bytes) (fn : Option Value) : Except OperatorFault Word :=
  match fn with
  | none => .error (.nil none)
  | some fn =>
    match fn.type.func?, fn.data with
    | none, _ => .error (.notFunc fn.type)
    | some (params, results, variadic), .func code _ =>
      if variadic then .error (.variadic fn.type)
      else if 1 < results.length then .error (.results fn.type results.length)
      else if name.isEmpty then
        .ok ⟨symbolName (host.symbol code), fn, params, results.head?⟩
      else if Text.isIdentifier name then .ok ⟨name.toText, fn, params, results.head?⟩
      else .error (.name name)
    | some _, _ => .error (.nil (some fn.type))

/-- The number of operands a word takes. -/
def arity (w : Word) : Nat := w.params.length

/-- Whether a word yields a value. -/
def producing (w : Word) : Bool := w.result.isSome

/-- A word with its signature. -/
def text (w : Word) : String :=
  w.name ++ "(" ++ String.intercalate ", " (w.params.map Ty.text) ++ ")" ++
    match w.result with
    | some t => " " ++ t.text
    | none => ""

end Word

end Tacit
