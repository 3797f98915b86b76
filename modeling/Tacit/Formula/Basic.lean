import Tacit.Datum.Basic

/-!
# Formulas

The expressions that program arguments are written in: literals, texts with formulas filled in,
sequences and keyed collections, operators, conditionals, access to parts, and comprehensions. There
are names and calls, too: nothing but a comprehension gives a name a value, and no call has one.
-/

namespace Tacit

namespace Formula

/-- An operator before its operand. -/
inductive UnaryOp where
  | negate | not
deriving DecidableEq, Repr

/-- An operator between its operands. -/
inductive BinaryOp where
  | or | and
  | equal | notEqual
  | greater | greaterEqual | less | lessEqual
  | add | subtract
  | multiply | divide | remainder
deriving DecidableEq, Repr

end Formula

open Formula (UnaryOp BinaryOp) in
/-- A formula. -/
inductive Formula where
  | literal (d : Datum)
  | name (s : String)
  /-- What has a form but can have no value. -/
  | undefined
  /-- A formula in parentheses, or one that is all of a text. -/
  | parens (x : Formula)
  /-- A text put together from parts. -/
  | template (parts : List Formula)
  /-- A text put together from the elements of a sequence. -/
  | join (x : Formula)
  | tuple (items : List Formula)
  | object (entries : List (Formula × Formula))
  | call (name : String) (args : List Formula) (expand : Bool)
  | unary (op : UnaryOp) (x : Formula)
  | binary (op : BinaryOp) (x y : Formula)
  | conditional (condition whenTrue whenFalse : Formula)
  | attribute (x : Formula) (name : String)
  | index (x key : Formula)
  /-- The sequence of what `each` is for every element of `x`. -/
  | splat (x each : Formula)
  /-- The element in the formula for each element of a splat. -/
  | element
  /-- The sequence of what `body` is for the elements of `source` that satisfy `condition`. -/
  | tupleFor (key : Option String) (item : String) (source body condition : Formula)
  /-- The same with a key, `label`, for every element. If `group` is set, several elements can have
  one key. -/
  | objectFor (key : Option String) (item : String) (source label body condition : Formula)
      (group : Bool)
deriving Inhabited

end Tacit
