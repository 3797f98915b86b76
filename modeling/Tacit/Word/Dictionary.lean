import Tacit.Declarations

/-!
# Dictionaries

A dictionary lists funcs; the code of a func is its position. A dictionary gives rise to a host: a
call is first recorded, under the entry's label, and then carried out.
-/

namespace Tacit

/-- How funcs call funcs that they were given. -/
abbrev Caller := (code : Nat) → (captured operands : List Data) → Run (List Data)

/-- A func of a dictionary. -/
structure Entry where
  symbol : Bytes
  params : List Ty
  results : List Ty
  variadic : Bool := false
  /-- The name under which calls are recorded, if they are. -/
  label : Option String
  act : Caller → (captured operands : List Data) → Run (List Data)

/-- The type of an entry's func. -/
def Entry.type (e : Entry) : Ty := .func e.params e.results e.variadic

/-- Records a call with the operands as they are now. -/
def Entry.record (e : Entry) (operands : List Data) : Run Unit := do
  match e.label with
  | some name => Run.emit (.called name (e.params.zipWith Value.mk operands) (← Run.store))
  | none => pure ()

/-- Funcs by code. -/
abbrev Dictionary := List Entry

namespace Dictionary

/-- Calls a func. A func can call the funcs it was given, and those theirs, down to `depth` calls
inside one another. -/
def call (d : Dictionary) : (depth : Nat) → Caller
  | 0, _, _, _ => Run.panic .nilCall
  | depth + 1, code, captured, operands =>
    match d[code]? with
    | none => Run.panic .nilCall
    | some e => do
      e.record operands
      e.act (d.call depth) captured operands

/-- The host of a dictionary. No func of it is given one that is itself given funcs, so two calls
inside one another are all there are. -/
def host (d : Dictionary) : Host where
  call := d.call 2
  symbol code := d[code]?.map (·.symbol)

/-- The func with a code as a value. -/
def value? (d : Dictionary) (code : Nat) : Option Value :=
  d[code]?.map fun e => ⟨e.type, .func code []⟩

end Dictionary

/-! ### Made-up funcs -/

/-- A value with the storage it refers to, to be copied into a store. -/
structure Template where
  cells : List Cell
  data : Data

/-- Every address in a cell moved by `n`. -/
def Cell.shift (n : Nat) : Cell → Cell
  | .slots items => .slots (Data.shiftAll n items)
  | .entries pairs => .entries (pairs.map fun (k, v) => (k.shift n, v.shift n))

/-- A fresh copy of a template. -/
def Template.copy (t : Template) : Run Data := fun s =>
  let n := s.cells.length
  ⟨[], ⟨s.cells ++ t.cells.map (Cell.shift n)⟩, .ok (t.data.shift n)⟩

/-- What a func that is described and not written does. -/
inductive Behaviour where
  /-- Yields the zero value of every result. -/
  | zero
  /-- Yields one of its operands. -/
  | operand (index : Nat)
  /-- Yields a fresh copy of a value. -/
  | constant (value : Template)
  /-- Panics. -/
  | raise (text : Bytes)

variable [Declarations]

/-- Carries a behaviour out. -/
def Behaviour.act (b : Behaviour) (results : List Ty) (operands : List Data) : Run (List Data) :=
  match b with
  | .zero => pure (results.map Ty.zero)
  | .operand i => pure [operands[i]?.getD .nil]
  | .constant t => do return [← t.copy]
  | .raise text => Run.panic (.raised text)

/-- The entry of a func with a described behaviour. -/
def Entry.described (name : String) (params results : List Ty) (variadic : Bool) (b : Behaviour) :
    Entry where
  symbol := Bytes.ofString "reflect.makeFuncStub"
  params := params
  results := results
  variadic := variadic
  label := some name
  act := fun _ _ operands => b.act results operands

end Tacit
