import Tacit.Datum.OfValue
import Tacit.Dump.Layout
import Tacit.Program.Expr
import Tacit.Value.Convert
import Tacit.Value.Show

/-!
# Dumps of programs

A dump lists the inputs, the temporaries and the operations of a program, one line each: an
assignment as `name = expression` and any other operation as the bare expression. Constants are in
literal notation where it can express them, and quoted otherwise.
-/

namespace Tacit.Dump

/-- A call. -/
def callTokens (name : String) (operands : List (List Token)) : List Token :=
  .name name :: .openParen :: commaSeparated operands ++ [.closeParen]

/-- Whether the number is finite; other values are. -/
def isFinite : Data → Bool
  | .float64 bits => (Number.double.decode bits.toNat).isFinite
  | .float32 bits => (Number.single.decode bits.toNat).isFinite
  | _ => true

/-- The value of a constant that there is something to show of: what is in it, if it is an interface
and not empty, and not a nil. -/
def shownContent? (v : Option Value) : Option Value :=
  (v.bind Value.content).filter fun v => !(v.data = .nil && v.type ≠ .basic .unsafePointer)

theorem shownContent?_of_ne_nil {v u : Value} (hv : v.content = some u) (hu : u.data ≠ .nil) :
    shownContent? (some v) = some u := by
  simp [shownContent?, hv, hu, Option.filter]

variable [Declarations]

/-- The text of a value, quoted. -/
def shownTokens (v : Value) (s : Store) : Except Panic (List Token) :=
  (v.show s).map fun text => textTokens (Text.compose text)

/-- The tokens of a datum. Nothing can be written for what is not known. -/
def literalTokens (d : Datum) : Except Panic (List Token) :=
  if d.isKnown then .ok (datumTokens d) else .error .unknownDatum

/-- The tokens of a value that is there. Whether literal notation can express it is found by its
type, which does not end for some. -/
def valueTokens (v : Value) (s : Store) : Except Panic (List Token) :=
  if !isFinite v.data then shownTokens v s
  else if v.type.isEndless then .error .endless
  else match v.datum? s with
    | some d => literalTokens d
    | none => shownTokens v s

/-- A constant. One that there is nothing to show of is null. -/
def constTokens (v : Option Value) (s : Store) : Except Panic (List Token) :=
  match shownContent? v with
  | none => .ok [.name "null"]
  | some v => valueTokens v s

mutual
/-- The tokens of a node. -/
def exprTokens (s : Store) : Expr → Except Panic (List Token)
  | .const v => constTokens v s
  | .sealed v =>
    if (shownContent? (some v)).isSome then .error .sealedContent else constTokens none s
  | .param p | .temp p => .ok [.name p.name]
  | .convert x target => do
    let inner ← exprTokens s x
    match target with
    | some t => return callTokens "convert" [inner, textTokens (Text.compose (.ofString t.text))]
    | none => throw .nilDereference
  | .invoke name _ operands => do return callTokens name (← operandTokens s operands)
  | .assign dst src => do return callTokens "assign" [[.name dst.name], ← exprTokens s src]
  | e => .ok (textTokens (.ofString e.kind))
/-- The tokens of operands. -/
def operandTokens (s : Store) : List Expr → Except Panic (List (List Token))
  | [] => .ok []
  | e :: es => do
    let ts ← exprTokens s e
    return ts :: (← operandTokens s es)
end

/-- A line of a dump: an assignment to a name, or an expression. -/
inductive Entry where
  | assignment (name : String) (value : List Token)
  | operation (tokens : List Token)

/-- Adds an assignment. If there is one to the same name already, it takes over its value. -/
def setAssignment (name : String) (value : List Token) : List Entry → List Entry
  | [] => [.assignment name value]
  | .assignment n v :: es =>
    if n = name then .assignment n value :: es
    else .assignment n v :: setAssignment name value es
  | e :: es => e :: setAssignment name value es

/-- A list of names. -/
def nameList (slots : List Slot) : List Token :=
  .openBracket :: commaSeparated (slots.map fun s => [.name s.name]) ++ [.closeBracket]

/-- Adds the operations to the lines so far. -/
def addOperations (s : Store) (es : List Entry) : List Expr → Except Panic (List Entry)
  | [] => .ok es
  | .assign dst src :: ops => do
    addOperations s (setAssignment dst.name (← exprTokens s src) es) ops
  | op :: ops => do addOperations s (es ++ [.operation (← exprTokens s op)]) ops

/-- The tokens of a line. -/
def Entry.tokens : Entry → List Token
  | .assignment name value => .name name :: .equal :: value ++ [.newline]
  | .operation tokens => tokens ++ [.newline]

/-- The lines of a program. A program without a body has its inputs only. -/
def programEntries (s : Store) (l : Lambda) : Except Panic (List Entry) :=
  let start := setAssignment "params" (nameList l.params) []
  match l.body with
  | none => .ok start
  | some body =>
    addOperations s (setAssignment "locals" (nameList body.temps) start) body.ops

/-- The dump of a program. -/
def program (s : Store) (l : Lambda) : Except Panic String := do
  return render (layout ((← programEntries s l).flatMap Entry.tokens))

/-- The text of a single node. -/
def expression (s : Store) (e : Expr) : Except Panic String := do
  return render (layout (← exprTokens s e))

end Tacit.Dump
