import Tacit.Value.Data
import Tacit.Value.Panic

/-!
# Runs

A run starts from a store and leaves a store, the events it gave rise to, and either a result or
the panic that broke it off. Nothing a run does can take back an event. `Host` gives func codes
their meaning; everything that calls words is stated for an arbitrary host.
-/

namespace Tacit

/-- What a cell of the store holds: numbered slots, or the entries of a map in the order in which
their keys were first stored. -/
inductive Cell where
  | slots (items : List Data)
  | entries (pairs : List (Data × Data))
deriving Inhabited, DecidableEq

/-- The storage that slices, maps and pointers refer to. Cells are only ever added and changed. -/
structure Store where
  cells : List Cell
deriving Inhabited, DecidableEq

namespace Store

/-- No cells. -/
def empty : Store := ⟨[]⟩

/-- The slots of a cell. -/
def slots (s : Store) (a : Addr) : List Data :=
  match s.cells[a]? with
  | some (.slots items) => items
  | _ => []

/-- The entries of a map's cell. -/
def entries (s : Store) (a : Addr) : List (Data × Data) :=
  match s.cells[a]? with
  | some (.entries pairs) => pairs
  | _ => []

/-- What a pointer points to. -/
def target (s : Store) (a : Addr) (length : Option Nat) : Data :=
  match length with
  | none => (s.slots a).headD .nil
  | some n => .tuple ((s.slots a).take n)

end Store

/-- What can be seen of a run from outside. -/
inductive Event where
  /-- A word was called with these operands, when the store was as given. -/
  | called (word : String) (operands : List Value) (store : Store)
  /-- Text was written. -/
  | wrote (text : Bytes)

/-- What a run leaves. -/
structure Effect (α : Type) where
  events : List Event
  store : Store
  outcome : Except Panic α

/-- A run that yields an `α`, from the store it starts in. -/
def Run (α : Type) : Type := Store → Effect α

namespace Run

/-- A run that does nothing but yield a result. -/
def done {α : Type} (a : α) : Run α := fun s => ⟨[], s, .ok a⟩

/-- One run after another; a panic in the first is the end. -/
def andThen {α β : Type} (x : Run α) (f : α → Run β) : Run β := fun s =>
  let first := x s
  match first.outcome with
  | .ok a =>
    let second := f a first.store
    ⟨first.events ++ second.events, second.store, second.outcome⟩
  | .error p => ⟨first.events, first.store, .error p⟩

instance : Monad Run where
  pure := done
  bind := andThen

/-- Breaks off. -/
def panic {α : Type} (p : Panic) : Run α := fun s => ⟨[], s, .error p⟩

/-- The store as it is now. -/
def store : Run Store := fun s => ⟨[], s, .ok s⟩

/-- Lets an event be seen. -/
def emit (e : Event) : Run Unit := fun s => ⟨[e], s, .ok ()⟩

/-- The result of a computation without effects. -/
def ofExcept {α : Type} : Except Panic α → Run α
  | .ok a => done a
  | .error p => panic p

/-- A new cell at the end of the store. -/
def allocate (c : Cell) : Run Addr := fun s => ⟨[], ⟨s.cells ++ [c]⟩, .ok s.cells.length⟩

/-- Puts `c` in place of a cell. -/
def write (a : Addr) (c : Cell) : Run Unit := fun s => ⟨[], ⟨s.cells.set a c⟩, .ok ()⟩

end Run

/-- The meaning of funcs. -/
structure Host where
  /-- What a code does when it is called with what it captured and with one operand for each
  parameter. -/
  call : (code : Nat) → (captured operands : List Data) → Run (List Data)
  /-- The symbol a code is known by, if it has one. -/
  symbol : (code : Nat) → Option Bytes

end Tacit
