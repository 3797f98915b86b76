import Tacit.Compiler.Basic
import Tacit.Word.Stock

/-!
# Demonstration programs

The programs that the command can run: one that prints a greeting and a sum of literals, and one
that prints the sum of its two inputs.
-/

namespace Tacit

open scoped Catalogue

/-- A call on the compiler after another one; an error in the first is the end. -/
def Reply.andThen {α β : Type} (r : Reply α) (next : Compiler → Reply β) : Reply β :=
  match r.result with
  | .error f => ⟨r.compiler, r.log, .error f⟩
  | .ok _ =>
    let r' := next r.compiler
    ⟨r'.compiler, r.log ++ r'.log, r'.result⟩

/-- One step of a demonstration program. -/
inductive DemoStep where
  | push (v : Value)
  | apply (w : Word)

/-- A demonstration program. -/
structure Demo where
  name : String
  description : String
  sig : Ty
  steps : List DemoStep

namespace Demo

/-- The sum of two integers. -/
def add : Word :=
  ⟨"add", ⟨.func [.int, .int] [.int] false, .func Stock.demoAdd []⟩, [.int, .int], some .int⟩

/-- Writes a value on a line of its own. -/
def print : Word := ⟨"print", ⟨.func [.any] [] false, .func Stock.demoPrint []⟩, [.any], none⟩

/-- An integer literal. -/
def int (n : Int) : DemoStep := .push ⟨.int, .int n⟩

/-- A greeting and a sum of literals, the sum first. -/
def hello : Demo where
  name := "hello"
  description := "\"Hello World\" 2 3 add print print"
  sig := .func [] [] false
  steps := [.push ⟨.string, .text (Bytes.ofString "Hello World")⟩, int 2, int 3,
    .apply add, .apply print, .apply print]

/-- The sum of the inputs. -/
def sum : Demo where
  name := "sum"
  description := "add print, both operands taken from -args"
  sig := .func [.int, .int] [] false
  steps := [.apply add, .apply print]

/-- All demonstration programs, sorted by name. -/
def all : List Demo := [hello, sum]

/-- The demonstration program of a name. -/
def find? (name : String) : Option Demo := all.find? (·.name = name)

/-- Carries steps out until one is refused. -/
def run (c : Compiler) : List DemoStep → Reply Unit
  | [] => ⟨c, [], .ok ()⟩
  | .push v :: steps => (c.push (some v) (some v.type)).andThen fun c => run c steps
  | .apply w :: steps => (c.applyWord (some w)).andThen fun c => run c steps

/-- Builds the program on a compiler. -/
def build (d : Demo) (c : Compiler) : Reply Unit := run c d.steps

end Demo

end Tacit
