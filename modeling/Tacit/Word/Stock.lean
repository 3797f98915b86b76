import Tacit.Catalogue
import Tacit.Value.Convert
import Tacit.Value.Show
import Tacit.Word.Basic
import Tacit.Word.Dictionary

/-!
# Stock words

The funcs that every dictionary starts with: arithmetic, logic, texts, lists, maps, pointers, boxes
and funcs on funcs. The last entries are `added`, the func that `adder` yields, and the two words
of the demonstration programs.
-/

namespace Tacit.Stock

open Number (double single)
open scoped Catalogue

/-- An act that calls no other func. -/
abbrev Plain := List Data → Run (List Data)

/-- An act on operands that are not the expected ones; the checks of a call rule them out. -/
def unexpected : Run (List Data) := Run.panic .nilDereference

/-- One result. -/
def give (d : Data) : Run (List Data) := pure [d]

/-- A sum, difference or product of integers of type `b`. -/
def arith (b : Basic) (f : Int → Int → Int) : Plain
  | [.int x, .int y] => give (.int (b.wrap (f x y)))
  | _ => unexpected

/-- The quotient, without its fractional part. -/
def divide : Plain
  | [.int x, .int y] =>
    if y = 0 then Run.panic .divisionByZero else give (.int (Basic.int.wrap (x.tdiv y)))
  | _ => unexpected

/-- A func on one integer. -/
def onInt (f : Int → Int) : Plain
  | [.int x] => give (.int (Basic.int.wrap (f x)))
  | _ => unexpected

/-- The four operands as digits of one number. -/
def pack4 : Plain
  | [.int x, .int y, .int z, .int w] =>
    give (.int (Basic.int.wrap (x * 1000 + y * 100 + z * 10 + w)))
  | _ => unexpected

/-- A func on two numbers of sixty-four bits. -/
def onDoubles (f : Float → Float → Float) : Plain
  | [.float64 x, .float64 y] => give (.float64 (f (Float.ofBits x) (Float.ofBits y)).toBits)
  | _ => unexpected

/-- The product of two numbers of thirty-two bits. -/
def mulSingles : Plain
  | [.float32 x, .float32 y] => give (.float32 (Float32.ofBits x * Float32.ofBits y).toBits)
  | _ => unexpected

/-- The first operand itself. -/
def same : Plain
  | d :: _ => give d
  | [] => unexpected

/-- Nothing. -/
def nothing : Plain := fun _ => pure []

/-- The slots of a slice, whose first one is there. -/
def firstOf (d : Data) : Run (Addr × Data × List Data) := do
  match d, (← Run.store).sliceItems d with
  | .slice a, x :: xs => pure (a, x, xs)
  | _, _ => Run.panic (.indexOutOfRange 0 0)

/-- Stores into the first slot of a slice. -/
def setFirst : Plain
  | [s, v] => do
    let (a, _, xs) ← firstOf s
    Run.write a (.slots (v :: xs))
    give s
  | _ => unexpected

/-- Adds one to an integer. -/
def succ : Data → Data
  | .int n => .int (Basic.int.wrap (n + 1))
  | d => d

/-- Adds one to the first slot of a slice. -/
def incFirst : Plain
  | [s] => do
    let (a, x, xs) ← firstOf s
    Run.write a (.slots (succ x :: xs))
    give s
  | _ => unexpected

/-- The sum of a slice of integers. -/
def sumList : Plain
  | [s] => do
    let add (acc : Int) : Data → Int
      | .int n => Basic.int.wrap (acc + n)
      | _ => acc
    give (.int (((← Run.store).sliceItems s).foldl add 0))
  | _ => unexpected

/-- Stores under a key of a map. -/
def put : Plain
  | [.map a, k, v] => do
    Run.write a (.entries (Data.putEntry k v ((← Run.store).entries a)))
    pure []
  | [_, _, _] => Run.panic .nilMapWrite
  | _ => unexpected

/-- Looks a key of a map up. -/
def get : Plain
  | [.map a, k] => do
    give ((((← Run.store).entries a).find? (·.1 = k)).elim (.int 0) (·.2))
  | _ => give (.int 0)

/-- The target of a pointer. -/
def deref : Plain
  | [.pointer a n] => do give ((← Run.store).target a n)
  | _ => Run.panic .nilDereference

/-- Adds one to the target of a pointer. -/
def incPtr : Plain
  | [.pointer a n] => do
    Run.write a (.slots [succ ((← Run.store).target a n)])
    give (.pointer a n)
  | _ => Run.panic .nilDereference

/-- A pointer to a new variable. -/
def newPtr : Plain
  | [d] => do give (.pointer (← Run.allocate (.slots [d])) none)
  | _ => unexpected

/-- A copy with one added to its first part. -/
def bump : Plain
  | [.tuple (x :: xs)] => give (.tuple (succ x :: xs))
  | _ => unexpected

/-- What a method answers. -/
def tell (t : Ty) (m : Method) (d : Data) : Run (List Data) := do
  give (.text (← Run.ofExcept (t.answer m d (← Run.store))))

/-- What a method of the value in an interface answers. -/
def ask (m : Method) : Plain
  | [.boxed t d] => tell t m d
  | _ => Run.panic .nilDereference

/-- The greatest length that a text in storage can have. -/
def maxLength : Nat := Nat.pow 2 48

/-- A text a number of times. -/
def repeatText : Plain
  | [.text s, .int n] =>
    let length := s.length * n.toNat
    if n < 0 then Run.panic .negativeRepeat
    else if s.isEmpty || n = 0 then give (.text [])
    else if n = 1 then give (.text s)
    else if Nat.pow 2 63 ≤ length then Run.panic .repeatOverflow
    else if maxLength < length then Run.panic .lengthOutOfRange
    else give (.text (List.replicate n.toNat s).flatten)
  | _ => unexpected

/-- A number without its sign. -/
def absolute : Plain
  | [.float64 x] =>
    give (.float64 (if double.signBit ≤ x.toNat then (x.toNat - double.signBit).toUInt64 else x))
  | _ => unexpected

/-- Writes an operand and a line end. -/
def print : Plain
  | [d] => do
    let text ← Run.ofExcept (showContent (Value.content ⟨.any, d⟩) (← Run.store))
    Run.emit (.wrote (text ++ [10]))
    pure []
  | _ => unexpected

/-- Applies a func of one integer twice. -/
def twice (call : Caller) : Plain
  | [.func code captured, x] => do
    let once ← call code captured [x]
    call code captured once
  | _ => Run.panic .nilDereference

/-- A func that calls no other func, recorded under its own name. -/
def word (name : String) (params results : List Ty) (act : Plain) : Entry where
  symbol := Bytes.ofString ("main." ++ name)
  params := params
  results := results
  label := some name
  act := fun _ _ => act

/-- The same with another symbol and label. -/
def known (symbol : String) (label : Option String) (params results : List Ty) (act : Plain) :
    Entry where
  symbol := Bytes.ofString symbol
  params := params
  results := results
  label := label
  act := fun _ _ => act

abbrev int : Ty := .int
abbrev string : Ty := .string
abbrev f64 : Ty := .basic .float64

/-- Funcs on numbers and truth values. -/
def numbers : List (String × Entry) := [
  ("add", word "add" [int, int] [int] (arith .int (· + ·))),
  ("sub", word "sub" [int, int] [int] (arith .int (· - ·))),
  ("mul", word "mul" [int, int] [int] (arith .int (· * ·))),
  ("div", word "div" [int, int] [int] divide),
  ("neg", word "neg" [int] [int] (onInt (- ·))),
  ("inc", word "inc" [int] [int] (onInt (· + 1))),
  ("pack4", word "pack4" [int, int, int, int] [int] pack4),
  ("add8", word "add8" [.basic .int8, .basic .int8] [.basic .int8] (arith .int8 (· + ·))),
  ("addu8", word "addu8" [.basic .uint8, .basic .uint8] [.basic .uint8] (arith .uint8 (· + ·))),
  ("add32", word "add32" [.basic .int32, .basic .int32] [.basic .int32] (arith .int32 (· + ·))),
  ("add64", word "add64" [.basic .int64, .basic .int64] [.basic .int64] (arith .int64 (· + ·))),
  ("addu64",
    word "addu64" [.basic .uint64, .basic .uint64] [.basic .uint64] (arith .uint64 (· + ·))),
  ("addf", word "addf" [f64, f64] [f64] (onDoubles (· + ·))),
  ("mulf", word "mulf" [f64, f64] [f64] (onDoubles (· * ·))),
  ("mulf32", word "mulf32" [.basic .float32, .basic .float32] [.basic .float32] mulSingles),
  ("math.Abs", known "math.Abs" none [f64] [f64] absolute),
  ("not", word "not" [.bool] [.bool] fun
    | [.bool b] => give (.bool (!b))
    | _ => unexpected),
  ("and", word "and" [.bool, .bool] [.bool] fun
    | [.bool a, .bool b] => give (.bool (a && b))
    | _ => unexpected)]

/-- Funcs on texts. -/
def texts : List (String × Entry) := [
  ("tick", word "tick" [] [string] fun _ => give (.text (.ofString "tick"))),
  ("concat", word "concat" [string, string] [string] fun
    | [.text a, .text b] => give (.text (a ++ b))
    | _ => unexpected),
  ("size", word "size" [string] [int] fun
    | [.text a] => give (.int a.length)
    | _ => unexpected),
  ("mkLabel", word "mkLabel" [string] [.declared .label] same),
  ("Label.String", known "main.Label.String" none [.declared .label] [string] fun
    | [d] => tell (.declared .label) .string d
    | _ => unexpected),
  ("strings.Repeat", known "strings.Repeat" none [string, int] [string] repeatText),
  ("hclsyntax.ValidIdentifier",
    known "hclsyntax.ValidIdentifier" none [string] [.bool] fun
    | [.text s] => give (.bool (Text.isIdentifier s))
    | _ => unexpected)]

/-- Funcs that only record their operands. -/
def sinks : List (String × Entry) := [
  ("sink", word "sink" [.any] [] nothing),
  ("sinkInt", word "sinkInt" [int] [] nothing),
  ("sinkStr", word "sinkStr" [string] [] nothing),
  ("show3", word "show3" [string, string, string] [] nothing),
  ("mixed", word "mixed" [int, string, .bool] [] nothing),
  ("noop", word "noop" [] [] nothing),
  ("recorder.take", known "main.(*recorder).take-fm" (some "take") [int] [] nothing),
  ("recorder.Show", known "main.recorder.Show-fm" (some "Show") [int] [] nothing)]

/-- Funcs on what is held by reference, on composites and on interfaces. -/
def references : List (String × Entry) := [
  ("sumList", word "sumList" [.slice int] [int] sumList),
  ("setFirst", word "setFirst" [.slice int, int] [.slice int] setFirst),
  ("incFirst", word "incFirst" [.slice int] [.slice int] incFirst),
  ("put", word "put" [.map string int, string, int] [] put),
  ("get", word "get" [.map string int, string] [int] get),
  ("incPtr", word "incPtr" [.pointer int] [.pointer int] incPtr),
  ("deref", word "deref" [.pointer int] [int] deref),
  ("newPtr", word "newPtr" [int] [.pointer int] newPtr),
  ("bumpArr", word "bumpArr" [.array 2 int] [.array 2 int] bump),
  ("movePoint", word "movePoint" [.declared .point] [.declared .point] bump),
  ("describe", word "describe" [.interface .stringer] [string] (ask .string)),
  ("errText", word "errText" [.error] [string] (ask .error)),
  ("box", word "box" [.any] [.any] same),
  ("maybeErr", word "maybeErr" [.bool] [.error] fun
    | [.bool true] => give (.boxed (.declared .fault) (.text (.ofString "yes")))
    | _ => give .nil),
  ("boom", word "boom" [string] [] fun
    | [.text s] => Run.panic (.raised s)
    | _ => unexpected),
  ("two", known "main.two" none [int] [int, .error] fun
    | [d] => pure [d, .nil]
    | _ => unexpected),
  ("variadic", { known "main.variadic" none [.slice int] [] nothing with variadic := true })]

/-- Funcs that yield their operand, under all sorts of names. -/
def identities : List (String × Entry) := [
  ("ident[int]", known "main.ident[...]" (some "ident") [int] [int] same),
  ("ident[string]", known "main.ident[...]" (some "ident") [string] [string] same),
  ("é", word "é" [int] [int] same),
  ("é1", word "é1" [int] [int] same),
  ("世x界", word "世x界" [int] [int] same),
  ("__lead", word "__lead" [int] [int] same),
  ("A_9", word "A_9" [int] [int] same)]

/-- All funcs that yield no func. -/
def firstOrder : List (String × Entry) := numbers ++ texts ++ sinks ++ references ++ identities

/-- The code of the func that `adder` yields. -/
def addedCode : Nat := firstOrder.length

/-- The code of the demonstration programs' addition. -/
def demoAdd : Nat := addedCode + 1

/-- The code of the demonstration programs' output. -/
def demoPrint : Nat := addedCode + 2

/-- All stock funcs with the names they go by. -/
def catalogue : List (String × Entry) := firstOrder ++ [
  ("", { word "added" [int] [int] nothing with
    symbol := Bytes.ofString "main.adder.func1"
    act := fun _ captured operands => arith .int (· + ·) (operands ++ captured) }),
  ("", known "main.demo" none [int, int] [int] (arith .int (· + ·))),
  ("", known "main.demo" none [.any] [] print),
  ("twice", { word "twice" [.func [int] [int] false, int] [int] nothing with
    act := fun call _ => twice call }),
  ("adder", word "adder" [int] [.func [int] [int] false] fun
    | [d] => give (.func addedCode [d])
    | _ => unexpected)]

/-- The dictionary of stock funcs. -/
def dictionary : Dictionary := catalogue.map (·.2)

/-- The code of the stock func that goes by a name. -/
def code? (name : String) : Option Nat := catalogue.findIdx? (·.1 = name)

end Tacit.Stock
