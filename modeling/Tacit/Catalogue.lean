import Tacit.Declarations
import Tacit.Number.Shortest
import Tacit.Text.Printable
import Tacit.Type.Text

/-!
# The catalogue

The types that are declared beside the stock of words: texts and numbers under other names, some
with a method for their text, and structs with and without tags.
-/

namespace Tacit

namespace Declared

def label : Declared := ⟨"main", "Label"⟩
def fault : Declared := ⟨"main", "Fault"⟩
def dual : Declared := ⟨"main", "Dual"⟩
def myInt : Declared := ⟨"main", "MyInt"⟩
def celsius : Declared := ⟨"main", "Celsius"⟩
def temp : Declared := ⟨"main", "Temp"⟩
def point : Declared := ⟨"main", "Point"⟩
def plain : Declared := ⟨"main", "Plain"⟩
def pair : Declared := ⟨"main", "Pair"⟩
def wrapper : Declared := ⟨"main", "Wrapper"⟩
def node : Declared := ⟨"main", "Node"⟩
def ptrStr : Declared := ⟨"main", "PtrStr"⟩
def intList : Declared := ⟨"main", "IntList"⟩
def bytes : Declared := ⟨"main", "Bytes"⟩
def dict : Declared := ⟨"main", "Dict"⟩
def arr : Declared := ⟨"main", "Arr"⟩
def handler : Declared := ⟨"main", "Handler"⟩

end Declared

/-- The interface of values that can be written to. -/
def Interface.writer : Interface := ⟨"io.Writer", [⟨"Write", "([]uint8) (int, error)"⟩]⟩

/-- The interface of errors that tell two texts. -/
def Interface.both : Interface := ⟨"main.Both", [.error, .string]⟩

/-- The interface of values that tell their text, written out. -/
def Interface.stringMethod : Interface := ⟨"", [.string]⟩

namespace Catalogue

/-- A method on texts: it puts something in front. -/
def saying (front : String) : Data → Except Panic Bytes
  | .text s => .ok (.ofString front ++ s)
  | _ => .ok (.ofString front)

/-- The declarations. -/
def table : List (Declared × Declaration) := [
  (.label, {
    underlying := .string
    zero := .text []
    methods := [.string]
    answer := fun _ v _ => saying "label:" v }),
  (.fault, {
    underlying := .string
    zero := .text []
    methods := [.error]
    answer := fun _ v _ => saying "fault:" v }),
  (.dual, {
    underlying := .string
    zero := .text []
    methods := [.error, .string]
    answer := fun m v _ => saying (if m = .error then "dual-error:" else "dual-string:") v }),
  (.myInt, { underlying := .int, zero := .int 0 }),
  (.celsius, { underlying := .basic .float64, zero := .float64 0 }),
  (.temp, {
    underlying := .basic .complex128
    zero := .complex128 0 0
    methods := [.string]
    answer := fun _ v _ => match v with
      | .complex128 re im =>
        .ok (.ofString ("temp(" ++ Number.double.complexText re.toNat im.toNat ++ ")"))
      | _ => .ok [] }),
  (.point, {
    underlying := .struct [.tagged "X" .int "cty:\"x\"", .tagged "Y" .int "cty:\"y\""]
    zero := .tuple [.int 0, .int 0] }),
  (.plain, {
    underlying := .struct [.plain "X" .int, .plain "Y" .int]
    zero := .tuple [.int 0, .int 0] }),
  (.pair, {
    underlying := .struct [.plain "A" .int, .plain "B" .string]
    zero := .tuple [.int 0, .text []] }),
  (.wrapper, {
    underlying := .struct [.tagged "Inner" (.declared .point) "cty:\"inner\"",
      .tagged "Names" (.slice .string) "cty:\"names\"", .tagged "M" (.map .string .int) "cty:\"m\"",
      .tagged "P" (.pointer .int) "cty:\"p\""]
    zero := .tuple [.tuple [.int 0, .int 0], .nil, .nil, .nil] }),
  (.node, {
    underlying := .struct [.plain "Next" (.pointer (.declared .node)), .plain "Val" .int]
    zero := .tuple [.nil, .int 0] }),
  (.ptrStr, {
    underlying := .struct [.plain "S" .string]
    zero := .tuple [.text []]
    pointerMethods := [.string]
    answer := fun _ v s => match v with
      | .pointer a n => match s.target a n with
        | .tuple [x] => saying "ptrstr:" x
        | _ => .ok []
      | _ => .error .nilDereference }),
  (.intList, { underlying := .slice .int, zero := .nil }),
  (.bytes, { underlying := .slice (.basic .uint8), zero := .nil }),
  (.dict, { underlying := .map .string .int, zero := .nil }),
  (.arr, { underlying := .array 2 .int, zero := .tuple [.int 0, .int 0] }),
  (.handler, { underlying := .func [.int] [] false, zero := .nil })]

/-- The text of a value in JSON. The programs that log in it push texts and whole numbers; other
data are refused. -/
def json (v : Value) (_ : Store) : Except Bytes Bytes :=
  match v.data with
  | .text x => .ok (Text.jsonText x)
  | .int n => .ok (.ofString (Text.decimal n))
  | .bool b => .ok (.ofString (if b then "true" else "false"))
  | .nil => .ok (.ofString "null")
  | _ => .error (.ofString ("json: unsupported type: " ++ v.type.text))

/-- The declarations of the catalogue, in force where its namespace is open. -/
scoped instance declarations : Declarations :=
  .ofTable table json (by decide) (by decide) (by decide)

end Catalogue

end Tacit
