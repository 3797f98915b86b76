import Tacit.Text.Printable
import Tacit.Type.Basic

/-!
# The text of a type

Every type has one written form, which messages, dumps and signatures show.
-/

namespace Tacit

/-- The name of a predeclared type. -/
def Basic.text : Basic → String
  | bool => "bool"
  | string => "string"
  | int => "int"
  | int8 => "int8"
  | int16 => "int16"
  | int32 => "int32"
  | int64 => "int64"
  | uint => "uint"
  | uint8 => "uint8"
  | uint16 => "uint16"
  | uint32 => "uint32"
  | uint64 => "uint64"
  | uintptr => "uintptr"
  | float32 => "float32"
  | float64 => "float64"
  | complex64 => "complex64"
  | complex128 => "complex128"
  | unsafePointer => "unsafe.Pointer"

/-- The text of a method in an interface type. -/
def Method.text (m : Method) : String := m.name ++ m.signature

/-- The text of an interface type: its name, or the methods it asks for. -/
def Interface.text (i : Interface) : String :=
  if i.isNamed then i.name
  else if i.methods.isEmpty then "interface \x7b\x7d"
  else "interface \x7b " ++ String.intercalate "; " (i.methods.map Method.text) ++ " \x7d"

/-- The text of a declared type. -/
def Declared.text (d : Declared) : String := d.package ++ "." ++ d.name

namespace Ty

/-- Whether the text of the type starts with an arrow. -/
def isReceive : Ty → Bool
  | channel .receive _ => true
  | _ => false

/-- The results of a func type after its parameters: none, one, or several in parentheses. -/
def resultText : List String → String
  | [] => ""
  | [r] => " " ++ r
  | rs => " (" ++ String.intercalate ", " rs ++ ")"

mutual
/-- The text of a type. -/
def text : Ty → String
  | basic b => b.text
  | interface i => i.text
  | declared d => d.text
  | slice t => "[]" ++ t.text
  | pointer t => "*" ++ t.text
  | array n t => "[" ++ Nat.repr n ++ "]" ++ t.text
  | map k t => "map[" ++ k.text ++ "]" ++ t.text
  | channel .receive t => "<-chan " ++ t.text
  | channel .send t => "chan<- " ++ t.text
  | channel .both t => if t.isReceive then "chan (" ++ t.text ++ ")" else "chan " ++ t.text
  | func ps rs v =>
    "func(" ++ String.intercalate ", " (paramTexts v ps) ++ ")" ++ resultText (texts rs)
  | struct [] => "struct \x7b\x7d"
  | struct fs => "struct \x7b " ++ String.intercalate "; " (fieldTexts fs) ++ " \x7d"
/-- The texts of types. -/
def texts : List Ty → List String
  | [] => []
  | t :: ts => t.text :: texts ts
/-- The texts of parameters; the last one of a variadic func has dots for its brackets. -/
def paramTexts (variadic : Bool) : List Ty → List String
  | [] => []
  | [slice t] => [if variadic then "..." ++ t.text else "[]" ++ t.text]
  | t :: ts => t.text :: paramTexts variadic ts
/-- The texts of fields, each with its tag in quotes. An embedded one goes by its type. -/
def fieldTexts : List (Field Ty) → List String
  | [] => []
  | ⟨name, t, tag, _, embedded⟩ :: fs =>
    ((if embedded then "" else name ++ " ") ++ t.text ++
      if tag.isEmpty then "" else " " ++ Text.quote tag) :: fieldTexts fs
end

end Ty

end Tacit
