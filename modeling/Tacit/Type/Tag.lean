import Tacit.Text.Basic

/-!
# Tags

The tag of a field is a list of `key:"value"` pairs with blanks between. A value is in quotes and
can have escapes. `attributeName` is the value by which a field takes part in literal notation.
-/

namespace Tacit

namespace Tag

/-- What stands in quotes that have been opened, with its escapes, and what follows the closing
quote. -/
def quotedSpan? : List Char → Option (List Char × List Char)
  | [] => none
  | '"' :: rest => some ([], rest)
  | '\\' :: c :: rest => (quotedSpan? rest).map fun (s, r) => ('\\' :: c :: s, r)
  | c :: rest => (quotedSpan? rest).map fun (s, r) => (c :: s, r)

/-- The control that a letter stands for after a backslash. -/
def control? : Char → Option Char
  | 'a' => some '\x07'
  | 'b' => some '\x08'
  | 'f' => some '\x0c'
  | 'n' => some '\n'
  | 'r' => some '\r'
  | 't' => some '\t'
  | 'v' => some '\x0b'
  | _ => none

/-- The byte with a value. -/
def byte? (n : Nat) : Option Bytes := if n < 256 then some [n.toUInt8] else none

/-- The bytes that an escape without its backslash stands for, and what follows it. -/
def escape? : List Char → Option (Bytes × List Char)
  | 'x' :: a :: b :: cs => do return (← byte? (← Text.number? 16 [a, b]), cs)
  | 'u' :: a :: b :: c :: d :: cs => do return (.ofChar (← Text.charOfHex? [a, b, c, d]), cs)
  | 'U' :: a :: b :: c :: d :: e :: f :: g :: h :: cs => do
    return (.ofChar (← Text.charOfHex? [a, b, c, d, e, f, g, h]), cs)
  | '\\' :: cs => some (.ofChar '\\', cs)
  | '"' :: cs => some (.ofChar '"', cs)
  | c :: cs =>
    match control? c, cs with
    | some k, cs => some (.ofChar k, cs)
    | none, a :: b :: cs => do return (← byte? (← Text.number? 8 [c, a, b]), cs)
    | none, _ => none
  | [] => none

/-- The text that stands in quotes; at most `fuel` characters are read. There is none with an escape
that means nothing or with the end of a line. -/
def unquoted? : (fuel : Nat) → List Char → Option Bytes
  | _, [] => some []
  | 0, _ => none
  | fuel + 1, '\\' :: cs => do
    let (s, cs) ← escape? cs
    return s ++ (← unquoted? fuel cs)
  | fuel + 1, c :: cs => do
    if c = '\n' then none else return .ofChar c ++ (← unquoted? fuel cs)

/-- Whether a character can be in the key of a tag. -/
def isKeyChar (c : Char) : Bool := ' ' < c && c ≠ ':' && c ≠ '"' && c ≠ '\x7f'

/-- The value that a tag has for a key; no value is empty. At most `fuel` pairs are read. -/
def value (key : String) : (fuel : Nat) → List Char → Bytes
  | 0, _ => []
  | fuel + 1, cs =>
    let cs := cs.dropWhile (· = ' ')
    let name := cs.takeWhile isKeyChar
    match name, cs.drop name.length with
    | _ :: _, ':' :: '"' :: rest =>
      match quotedSpan? rest with
      | none => []
      | some (span, rest) =>
        if String.ofList name = key then (unquoted? span.length span).getD []
        else value key fuel rest
    | _, _ => []

end Tag

/-- The attribute that a tag names. -/
def attributeName (tag : String) : Bytes := Tag.value "cty" tag.length tag.toList

end Tacit
