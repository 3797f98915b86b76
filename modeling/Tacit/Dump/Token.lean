import Tacit.Datum.Basic
import Tacit.Text.Basic
import Tacit.Text.Identifier
import Tacit.Text.Printable

/-!
# Tokens of a dump

Dumps are made as token sequences; how the tokens are spaced is settled by the layout. Data in
literal notation have tokens here.
-/

namespace Tacit.Dump

/-- The tokens of dumps. A name is one token, whatever it contains. -/
inductive Token where
  | name (s : String)
  | number (s : String)
  | openQuote
  | quoted (s : String)
  | closeQuote
  | openBracket | closeBracket
  | openParen | closeParen
  | openBrace | closeBrace
  | comma | equal | newline
deriving DecidableEq, Repr

/-- A token as it is written. -/
def Token.text : Token → String
  | name s | number s | quoted s => s
  | openQuote | closeQuote => "\""
  | openBracket => "["
  | closeBracket => "]"
  | openParen => "("
  | closeParen => ")"
  | openBrace => "\x7b"
  | closeBrace => "\x7d"
  | comma => ","
  | equal => "="
  | newline => "\n"

/-! ### Texts -/

/-- A character that does not introduce a template, as it stands in a quoted text. -/
def escapedChar (c : Char) : String :=
  match c with
  | '\n' => "\\n"
  | '\r' => "\\r"
  | '\t' => "\\t"
  | '"' => "\\\""
  | '\\' => "\\\\"
  | c =>
    if Text.isPrintable c then c.toString
    else if c.toNat < 0x10000 then "\\u" ++ Text.hex 4 c.toNat
    else "\\U" ++ Text.hex 8 c.toNat

/-- A text as it stands between quotes. What would introduce a template is doubled. -/
def escaped : List Char → String
  | [] => ""
  | c :: cs =>
    if (c = '$' || c = '%') && cs.head? = some '\x7b' then
      c.toString ++ c.toString ++ escaped cs
    else escapedChar c ++ escaped cs

/-- The tokens of a text. -/
def textTokens (s : Bytes) : List Token :=
  if s.isEmpty then [.openQuote, .closeQuote]
  else [.openQuote, .quoted (escaped s.toText.toList), .closeQuote]

/-! ### Data -/

/-- Token sequences with commas between. -/
def commaSeparated : List (List Token) → List Token
  | [] => []
  | [ts] => ts
  | ts :: rest => ts ++ .comma :: commaSeparated rest

/-- The tokens of a key: an identifier stands bare. -/
def keyTokens (k : Bytes) : List Token :=
  if Text.isIdentifier k then [.name k.toText] else textTokens k

mutual
/-- The tokens of a datum in which everything is known. Entries of maps and objects stand on lines
of their own. -/
def datumTokens : Datum → List Token
  | .unknown _ => []
  | .null _ => [.name "null"]
  | .bool b => [.name (if b then "true" else "false")]
  | .number n => [.number n.text]
  | .string s => textTokens s
  | .list _ ds | .set _ ds | .tuple ds =>
    .openBracket :: commaSeparated (itemTokens ds) ++ [.closeBracket]
  | .map _ [] | .object [] => [.openBrace, .closeBrace]
  | .map _ es | .object es => .openBrace :: .newline :: entryTokens es ++ [.closeBrace]
/-- The tokens of elements. -/
def itemTokens : List Datum → List (List Token)
  | [] => []
  | d :: ds => datumTokens d :: itemTokens ds
/-- The tokens of entries. -/
def entryTokens : List (Bytes × Datum) → List Token
  | [] => []
  | (k, d) :: es => keyTokens k ++ .equal :: datumTokens d ++ .newline :: entryTokens es
end

end Tacit.Dump
