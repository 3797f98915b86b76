import Tacit.Text.Basic
import Tacit.Text.Identifier

/-!
# Tokens of formulas

A formula is read as a list of tokens. Blanks and comments divide tokens and are none themselves;
the end of a line is one. A text stands in quotes, or as a block of lines that a marker ends. It is
cut into its pieces: what stands there literally, and sequences in braces after `$`, which are
formulas to be filled in, or after `%`, which are directives. `Token.ofText` never fails: what
cannot be read becomes the token `unreadable`, which no formula has.
-/

namespace Tacit.Formula

/-- The signs that have a meaning in formulas. -/
inductive Sign where
  | openParen | closeParen | openBracket | closeBracket | openBrace | closeBrace
  | comma | dot | ellipsis | colon | doubleColon | question | assign | arrow
  | plus | minus | star | slash | percent | bang
  | equal | notEqual | less | lessEqual | greater | greaterEqual | and | or
deriving DecidableEq, Repr, Inhabited

/-- A token. -/
inductive Token where
  | sign (s : Sign)
  | number (digits : String)
  | name (s : String)
  | endOfLine
  | openQuote
  | closeQuote
  /-- The start of a block of lines. If `flush` is set, the blanks that all lines start with go. -/
  | openBlock (flush : Bool)
  | closeBlock
  /-- Literal text with its escapes read. In a block every line has a token of its own. -/
  | text (s : Bytes)
  /-- The start of a formula in a text; it can ask for the blanks before it to go. -/
  | openFill (trim : Bool)
  /-- The start of a directive in a text; it can ask for the blanks before it to go. -/
  | openControl (trim : Bool)
  /-- The end of a formula or a directive; it can ask for the blanks after it to go. -/
  | closeFill (trim : Bool)
  | unreadable
deriving DecidableEq, Repr, Inhabited

namespace Token

/-! ### Signs -/

/-- A sign of two or three characters at the start of a text, and its length. -/
def longSign? : List Char → Option (Sign × Nat)
  | '.' :: '.' :: '.' :: _ => some (.ellipsis, 3)
  | '=' :: '=' :: _ => some (.equal, 2)
  | '!' :: '=' :: _ => some (.notEqual, 2)
  | '<' :: '=' :: _ => some (.lessEqual, 2)
  | '>' :: '=' :: _ => some (.greaterEqual, 2)
  | '=' :: '>' :: _ => some (.arrow, 2)
  | '&' :: '&' :: _ => some (.and, 2)
  | '|' :: '|' :: _ => some (.or, 2)
  | ':' :: ':' :: _ => some (.doubleColon, 2)
  | _ => none

/-- The sign that a character is. -/
def shortSign? : Char → Option Sign
  | '(' => some .openParen
  | ')' => some .closeParen
  | '[' => some .openBracket
  | ']' => some .closeBracket
  | '\x7b' => some .openBrace
  | '\x7d' => some .closeBrace
  | ',' => some .comma
  | '.' => some .dot
  | ':' => some .colon
  | '?' => some .question
  | '=' => some .assign
  | '+' => some .plus
  | '-' => some .minus
  | '*' => some .star
  | '/' => some .slash
  | '%' => some .percent
  | '!' => some .bang
  | '<' => some .less
  | '>' => some .greater
  | _ => none

/-- The sign at the start of a text, the longest there is, and its length. -/
def sign? : List Char → Option (Sign × Nat)
  | [] => none
  | c :: cs => (longSign? (c :: cs)).or ((shortSign? c).map (·, 1))

/-! ### Numbers -/

/-- Whether the text starts with a digit. -/
def startsWithDigit : List Char → Bool
  | c :: _ => c.isDigit
  | [] => false

/-- Whether an exponent goes on like this: with digits after an optional sign. -/
def isExponent : List Char → Bool
  | '+' :: cs | '-' :: cs => startsWithDigit cs
  | cs => startsWithDigit cs

/-- The characters at the start of a text that can go on with a number: digits, points and
exponents, whose letter can have a sign after it. -/
def numberRun (afterLetter : Bool) : List Char → List Char
  | [] => []
  | c :: cs =>
    if c.isDigit || c = '.' then c :: numberRun false cs
    else if (c = 'e' || c = 'E') && isExponent cs then c :: numberRun true cs
    else if afterLetter && (c = '+' || c = '-') then c :: numberRun false cs
    else []

/-- The number at the start of a text. It does not end in a point. -/
def numberText (cs : List Char) : List Char :=
  ((numberRun false cs).reverse.dropWhile (· = '.')).reverse

/-- Whether a character can be in a number. -/
def isNumberChar (c : Char) : Bool :=
  c.isDigit || c = '.' || c = 'e' || c = 'E' || c = '+' || c = '-'

/-! ### Runes -/

/-- The first `n` runes as the characters they are shown as. -/
def shown (n : Nat) (rs : List Rune) : List Char := (rs.take n).map Rune.toChar

/-- The characters at the start of a text that satisfy a condition. -/
def charsWhile (p : Char → Bool) : List Rune → List Char
  | .char c :: rs => if p c then c :: charsWhile p rs else []
  | _ => []

/-- What follows the end of a comment between slashes and stars. -/
def afterComment? : List Rune → Option (List Rune)
  | .char '*' :: .char '/' :: rs => some rs
  | _ :: rs => afterComment? rs
  | [] => none

/-- What follows the rest of a line, and whether the line has an end. -/
def afterLine : List Rune → Bool × List Rune
  | .char '\n' :: rs => (true, rs)
  | _ :: rs => afterLine rs
  | [] => (false, [])

/-- The end of a line at the start of a text. -/
def lineEnd? : List Rune → Option (Bytes × List Rune)
  | .char '\n' :: rs => some (.ofString "\n", rs)
  | .char '\r' :: .char '\n' :: rs => some (.ofString "\r\n", rs)
  | _ => none

/-- The bytes of a byte that can go on with a character. -/
def strayTail? : Rune → Option UInt8
  | .stray b => if (Bytes.continuation? b).isSome then some b else none
  | .char _ => none

/-- The bytes of the next character of a literal text. Also what only has the form of a character is
one: a leading byte and as many further bytes as it announces. -/
def unit? : List Rune → Option (Bytes × List Rune)
  | [] => none
  | .char c :: rs => if c = '\n' || c = '\r' then none else some (.ofChar c, rs)
  | .stray b :: rs => do
    let (count, _) ← Bytes.lead? b
    let bs ← (rs.take count).mapM strayTail?
    if bs.length = count then some (b :: bs, rs.drop count) else none

/-! ### Pieces of texts -/

/-- The character that an escape without its backslash stands for, and the length of the escape. -/
def escape? : List Char → Option (Char × Nat)
  | 'n' :: _ => some ('\n', 1)
  | 'r' :: _ => some ('\r', 1)
  | 't' :: _ => some ('\t', 1)
  | '"' :: _ => some ('"', 1)
  | '\\' :: _ => some ('\\', 1)
  | 'u' :: a :: b :: c :: d :: _ => (Text.charOfHex? [a, b, c, d]).map (·, 5)
  | 'U' :: a :: b :: c :: d :: e :: f :: g :: h :: _ =>
    (Text.charOfHex? [a, b, c, d, e, f, g, h]).map (·, 9)
  | _ => none

/-- What a text goes on with. -/
inductive Piece where
  | text (s : Bytes)
  /-- The end of the text in quotes. -/
  | close
  /-- The end of a line. -/
  | lineEnd (s : Bytes)
  /-- The token that starts a formula or a directive. -/
  | start (t : Token)
  | unreadable
deriving DecidableEq, Repr

/-- What starts a formula or a directive, or, with its first character doubled, stands for
itself. -/
def start? : List Char → Option (Piece × Nat)
  | '$' :: '$' :: '\x7b' :: _ => some (.text (.ofString "$\x7b"), 3)
  | '%' :: '%' :: '\x7b' :: _ => some (.text (.ofString "%\x7b"), 3)
  | '$' :: '\x7b' :: '~' :: _ => some (.start (.openFill true), 3)
  | '$' :: '\x7b' :: _ => some (.start (.openFill false), 2)
  | '%' :: '\x7b' :: '~' :: _ => some (.start (.openControl true), 3)
  | '%' :: '\x7b' :: _ => some (.start (.openControl false), 2)
  | _ => none

/-- The next piece of literal text, and what follows it. -/
def literalPiece (rs : List Rune) : Piece × List Rune :=
  match start? (shown 3 rs) with
  | some (p, n) => (p, rs.drop n)
  | none =>
    match unit? rs with
    | some (s, rs) => (.text s, rs)
    | none => (.unreadable, [])

/-- The next piece of a text in quotes, and what follows it. -/
def quotedPiece : List Rune → Piece × List Rune
  | .char '"' :: rs => (.close, rs)
  | .char '\\' :: rs =>
    match escape? (shown 9 rs) with
    | some (c, n) => (.text (.ofChar c), rs.drop n)
    | none => (.unreadable, [])
  | rs => literalPiece rs

/-- The next piece of a block, and what follows it. -/
def blockPiece (rs : List Rune) : Piece × List Rune :=
  match lineEnd? rs with
  | some (s, rs) => (.lineEnd s, rs)
  | none => literalPiece rs

/-- The start of a block: whether it is flush, its marker, and what follows the line. -/
def blockStart? : List Rune → Option (Bool × Bytes × List Rune)
  | .char '<' :: .char '<' :: rs => do
    let (flush, rs) := match rs with
      | .char '-' :: rs => (true, rs)
      | rs => (false, rs)
    let marker := charsWhile Text.isIdentPart rs
    let (_, rest) ← lineEnd? (rs.drop marker.length)
    if Text.isIdentChars marker then some (flush, .ofString (String.ofList marker), rest) else none
  | _ => none

/-! ### Tokens -/

/-- The kinds of text that a formula or a directive can be in. -/
inductive Frame where
  | quotes
  | block (marker : Bytes)
deriving DecidableEq, Repr

/-- The token of the pieces of literal text so far, the last one first; no text has none. -/
def flush (pieces : List Bytes) (ts : List Token) : List Token :=
  if pieces.isEmpty then ts else .text pieces.reverse.flatten :: ts

mutual
/-- The tokens of a text that is no literal text. The list `frames` has the texts that it is in and,
for each of them, the number of braces that are open in it. At most `fuel` steps are taken. -/
def scan : (fuel : Nat) → (frames : List (Nat × Frame)) → List Rune → List Token
  | 0, _, _ => []
  | fuel + 1, frames, rs =>
    match rs with
    | [] => []
    | .char ' ' :: rs | .char '\t' :: rs => scan fuel frames rs
    | .char '\n' :: rs | .char '\r' :: .char '\n' :: rs => .endOfLine :: scan fuel frames rs
    | .char '#' :: rs | .char '/' :: .char '/' :: rs =>
      let (ended, rs) := afterLine rs
      if ended then .endOfLine :: scan fuel frames rs else scan fuel frames rs
    | .char '/' :: .char '*' :: rest =>
      match afterComment? rest with
      | some rest => scan fuel frames rest
      | none => .sign .slash :: scan fuel frames (.char '*' :: rest)
    | .char '"' :: rs => .openQuote :: scanQuotes fuel frames [] rs
    | .char '\x7b' :: rs =>
      .sign .openBrace ::
        scan fuel (match frames with | (n, f) :: fs => (n + 1, f) :: fs | [] => []) rs
    | .char '\x7d' :: rs =>
      match frames with
      | (0, .quotes) :: fs => .closeFill false :: scanQuotes fuel fs [] rs
      | (0, .block marker) :: fs => .closeFill false :: scanBlock fuel fs marker false [] rs
      | (n + 1, f) :: fs => .sign .closeBrace :: scan fuel ((n, f) :: fs) rs
      | [] => .sign .closeBrace :: scan fuel [] rs
    | .char '~' :: .char '\x7d' :: rs =>
      match frames with
      | (0, .quotes) :: fs => .closeFill true :: scanQuotes fuel fs [] rs
      | (0, .block marker) :: fs => .closeFill true :: scanBlock fuel fs marker false [] rs
      | _ => [.unreadable]
    | .char c :: rest =>
      if c.isDigit then
        let number := numberText (charsWhile isNumberChar rs)
        .number (String.ofList number) :: scan fuel frames (rs.drop number.length)
      else if Text.isIdentStart c then
        let name := c :: charsWhile Text.isIdentPart rest
        .name (String.ofList name) :: scan fuel frames (rs.drop name.length)
      else match blockStart? rs with
        | some (flush, marker, rest) =>
          .openBlock flush :: scanBlock fuel frames marker true [] rest
        | none =>
          match sign? (shown 3 rs) with
          | some (s, n) => .sign s :: scan fuel frames (rs.drop n)
          | none => [.unreadable]
    | .stray _ :: _ => [.unreadable]
/-- The tokens of a text within quotes, after the literal text `pieces`. -/
def scanQuotes : (fuel : Nat) → (frames : List (Nat × Frame)) → (pieces : List Bytes) →
    List Rune → List Token
  | 0, _, _, _ => []
  | fuel + 1, frames, pieces, rs =>
    match quotedPiece rs with
    | (.text s, rs) => scanQuotes fuel frames (s :: pieces) rs
    | (.close, rs) => flush pieces (.closeQuote :: scan fuel frames rs)
    | (.start t, rs) => flush pieces (t :: scan fuel ((0, .quotes) :: frames) rs)
    | _ => [.unreadable]
/-- The tokens of a block, after the literal text `pieces`. A line that is only the marker ends it;
`lineStart` says whether nothing but literal text has been in the line. -/
def scanBlock : (fuel : Nat) → (frames : List (Nat × Frame)) → (marker : Bytes) →
    (lineStart : Bool) → (pieces : List Bytes) → List Rune → List Token
  | 0, _, _, _, _, _ => []
  | fuel + 1, frames, marker, lineStart, pieces, rs =>
    match blockPiece rs with
    | (.text s, rs) => scanBlock fuel frames marker lineStart (s :: pieces) rs
    | (.lineEnd s, rs) =>
      if lineStart && Text.trim pieces.reverse.flatten = marker then
        .closeBlock :: .endOfLine :: scan fuel frames rs
      else flush (s :: pieces) (scanBlock fuel frames marker true [] rs)
    | (.start t, rs) => flush pieces (t :: scan fuel ((0, .block marker) :: frames) rs)
    | _ => [.unreadable]
end

/-- The text after a mark of byte order. -/
def afterMark : List Rune → List Rune
  | .char c :: rs => if c = Text.byteOrderMark then rs else .char c :: rs
  | rs => rs

/-- The tokens of a text. -/
def ofText (s : Bytes) : List Token := scan (s.length + 1) [] (afterMark s.runes)

end Token

end Tacit.Formula
