import Tacit.Formula.Basic
import Tacit.Formula.Token
import Tacit.Text.Cluster
import Tacit.Text.Normal

/-!
# Reading formulas

`Formula.ofText?` reads a whole text as a formula. A conditional binds weakest, then the operators
in six levels from `||` to `* / %`, all of which group to the left; an operator before its operand
binds tighter, and access to parts tightest. Ends of lines matter only directly between the braces
of an object, where they divide entries.
-/

namespace Tacit.Formula

/-- The tokens without ends of lines at their start, unless these matter. -/
def skip (lines : Bool) (ts : List Token) : List Token :=
  if lines then ts else ts.dropWhile (· = .endOfLine)

/-- The operator of a level that a token is. -/
def operator? : (level : Nat) → Token → Option BinaryOp
  | 0, .sign .or => some .or
  | 1, .sign .and => some .and
  | 2, .sign .equal => some .equal
  | 2, .sign .notEqual => some .notEqual
  | 3, .sign .greater => some .greater
  | 3, .sign .greaterEqual => some .greaterEqual
  | 3, .sign .less => some .less
  | 3, .sign .lessEqual => some .lessEqual
  | 4, .sign .plus => some .add
  | 4, .sign .minus => some .subtract
  | 5, .sign .star => some .multiply
  | 5, .sign .slash => some .divide
  | 5, .sign .percent => some .remainder
  | _, _ => none

/-- The number of levels of operators. -/
def levels : Nat := 6

/-- The formula of a number. -/
def number? (digits : String) : Option Formula :=
  (Number.Big.read? digits).map fun n => .literal (.number n)

/-- The formula of a word that stands alone. -/
def word : String → Formula
  | "true" => .literal (.bool true)
  | "false" => .literal (.bool false)
  | "null" => .literal (.null .any)
  | s => .name s

/-- Whether the formula goes from a name to its parts by literal steps. -/
def isPath : Formula → Bool
  | .name _ => true
  | .attribute x _ | .index x (.literal _) => isPath x
  | _ => false

/-- The key of an entry of which `ts` are the tokens from its start. A word alone is a text; a word
with access to its parts could mean either and has no value. -/
def entryKey (ts : List Token) (key : Formula) : Formula :=
  match ts, key with
  | .name s :: .sign .assign :: _, _ | .name s :: .sign .colon :: _, _ =>
    .literal (.string (Text.compose (.ofString s)))
  | .name _ :: _, key => if isPath key then .undefined else key
  | _, key => key

/-! ### Texts -/

/-- A part of a text. -/
inductive Part where
  | text (s : Bytes)
  | fill (x : Formula)
  /-- What follows up to the end of the alternative is there if the condition holds. -/
  | ifStart (condition : Formula)
  | orElse
  | ifEnd
  /-- What follows up to the end of the loop is there for every element. -/
  | forStart (key : Option String) (item : String) (source : Formula)
  | forEnd

/-- Whether tokens start with a formula or a directive that asks for the blanks before it to go. -/
def trimsBefore : List Token → Bool
  | .openFill trim :: _ | .openControl trim :: _ => trim
  | _ => false

/-- The parts with literal texts joined. -/
def meld : List Part → List Part
  | [] => []
  | .text s :: ps =>
    match meld ps with
    | .text t :: qs => .text (s ++ t) :: qs
    | qs => .text s :: qs
  | p :: ps => p :: meld ps

/-- Whether a part ends a line. -/
def Part.endsLine : Part → Bool
  | .text s => s.getLast? = some 10
  | _ => false

/-- How many clusters of blanks a line starts with, of which the part is the first; a line of blanks
alone does not count. -/
def Part.indent? : Part → Option Nat
  | .text s =>
    if Text.isBlankText s && (Part.text s).endsLine then none
    else some (Text.clusters (s.runes.takeWhile Text.isBlankRune))
  | _ => some 0

/-- The least indentation of the lines that parts make up. -/
def leastIndent? (lineStart : Bool) : List Part → Option Nat
  | [] => none
  | p :: ps =>
    let rest := leastIndent? p.endsLine ps
    match lineStart, p.indent? with
    | true, some n => some (min n (rest.getD n))
    | _, _ => rest

/-- The parts with `n` clusters gone from the start of every line that does not consist of blanks
alone. -/
def dropIndent (n : Nat) (lineStart : Bool) : List Part → List Part
  | [] => []
  | .text s :: ps =>
    let rest := dropIndent n (Part.text s).endsLine ps
    if lineStart && (Part.text s).indent?.isSome then
      .text (.ofRunes (Text.dropClusters n s.runes)) :: rest
    else .text s :: rest
  | p :: ps => p :: dropIndent n false ps

/-- The parts of a block without the blanks that all its lines start with. -/
def flushLines (ps : List Part) : List Part := dropIndent ((leastIndent? true ps).getD 0) true ps

/-- A text as a formula. -/
def literalText (s : Bytes) : Formula := .literal (.string (Text.compose s))

/-- The text that formulas make up. -/
def textOf : List Formula → Formula
  | [] => literalText []
  | xs => .template xs

/-- The formulas of parts up to the end of the text or of the directive that they are in, and the
parts from there. At most `fuel` nested steps are taken. -/
def assemble : (fuel : Nat) → List Part → Option (List Formula × List Part)
  | 0, _ => none
  | fuel + 1, ps =>
    match ps with
    | .text s :: ps => do
      let (xs, ps) ← assemble fuel ps
      return (literalText s :: xs, ps)
    | .fill x :: ps => do
      let (xs, ps) ← assemble fuel ps
      return (x :: xs, ps)
    | .ifStart c :: ps => do
      let (ts, ps) ← assemble fuel ps
      let (fs, ps) ← match ps with
        | .orElse :: ps => assemble fuel ps
        | ps => some ([], ps)
      let .ifEnd :: ps := ps | none
      let (xs, ps) ← assemble fuel ps
      return (.conditional c (textOf ts) (textOf fs) :: xs, ps)
    | .forStart key item source :: ps => do
      let (body, ps) ← assemble fuel ps
      let .forEnd :: ps := ps | none
      let (xs, ps) ← assemble fuel ps
      return (.join (.tupleFor key item source (textOf body) (.literal (.bool true))) :: xs, ps)
    | ps => some ([], ps)

/-- The formula of a text. A formula with nothing around it is itself. -/
def quoted? (ps : List Part) : Option Formula :=
  match meld ps with
  | [] => some (literalText [])
  | [.text s] => some (literalText s)
  | [.fill x] => some (.parens x)
  | ps =>
    match assemble (ps.length + 1) ps with
    | some (xs, []) => some (.template xs)
    | _ => none

/-- The names that a comprehension or a loop gives values to, and the tokens after the word that
follows them. -/
def loopNames? (ts : List Token) : Option (Option String × String × List Token) := do
  let .name first :: ts := skip false ts | none
  let (key, item, ts) ← match skip false ts with
    | .sign .comma :: ts =>
      match skip false ts with
      | .name second :: ts => some (some first, second, ts)
      | _ => none
    | _ => some (none, first, ts)
  let .name "in" :: ts := skip false ts | none
  return (key, item, ts)

/-! ### Formulas -/

mutual
/-- Reads a formula. Like all that follow, the function takes at most `fuel` nested steps and leaves
the tokens after what it has read; `lines` says whether ends of lines matter. -/
def formula : (fuel : Nat) → (lines : Bool) → List Token → Option (Formula × List Token)
  | 0, _, _ => none
  | fuel + 1, lines, ts => do
    let (c, ts) ← operation fuel lines 0 ts
    match skip lines ts with
    | .sign .question :: ts =>
      let (t, ts) ← formula fuel lines ts
      let .sign .colon :: ts := skip lines ts | none
      let (f, ts) ← formula fuel lines ts
      return (.conditional c t f, ts)
    | _ => return (c, ts)
/-- Reads operators of a level and above. -/
def operation : (fuel : Nat) → (lines : Bool) → (level : Nat) → List Token →
    Option (Formula × List Token)
  | 0, _, _, _ => none
  | fuel + 1, lines, level, ts => do
    if level < levels then
      let (x, ts) ← operation fuel lines (level + 1) ts
      operationFrom fuel lines level x ts
    else
      let (x, ts) ← term fuel lines ts
      access fuel lines x ts
/-- Goes on after the first operand of operators of a level. -/
def operationFrom : (fuel : Nat) → (lines : Bool) → (level : Nat) → Formula → List Token →
    Option (Formula × List Token)
  | 0, _, _, _, _ => none
  | fuel + 1, lines, level, x, ts =>
    match skip lines ts with
    | t :: rest =>
      match operator? level t with
      | some op => do
        let (y, ts) ← operation fuel lines (level + 1) rest
        operationFrom fuel lines level (.binary op x y) ts
      | none => some (x, ts)
    | [] => some (x, ts)
/-- Goes on after a formula with access to its parts. -/
def access : (fuel : Nat) → (lines : Bool) → Formula → List Token →
    Option (Formula × List Token)
  | 0, _, _, _ => none
  | fuel + 1, lines, x, ts =>
    match skip lines ts with
    | .sign .dot :: rest =>
      match skip lines rest with
      | .name s :: ts => access fuel lines (.attribute x s) ts
      | .number s :: ts => do
        if s.contains '.' then none
        else access fuel lines (.index x (← number? s)) ts
      | .sign .star :: ts => do
        let (each, ts) ← attributes fuel lines .element ts
        access fuel lines (.splat x each) ts
      | _ => none
    | .sign .openBracket :: rest =>
      match skip lines rest with
      | .sign .star :: ts => do
        let .sign .closeBracket :: ts := skip lines ts | none
        let (each, ts) ← access fuel lines .element ts
        return (.splat x each, ts)
      | _ => do
        let (key, ts) ← formula fuel false rest
        let .sign .closeBracket :: ts := skip false ts | none
        access fuel lines (.index x key) ts
    | _ => some (x, ts)
/-- Goes on after a formula with access by names and numbers only. -/
def attributes : (fuel : Nat) → (lines : Bool) → Formula → List Token →
    Option (Formula × List Token)
  | 0, _, _, _ => none
  | fuel + 1, lines, x, ts =>
    match skip lines ts with
    | .sign .dot :: rest =>
      match skip lines rest with
      | .name s :: ts => attributes fuel lines (.attribute x s) ts
      | .number s :: ts => do
        if s.contains '.' then none
        else attributes fuel lines (.index x (← number? s)) ts
      | _ => none
    | _ => some (x, ts)
/-- Reads a formula that is no operation. -/
def term : (fuel : Nat) → (lines : Bool) → List Token → Option (Formula × List Token)
  | 0, _, _ => none
  | fuel + 1, lines, ts =>
    match skip lines ts with
    | .number s :: ts => (number? s).map (·, ts)
    | .name s :: ts =>
      match skip lines ts with
      | .sign .openParen :: _ | .sign .doubleColon :: _ => callFrom fuel lines s ts
      | _ => some (word s, ts)
    | .openQuote :: ts => do
      let (ps, ts) ← parts fuel .closeQuote false ts
      return (← quoted? ps, ts)
    | .openBlock flush :: ts => do
      let (ps, ts) ← parts fuel .closeBlock false ts
      return (← quoted? (if flush then flushLines ps else ps), ts)
    | .sign .openParen :: ts => do
      let (x, ts) ← formula fuel false ts
      let .sign .closeParen :: ts := skip false ts | none
      return (.parens x, ts)
    | .sign .minus :: ts => do
      let (x, ts) ← operation fuel lines levels ts
      return (.unary .negate x, ts)
    | .sign .bang :: ts => do
      let (x, ts) ← operation fuel lines levels ts
      return (.unary .not x, ts)
    | .sign .openBracket :: ts =>
      match skip false ts with
      | .name "for" :: ts => comprehension fuel false ts
      | _ => do
        let (xs, expand, ts) ← items fuel .closeBracket ts
        if expand then none else return (.tuple xs, ts)
    | .sign .openBrace :: ts =>
      match skip false ts with
      | .name "for" :: ts => comprehension fuel true ts
      | _ => do
        let (es, ts) ← entries fuel ts
        return (.object es, ts)
    | _ => none
/-- Reads formulas with commas between them up to a closing sign, before which an ellipsis can
stand. -/
def items : (fuel : Nat) → (close : Sign) → List Token →
    Option (List Formula × Bool × List Token)
  | 0, _, _ => none
  | fuel + 1, close, ts =>
    match skip false ts with
    | [] => none
    | t :: rest =>
      if t = .sign close then some ([], false, rest)
      else do
        let (x, ts) ← formula fuel false (t :: rest)
        match skip false ts with
        | .sign .comma :: ts =>
          let (xs, expand, ts) ← items fuel close ts
          return (x :: xs, expand, ts)
        | .sign .ellipsis :: ts =>
          let t :: ts := skip false ts | none
          if t = .sign close then return ([x], true, ts) else none
        | t :: ts => if t = .sign close then return ([x], false, ts) else none
        | [] => none
/-- Reads the entries of an object up to its closing brace. -/
def entries : (fuel : Nat) → List Token → Option (List (Formula × Formula) × List Token)
  | 0, _ => none
  | fuel + 1, ts =>
    match ts with
    | .endOfLine :: ts => entries fuel ts
    | .sign .closeBrace :: ts => some ([], ts)
    | ts => do
      let (key, rest) ← formula fuel true ts
      let key := entryKey ts key
      let rest ← match rest with
        | .sign .assign :: rest | .sign .colon :: rest => some rest
        | _ => none
      let (x, rest) ← formula fuel true rest
      match rest with
      | .sign .closeBrace :: ts => return ([(key, x)], ts)
      | .sign .comma :: ts | .endOfLine :: ts =>
        let (es, ts) ← entries fuel ts
        return ((key, x) :: es, ts)
      | _ => none
/-- Reads a call after the first word of its name. -/
def callFrom : (fuel : Nat) → (lines : Bool) → (name : String) → List Token →
    Option (Formula × List Token)
  | 0, _, _, _ => none
  | fuel + 1, lines, f, ts =>
    match skip lines ts with
    | .sign .openParen :: ts => do
      let (xs, expand, ts) ← items fuel .closeParen ts
      return (.call f xs expand, ts)
    | .sign .doubleColon :: ts =>
      match skip lines ts with
      | .name s :: ts => callFrom fuel lines (f ++ "::" ++ s) ts
      | _ => none
    | _ => none
/-- Reads the parts of a text up to the token that closes it. If `trim` is set, the blanks go that
it starts with. -/
def parts : (fuel : Nat) → (close : Token) → (trim : Bool) → List Token →
    Option (List Part × List Token)
  | 0, _, _, _ => none
  | fuel + 1, close, trim, ts =>
    match ts with
    | .text s :: ts => do
      let s := if trim then Text.trimStart s else s
      let s := if trimsBefore ts then Text.trimEnd s else s
      let (ps, ts) ← parts fuel close false ts
      return (.text s :: ps, ts)
    | .openFill _ :: ts => do
      let (x, ts) ← formula fuel false ts
      let .closeFill after :: ts := skip false ts | none
      let (ps, ts) ← parts fuel close after ts
      return (.fill x :: ps, ts)
    | .openControl _ :: ts => do
      let (p, ts) ← directive fuel (skip false ts)
      let .closeFill after :: ts := skip false ts | none
      let (ps, ts) ← parts fuel close after ts
      return (p :: ps, ts)
    | t :: ts => if t = close then some ([], ts) else none
    | [] => none
/-- Reads a directive. -/
def directive : (fuel : Nat) → List Token → Option (Part × List Token)
  | 0, _ => none
  | fuel + 1, ts =>
    match ts with
    | .name "if" :: ts => (formula fuel false ts).map fun (c, ts) => (.ifStart c, ts)
    | .name "else" :: ts => some (.orElse, ts)
    | .name "endif" :: ts => some (.ifEnd, ts)
    | .name "for" :: ts => do
      let (key, item, ts) ← loopNames? ts
      let (source, ts) ← formula fuel false ts
      return (.forStart key item source, ts)
    | .name "endfor" :: ts => some (.forEnd, ts)
    | _ => none
/-- Reads a comprehension after its first word, up to the closing bracket or brace. -/
def comprehension : (fuel : Nat) → (keyed : Bool) → List Token → Option (Formula × List Token)
  | 0, _, _ => none
  | fuel + 1, keyed, ts => do
    let (key, item, ts) ← loopNames? ts
    let (source, ts) ← formula fuel false ts
    let .sign .colon :: ts := skip false ts | none
    let (x, ts) ← formula fuel false ts
    let (label, body, ts) ← match skip false ts with
      | .sign .arrow :: ts => (formula fuel false ts).map fun (y, ts) => (some x, y, ts)
      | _ => some (none, x, ts)
    let (group, ts) := match skip false ts with
      | .sign .ellipsis :: ts => (true, ts)
      | _ => (false, ts)
    let (condition, ts) ← match skip false ts with
      | .name "if" :: ts => formula fuel false ts
      | _ => some (.literal (.bool true), ts)
    match keyed, label, group, skip false ts with
    | false, none, false, .sign .closeBracket :: ts =>
      return (.tupleFor key item source body condition, ts)
    | true, some label, group, .sign .closeBrace :: ts =>
      return (.objectFor key item source label body condition group, ts)
    | _, _, _, _ => none
end

/-- The number of nested steps that reading some tokens takes at most. -/
def fuelFor (ts : List Token) : Nat := 16 * (ts.length + 2)

/-- The formula that tokens make up. -/
def ofTokens? (ts : List Token) : Option Formula := do
  let (x, ts) ← formula (fuelFor ts) false ts
  if (skip false ts).isEmpty then some x else none

/-- The formula that a text is. -/
def ofText? (s : Bytes) : Option Formula := ofTokens? (Token.ofText s)

end Tacit.Formula
