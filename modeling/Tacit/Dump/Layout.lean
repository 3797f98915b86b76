import Tacit.Dump.Token
import Tacit.Text.Cluster

/-!
# Layout of a dump

Where the blanks of a token sequence go. Lines are indented by the brackets that are open, tokens
within a line are set apart by fixed rules, and the equals signs of neighbouring lines are aligned.
-/

namespace Tacit.Dump

/-- A token with the blanks in front of it. -/
structure Placed where
  blanks : Nat
  token : Token
deriving DecidableEq

/-- How many brackets a token opens, less those it closes. -/
def Token.depth : Token → Int
  | openBracket | openParen | openBrace => 1
  | closeBracket | closeParen | closeBrace => -1
  | _ => 0

/-- The brackets that tokens open on balance. -/
def netDepth (ts : List Token) : Int := (ts.map Token.depth).foldr (· + ·) 0

/-- Whether a blank stands between two neighbouring tokens. -/
def spaced (a b : Token) : Bool :=
  match a, b with
  | _, .newline => false
  | .name _, .openParen => false
  | _, .comma => false
  | .comma, _ => true
  | .quoted _, _ | .openQuote, _ | _, .quoted _ | _, .closeQuote => false
  | .name _, .openBracket | .number _, .openBracket => false
  | .closeBracket, .openBracket | .closeParen, .openBracket | .closeBrace, .openBracket => false
  | .openBrace, .closeBrace => false
  | .openBrace, _ | _, .closeBrace => true
  | .openBracket, _ | .openParen, _ => false
  | _, .closeBracket | _, .closeParen => false
  | _, _ => true

/-- Tokens within a line, the first one without blanks. -/
def placeAfter (before : Token) : List Token → List Placed
  | [] => []
  | t :: ts => ⟨if spaced before t then 1 else 0, t⟩ :: placeAfter t ts

/-- The tokens of a line with `blanks` in front. -/
def place (blanks : Nat) : List Token → List Placed
  | [] => []
  | t :: ts => ⟨blanks, t⟩ :: placeAfter t ts

/-- The lines of a token sequence, each up to and with its newline. -/
def lines : List Token → List (List Token)
  | [] => []
  | t :: ts =>
    if t = .newline then [t] :: lines ts
    else match lines ts with
      | [] => [[t]]
      | l :: ls => (t :: l) :: ls

/-- A line that may be split at its equals sign. -/
structure Line where
  lead : List Token
  /-- From the equals sign on, if what follows it is complete. -/
  assign : List Token

/-- Splits a line at its first equals sign, unless the line starts with it or brackets stay open
after it. -/
def splitAssign (ts : List Token) : Line :=
  match ts with
  | [] => ⟨[], []⟩
  | t :: rest =>
    let front := rest.takeWhile (· ≠ .equal)
    let back := rest.dropWhile (· ≠ .equal)
    if netDepth back = 0 then ⟨t :: front, back⟩ else ⟨ts, []⟩

/-- The open brackets of earlier lines after `closed` of them are closed, innermost first. -/
def closeBrackets : (closed : Nat) → (levels : List Nat) → List Nat
  | _, [] => []
  | closed, n :: ns =>
    if closed = 0 then n :: ns
    else if n < closed then closeBrackets (closed - n) ns
    else if closed < n then (n - closed) :: ns
    else ns

/-- The indentation of each line. `levels` holds, innermost first, how many brackets each earlier
line left open. -/
def indents (levels : List Nat) : List (List Token) → List Nat
  | [] => []
  | l :: ls =>
    let net := netDepth l
    if 0 < net then 2 * levels.length :: indents (net.toNat :: levels) ls
    else
      let left := closeBrackets (-net).toNat levels
      2 * left.length :: indents left ls

/-- The width of placed tokens in user-perceived characters. -/
def width (ts : List Placed) : Nat :=
  (ts.map fun t => t.blanks + Text.clusters (t.token.text.toList.map .char)).foldr (· + ·) 0

/-- A line whose lead is placed. -/
structure LaidLine where
  lead : List Placed
  assign : List Token

/-- The widest lead of the lines up to the first one without an assignment. -/
def runWidth : List LaidLine → Nat
  | [] => 0
  | l :: ls => if l.assign.isEmpty then 0 else max (width l.lead) (runWidth ls)

/-- Places the assignments; `column` is the widest lead of the current run, if one has begun. -/
def align (column : Option Nat) : List LaidLine → List (List Placed)
  | [] => []
  | l :: ls =>
    if l.assign.isEmpty then l.lead :: align none ls
    else
      let c := column.getD (runWidth (l :: ls))
      (l.lead ++ place (c - width l.lead + 1) l.assign) :: align (some c) ls

/-- The token sequence with its blanks. -/
def layout (ts : List Token) : List Placed :=
  let ls := lines ts
  let laid := (ls.zip (indents [] ls)).map fun (l, n) =>
    let split := splitAssign l
    (⟨place n split.lead, split.assign⟩ : LaidLine)
  (align none laid).flatten

/-- Placed tokens as text. -/
def render (ts : List Placed) : String :=
  String.join (ts.map fun t => String.ofList (List.replicate t.blanks ' ') ++ t.token.text)

end Tacit.Dump
