import Tacit.Text.Basic
import Tacit.Text.Composition

/-!
# Composed form

Texts that look the same are brought to one form: characters are taken apart, marks are put in
the order of their classes, and what can be put together is put together. Before that, joiners
divide runs of marks that are too long.
-/

namespace Tacit.Text

/-! ### Hangul syllables -/

def syllableBase : Nat := 0xAC00
def leadBase : Nat := 0x1100
def vowelBase : Nat := 0x1161
def trailBase : Nat := 0x11A7

/-- Whether a code point is a Hangul syllable. -/
def isSyllable (n : Nat) : Bool := syllableBase ≤ n && n < syllableBase + 11172

/-- The letters of a syllable. -/
def syllableParts (n : Nat) : List Nat :=
  let i := n - syllableBase
  let front := [leadBase + i / 588, vowelBase + i % 588 / 28]
  if i % 28 = 0 then front else front ++ [trailBase + i % 28]

/-- The syllable of a lead letter and a vowel, or of a syllable and a trail letter. -/
def syllableOf? (a b : Nat) : Option Nat :=
  if leadBase ≤ a && a < leadBase + 19 && vowelBase ≤ b && b < vowelBase + 21 then
    some (syllableBase + ((a - leadBase) * 21 + (b - vowelBase)) * 28)
  else if isSyllable a && (a - syllableBase) % 28 = 0 && trailBase < b && b < trailBase + 28 then
    some (a + (b - trailBase))
  else none

/-! ### Taking apart -/

/-- What a character comes apart into in one step. -/
def splitOnce? (n : Nat) : Option (List Nat) :=
  if n < 0xC0 then none
  else if isSyllable n then some (syllableParts n)
  else match composites.find? (·.1 = n) with
    | some (_, a, b) => some [a, b]
    | none =>
      match splitOnly.find? (·.1 = n) with
      | some (_, a, b) => some [a, b]
      | none => ((singletons.lookup n).orElse fun _ => singletonIdeographs.lookup n).map ([·])

/-- What a character comes apart into; no chain of steps is longer than `fuel`. -/
def splitAll : (fuel : Nat) → Nat → List Nat
  | 0, n => [n]
  | fuel + 1, n =>
    match splitOnce? n with
    | none => [n]
    | some parts => parts.flatMap (splitAll fuel)

/-! ### Order of marks -/

/-- The combining class of a code point; zero for what is no mark. -/
def combiningClass (n : Nat) : Nat :=
  if n < 0x300 then 0
  else ((combiningClasses.find? fun (lo, hi, _) => lo ≤ n && n ≤ hi).map (·.2.2)).getD 0

/-- Marks with their classes in the order of their classes, equal ones as they come. -/
def sortMarks (marks : List (Nat × Nat)) : List (Nat × Nat) :=
  marks.mergeSort fun a b => a.2 ≤ b.2

/-- Puts every run of marks in order; `pending` holds the current run. -/
def orderMarks (pending : List (Nat × Nat)) : List Nat → List (Nat × Nat)
  | [] => sortMarks pending
  | n :: ns =>
    let c := combiningClass n
    if c = 0 then sortMarks pending ++ (n, 0) :: orderMarks [] ns
    else orderMarks (pending ++ [(n, c)]) ns

/-! ### Putting together -/

/-- The character that two characters make. -/
def joined? (a b : Nat) : Option Nat :=
  (syllableOf? a b).orElse fun _ => (composites.find? fun (_, x, y) => x = a && y = b).map (·.1)

/-- Puts together a start, the marks after it that stay, and what follows. A mark reaches the start
if no mark of the same or a higher class stands between. -/
def join (start : Option Nat) (marks : List (Nat × Nat)) : List (Nat × Nat) → List Nat
  | [] => start.toList ++ marks.map (·.1)
  | (n, c) :: rest =>
    let reaches := marks.all (·.2 < c)
    match start.bind fun s => if reaches then joined? s n else none with
    | some s => join (some s) marks rest
    | none =>
      if c = 0 then start.toList ++ marks.map (·.1) ++ join (some n) [] rest
      else join start (marks ++ [(n, c)]) rest

/-! ### Long runs of marks -/

/-- Whether a character can be put together with one before it. -/
def joinsBackward (n : Nat) : Bool :=
  (vowelBase ≤ n && n < vowelBase + 21) || (trailBase < n && n < trailBase + 28) ||
    composites.any (·.2.2 = n)

/-- Whether a character counts as a mark: it has a combining class, or it can be put together with
one before it. -/
def isMark (n : Nat) : Bool := combiningClass n ≠ 0 || joinsBackward n

/-- With how many marks a character starts and ends when it is taken apart as far as it goes. -/
def markCount (n : Nat) : Nat × Nat :=
  if n < 0xA0 then (0, 0)
  else match markCounts.find? fun (lo, hi, _, _) => lo ≤ n && n ≤ hi with
    | some (_, _, front, back) => (front, back)
    | none =>
      let parts := splitAll 8 n
      ((parts.takeWhile isMark).length, (parts.reverse.takeWhile isMark).length)

/-- The longest run of marks that is left whole. -/
def longestRun : Nat := 30

/-- The combining grapheme joiner, which marks do not cross. -/
def divider : Nat := 0x34F

/-- Puts a divider in front of every mark that would make a run too long; `count` marks came just
before. -/
def divideRuns (count : Nat) : List Nat → List Nat
  | [] => []
  | n :: ns =>
    let (front, back) := markCount n
    if front = 0 then n :: divideRuns back ns
    else if longestRun < count + front then divider :: n :: divideRuns front ns
    else n :: divideRuns (count + front) ns

/-! ### Texts -/

/-- The composed form of characters. -/
def composeChars (cs : List Char) : List Char :=
  let parts := (divideRuns 0 (cs.map Char.toNat)).flatMap (splitAll 8)
  (join none [] (orderMarks [] parts)).map Char.ofNat

/-- The composed form of what comes before a stray byte, the byte, and so on; `pending` holds the
characters read since the last stray byte, the latest first. -/
def composeRunes (pending : List Char) : List Rune → Bytes
  | [] => (composeChars pending.reverse).flatMap Bytes.ofChar
  | .char c :: rs => composeRunes (c :: pending) rs
  | .stray b :: rs =>
    (composeChars pending.reverse).flatMap Bytes.ofChar ++ b :: composeRunes [] rs

/-- The composed form. No character below U+0300 changes or takes part in a change alone, and
stray bytes neither change nor let marks pass. -/
def compose (s : Bytes) : Bytes :=
  let rs := s.runes
  if rs.all fun r => r.toChar.toNat < 0x300 then s else composeRunes [] rs

end Tacit.Text
