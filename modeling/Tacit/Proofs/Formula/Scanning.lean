import Mathlib.Data.List.TakeWhile
import Tacit.Dump.Token
import Tacit.Formula.Token
import Tacit.Proofs.Text.Encoding

/-!
# Scanning texts

`Scans cs us` says that the characters `cs` have the tokens `us`, with more steps than there are
characters. What a token is written as is put in front of a text by one lemma for each kind of
token.

* `Scans.blanks`, `Scans.mark`: blanks and the signs of calls and lists.
* `Scans.name`, `Scans.number`: an identifier and the digits of a number, in front of a text that
  goes on with neither.
* `Scans.quoted`: a text between quotes, with its escapes.
* `ofText_ofString`: a whole text has the tokens of what follows its byte order mark.
-/

namespace Tacit.Formula.Token

/-- The characters have the tokens. -/
def Scans (cs : List Char) (us : List Token) : Prop :=
  ∀ fuel, cs.length < fuel → scan fuel [] (cs.map .char) = us

/-- Neither a name nor a number goes on with the text. -/
def Breaks (cs : List Char) : Prop :=
  ∀ c ∈ cs.head?, Text.isIdentPart c = false ∧ isNumberChar c = false

variable {c : Char} {cs rest : List Char} {us : List Token}

/-- There is always a first step. -/
theorem scans_of_step (h : ∀ fuel, cs.length ≤ fuel → scan (fuel + 1) [] (cs.map .char) = us) :
    Scans cs us := by
  intro fuel hfuel
  cases fuel with
  | zero => omega
  | succ fuel => exact h fuel (by omega)

theorem scans_nil : Scans [] [] := scans_of_step fun fuel _ => by simp [scan]

/-! ### Signs -/

/-- A character in front that takes one step. -/
theorem Scans.step (h : Scans cs us) (vs : List Token)
    (hstep : ∀ fuel, scan (fuel + 1) [] (.char c :: cs.map .char) =
      vs ++ scan fuel [] (cs.map .char)) : Scans (c :: cs) (vs ++ us) := by
  refine scans_of_step fun fuel hfuel => ?_
  rw [List.length_cons] at hfuel
  rw [List.map_cons, hstep, h fuel hfuel]

theorem Scans.blanks (h : Scans cs us) (n : Nat) : Scans (List.replicate n ' ' ++ cs) us := by
  induction n with
  | zero => exact h
  | succ n ih => exact ih.step [] fun fuel => by simp [scan]

/-- The signs of calls, lists and negative numbers. -/
def marks : List (Char × Sign) :=
  [('(', .openParen), (')', .closeParen), ('[', .openBracket), (']', .closeBracket), (',', .comma),
    ('-', .minus)]

theorem Scans.mark {s : Sign} (h : Scans cs us) (hc : (c, s) ∈ marks) :
    Scans (c :: cs) (.sign s :: us) := by
  refine h.step [.sign s] fun fuel => ?_
  simp only [marks, List.mem_cons, Prod.mk.injEq, List.not_mem_nil, or_false] at hc
  rcases hc with ⟨rfl, rfl⟩ | ⟨rfl, rfl⟩ | ⟨rfl, rfl⟩ | ⟨rfl, rfl⟩ | ⟨rfl, rfl⟩ | ⟨rfl, rfl⟩ <;>
    simp [scan, Text.isIdentStart, blockStart?, shown, Rune.toChar, sign?, longSign?, shortSign?]

/-! ### Names and numbers -/

/-- The characters that the scanner looks for before it looks for numbers and names. -/
def dividers : List Char := [' ', '\t', '\n', '\r', '#', '/', '"', '\x7b', '\x7d', '~']

theorem notMem_dividers {p : Char → Bool} (hp : dividers.all (fun d => !p d) = true)
    (hc : p c = true) : c ∉ dividers := by
  intro hmem
  have hnot := List.all_eq_true.mp hp c hmem
  rw [hc] at hnot
  cases hnot

theorem isIdentStart_of_isDigit (h : c.isDigit = true) : Text.isIdentStart c = false :=
  forall_ascii (fun c => c.isDigit = true → Text.isIdentStart c = false) (by decide)
    (isDigit_ascii h) h

theorem scan_digit (h : c.isDigit = true) (fuel : Nat) (rs : List Rune) :
    scan (fuel + 1) [] (.char c :: rs) =
      let number := numberText (charsWhile isNumberChar (.char c :: rs))
      .number (String.ofList number) :: scan fuel [] ((.char c :: rs).drop number.length) := by
  have hc : c ∉ dividers := notMem_dividers (by decide) h
  simp only [dividers, List.mem_cons, not_or] at hc
  simp [scan, h, hc]

theorem scan_identStart (h : Text.isIdentStart c = true) (fuel : Nat) (rs : List Rune) :
    scan (fuel + 1) [] (.char c :: rs) =
      let name := c :: charsWhile Text.isIdentPart rs
      .name (String.ofList name) :: scan fuel [] ((.char c :: rs).drop name.length) := by
  have hdigit : c.isDigit = false := by
    cases hd : c.isDigit with
    | false => rfl
    | true =>
        rw [isIdentStart_of_isDigit hd] at h
        cases h
  have hc : c ∉ dividers := notMem_dividers (by decide) h
  simp only [dividers, List.mem_cons, not_or] at hc
  simp [scan, h, hdigit, hc]

/-- Reading as long as a condition holds stops where it ceases to. -/
theorem charsWhile_append {p : Char → Bool} (hcs : ∀ c ∈ cs, p c = true)
    (hrest : ∀ c ∈ rest.head?, p c = false) :
    charsWhile p ((cs ++ rest).map .char) = cs := by
  induction cs with
  | nil =>
      cases rest with
      | nil => rfl
      | cons c rest => simp [charsWhile, hrest c rfl]
  | cons c cs ih =>
      have hc := hcs c List.mem_cons_self
      rw [List.cons_append, List.map_cons, charsWhile, if_pos hc,
        ih fun c' hc' => hcs c' (List.mem_cons_of_mem _ hc')]

theorem drop_chars (cs rest : List Char) :
    ((cs ++ rest).map Rune.char).drop cs.length = rest.map .char := by
  rw [← List.map_drop, List.drop_left]

theorem Scans.name (h : Scans rest us) (hbreak : Breaks rest) (hcs : Text.isIdentChars cs = true) :
    Scans (cs ++ rest) (.name (String.ofList cs) :: us) := by
  cases cs with
  | nil => cases hcs
  | cons c cs =>
      obtain ⟨hstart, hparts⟩ := Bool.and_eq_true_iff.mp hcs
      refine scans_of_step fun fuel hfuel => ?_
      simp only [List.cons_append, List.length_cons, List.length_append] at hfuel
      have hname := charsWhile_append (List.all_eq_true.mp hparts) fun c hc => (hbreak c hc).1
      rw [List.cons_append, List.map_cons, scan_identStart hstart, hname]
      simp only [List.length_cons, List.drop_succ_cons, drop_chars]
      rw [h fuel (by omega)]

theorem numberRun_digits (hcs : ∀ c ∈ cs, c.isDigit = true) : numberRun false cs = cs := by
  induction cs with
  | nil => rfl
  | cons c cs ih =>
      have hc := hcs c List.mem_cons_self
      rw [numberRun, if_pos (by rw [hc, Bool.true_or]),
        ih fun c' hc' => hcs c' (List.mem_cons_of_mem _ hc')]

theorem numberText_digits (hcs : ∀ c ∈ cs, c.isDigit = true) : numberText cs = cs := by
  -- a number may not end in a point, and digits do not
  have hpoint : cs.reverse.dropWhile (· = '.') = cs.reverse := by
    refine List.dropWhile_eq_self_iff.mpr fun hlen => ?_
    have hdigit := hcs _ (List.mem_reverse.mp (List.getElem_mem hlen))
    intro hp
    rw [of_decide_eq_true hp] at hdigit
    cases hdigit
  rw [numberText, numberRun_digits hcs, hpoint, List.reverse_reverse]

theorem Scans.digits (h : Scans rest us) (hbreak : Breaks rest) (hne : cs ≠ [])
    (hcs : ∀ c ∈ cs, c.isDigit = true) :
    Scans (cs ++ rest) (.number (String.ofList cs) :: us) := by
  cases cs with
  | nil => exact absurd rfl hne
  | cons c cs =>
      refine scans_of_step fun fuel hfuel => ?_
      simp only [List.cons_append, List.length_cons, List.length_append] at hfuel
      have hchars : ∀ d ∈ c :: cs, isNumberChar d = true := by
        intro d hd
        simp [isNumberChar, hcs d hd]
      have hnumber := charsWhile_append hchars fun c hc => (hbreak c hc).2
      rw [List.cons_append, List.map_cons, scan_digit (hcs c List.mem_cons_self),
        ← List.map_cons, ← List.cons_append, hnumber, numberText_digits hcs]
      simp only [drop_chars]
      rw [h fuel (by omega)]

theorem Scans.number (h : Scans rest us) (hbreak : Breaks rest) (n : Nat) :
    Scans ((Nat.repr n).toList ++ rest) (.number (Nat.repr n) :: us) := by
  have hdigits : ∀ c ∈ Nat.toDigits 10 n, c.isDigit = true := fun c hc =>
    Nat.isDigit_of_mem_toDigits (by decide) (by decide) hc
  have hscans := h.digits hbreak (by simp) hdigits
  rwa [← Nat.toList_repr, String.ofList_toList] at hscans

/-! ### Quoted texts -/

/-- Plain characters as they stand between quotes. -/
def escapes (cs : List Char) : List Char := cs.flatMap fun c => (Dump.escapedChar c).toList

theorem quotedPiece_escape {letter : Char} {rs : List Rune}
    (h : escape? (shown 9 (.char letter :: rs)) = some (c, 1)) :
    quotedPiece (.char '\\' :: .char letter :: rs) = (.text (.ofChar c), rs) := by
  simp [quotedPiece, h]

/-- Hexadecimal digits are read as the number that they were written for. -/
theorem number?_hex (w n : Nat) :
    Text.number? 16 (Text.hex w n).toList = some (n % Nat.pow 16 w) := by
  induction w generalizing n with
  | zero =>
      rw [show Nat.pow 16 0 = 1 from rfl, Nat.mod_one]
      rfl
  | succ w ih =>
      have hdigit : ∀ d < 16, Text.hexValue? (Text.hexDigit d) = some d := by decide
      have hlast : n % 16 < 16 := Nat.mod_lt n (by decide)
      have hpow : Nat.pow 16 (w + 1) = 16 * Nat.pow 16 w := Nat.mul_comm _ _
      rw [Text.hex, String.toList_append, String.toList_singleton, Text.number?,
        List.foldlM_append, ← Text.number?, ih, hpow, Nat.mod_mul, Nat.add_comm]
      simp [hdigit _ hlast, hlast]

/-- The escape of a character by its code. -/
theorem quotedPiece_hex (h : c.toNat < 0xD800) (rs : List Rune) :
    quotedPiece (("\\u" ++ Text.hex 4 c.toNat).toList.map .char ++ rs) =
      (.text (.ofChar c), rs) := by
  obtain ⟨d₁, d₂, d₃, d₄, hdigits⟩ :
      ∃ d₁ d₂ d₃ d₄, (Text.hex 4 c.toNat).toList = [d₁, d₂, d₃, d₄] :=
    ⟨_, _, _, _, by simp [Text.hex]; exact ⟨rfl, rfl, rfl, rfl⟩⟩
  have hnumber := number?_hex 4 c.toNat
  rw [show Nat.pow 16 4 = 65536 from rfl, Nat.mod_eq_of_lt (by omega), hdigits] at hnumber
  have hchar : Text.charOfHex? [d₁, d₂, d₃, d₄] = some c := by
    simp [Text.charOfHex?, hnumber, h]
  have hshown : shown 9 (.char 'u' :: .char d₁ :: .char d₂ :: .char d₃ :: .char d₄ :: rs) =
      'u' :: d₁ :: d₂ :: d₃ :: d₄ :: shown 4 rs := rfl
  have hescape : escape? ('u' :: d₁ :: d₂ :: d₃ :: d₄ :: shown 4 rs) = some (c, 5) := by
    rw [escape?, hchar]
    rfl
  rw [String.toList_append, hdigits]
  simp [quotedPiece, hshown, hescape]

/-- What stands for a plain character between quotes is read as that character. -/
theorem quotedPiece_escaped (h : PlainChar c) (rs : List Rune) :
    quotedPiece ((Dump.escapedChar c).toList.map .char ++ rs) = (.text (.ofChar c), rs) := by
  obtain ⟨hascii, hdollar, hpercent⟩ := h
  unfold Dump.escapedChar
  -- five characters have an escape of their own; of the others, the printable ones stand for
  -- themselves, and the rest have their code
  split
  · exact quotedPiece_escape rfl
  · exact quotedPiece_escape rfl
  · exact quotedPiece_escape rfl
  · exact quotedPiece_escape rfl
  · exact quotedPiece_escape rfl
  · rename_i hn hr _ hquote hback
    split
    · have hstart : start? (shown 3 (.char c :: rs)) = none := by
        simp [shown, Rune.toChar, start?, hdollar, hpercent]
      have hline : ¬ (decide (c = '\n') || decide (c = '\r')) = true := by
        simpa using ⟨hn, hr⟩
      rw [show c.toString.toList.map Rune.char ++ rs = .char c :: rs by simp, quotedPiece,
        literalPiece, hstart, unit?, if_neg hline]
      · simpa using hquote
      · simpa using hback
    · rw [if_pos (by omega)]
      exact quotedPiece_hex (by omega) rs

theorem length_escapedChar (c : Char) : 0 < (Dump.escapedChar c).toList.length := by
  unfold Dump.escapedChar
  split
  · decide
  · decide
  · decide
  · decide
  · decide
  · split
    · simp
    · split <;> simp

/-- The literal text of the characters that have been read so far, and of those that follow. -/
theorem scanQuotes_escapes (h : Scans rest us) (hcs : ∀ c ∈ cs, PlainChar c) (pieces : List Bytes)
    (fuel : Nat) (hfuel : (escapes cs ++ '"' :: rest).length < fuel) :
    scanQuotes fuel [] pieces ((escapes cs ++ '"' :: rest).map .char) =
      flush ((cs.map Bytes.ofChar).reverse ++ pieces) (.closeQuote :: us) := by
  -- every character takes one step, and at least one character of the text
  induction cs generalizing fuel pieces with
  | nil =>
      simp only [escapes, List.flatMap_nil, List.nil_append, List.length_cons] at hfuel ⊢
      cases fuel with
      | zero => omega
      | succ fuel =>
          rw [List.map_cons, scanQuotes, quotedPiece]
          simp only [List.map_nil, List.reverse_nil, List.nil_append]
          rw [h fuel (by omega)]
  | cons c cs ih =>
      have hlen := length_escapedChar c
      have hcons : escapes (c :: cs) ++ '"' :: rest =
          (Dump.escapedChar c).toList ++ (escapes cs ++ '"' :: rest) := by
        rw [escapes, List.flatMap_cons, List.append_assoc]
        rfl
      rw [hcons, List.length_append] at hfuel
      cases fuel with
      | zero => omega
      | succ fuel =>
          rw [hcons, List.map_append, scanQuotes, quotedPiece_escaped (hcs c List.mem_cons_self)]
          simp only
          rw [ih (fun c' hc' => hcs c' (List.mem_cons_of_mem _ hc')) _ fuel (by omega)]
          simp

/-- The token of a text, none for an empty one. -/
def textToken (s : Bytes) : List Token := if s.isEmpty then [] else [.text s]

theorem flush_chars (cs : List Char) (us : List Token) :
    flush (cs.map Bytes.ofChar).reverse us = textToken (cs.flatMap Bytes.ofChar) ++ us := by
  cases cs with
  | nil => rfl
  | cons c cs =>
      obtain ⟨b, tail, hc, -⟩ := Bytes.charAt?_ofChar c []
      simp [flush, textToken, hc, List.flatMap_def]

theorem Scans.quoted (h : Scans rest us) (hcs : ∀ c ∈ cs, PlainChar c) :
    Scans ('"' :: escapes cs ++ '"' :: rest)
      (.openQuote :: textToken (cs.flatMap Bytes.ofChar) ++ .closeQuote :: us) := by
  refine scans_of_step fun fuel hfuel => ?_
  rw [List.cons_append, List.length_cons] at hfuel
  have hquotes := scanQuotes_escapes h hcs [] fuel (by omega)
  rw [List.append_nil, flush_chars] at hquotes
  rw [List.cons_append, List.map_cons, scan, hquotes]
  rfl

/-! ### Whole texts -/

theorem afterMark_chars (cs : List Char) :
    afterMark (cs.map .char) = (Text.unmarked cs).map .char := by
  cases cs with
  | nil => rfl
  | cons c cs =>
      rw [List.map_cons, afterMark, Text.unmarked_cons]
      split <;> rfl

/-- A text has the tokens of what follows its mark. -/
theorem ofText_ofString {s : String} (h : Scans (Text.unmarked s.toList) us) :
    ofText (.ofString s) = us := by
  have hlen := Bytes.length_runes_le (.ofString s)
  have hmark : (Text.unmarked s.toList).length ≤ s.toList.length := by
    unfold Text.unmarked
    split <;> simp
  rw [Bytes.runes_ofString, List.length_map] at hlen
  rw [ofText, Bytes.runes_ofString, afterMark_chars]
  exact h _ (by omega)

end Tacit.Formula.Token
