import Tacit.Dump.Program
import Tacit.Proofs.Dump.Layout
import Tacit.Proofs.Formula.Reading

/-!
# Written tokens as formulas

Between the tokens of a dump on the one hand and the formula that its text is on the other there are
the tokens of formulas.

* `Written ts us`: the text of the tokens `ts` of a dump has the tokens `us` of formulas.
* `Written.scans`: that is so wherever in a line the tokens are placed.
* `Expresses ts x`: the text of the tokens `ts` is the formula `x`.
* `expresses_name`, `expresses_decimal`, `expresses_text`, `expresses_call`, `expresses_list`: what
  is asked of the notation. Names, numbers, texts with their escapes, calls and lists are read as
  what they are written for; what is said of dumps that are read rests on these.
* `ofText?_call`, `ofText?_list`: reading the text of a call and of a list.
-/

namespace Tacit

open Formula.Token (Scans Breaks textToken escapes)
open Formula (Reads commas)

namespace Dump

/-! ### Tokens -/

/-- The brackets and the comma, and the signs that they are. -/
def marks : List (Token × Formula.Sign) :=
  [(.openParen, .openParen), (.closeParen, .closeParen), (.openBracket, .openBracket),
    (.closeBracket, .closeBracket), (.comma, .comma)]

/-- A bracket or a comma comes next, if anything does. -/
def Follows (ts : List Token) : Prop := ∀ t ∈ ts.head?, ∃ s, (t, s) ∈ marks

/-- The tokens of formulas that the text of the tokens of a dump has. -/
inductive Written : List Token → List Formula.Token → Prop where
  | nil : Written [] []
  | mark {t : Token} {s : Formula.Sign} {ts : List Token} {us : List Formula.Token} :
      (t, s) ∈ marks → Written ts us → Written (t :: ts) (.sign s :: us)
  | name {s : String} {ts : List Token} {us : List Formula.Token} :
      Text.isIdentChars s.toList = true → Follows ts → Written ts us →
      Written (.name s :: ts) (.name s :: us)
  | number (n : Nat) {ts : List Token} {us : List Formula.Token} : Follows ts → Written ts us →
      Written (.number (Nat.repr n) :: ts) (.number (Nat.repr n) :: us)
  | negative (n : Nat) {ts : List Token} {us : List Formula.Token} : Follows ts → Written ts us →
      Written (.number ("-" ++ Nat.repr n) :: ts) (.sign .minus :: .number (Nat.repr n) :: us)
  | text {cs : List Char} {ts : List Token} {us : List Formula.Token} : (∀ c ∈ cs, PlainChar c) →
      Written ts us → Written (textTokens (cs.flatMap Bytes.ofChar) ++ ts)
        (.openQuote :: textToken (cs.flatMap Bytes.ofChar) ++ .closeQuote :: us)

theorem Follows.append {ts ts' : List Token} (h : Follows ts) (h' : Follows ts') :
    Follows (ts ++ ts') := by
  cases ts with
  | nil => exact h'
  | cons t ts => exact h

theorem Written.append {ts ts' : List Token} {us us' : List Formula.Token} (h : Written ts us)
    (hf : Follows ts') (h' : Written ts' us') : Written (ts ++ ts') (us ++ us') := by
  induction h with
  | nil => exact h'
  | mark hs _ ih => exact .mark hs ih
  | name hs hfollows _ ih => exact .name hs (hfollows.append hf) ih
  | number n hfollows _ ih => exact .number n (hfollows.append hf) ih
  | negative n hfollows _ ih => exact .negative n (hfollows.append hf) ih
  | text hcs _ ih =>
      rw [List.append_assoc, List.append_assoc, List.cons_append]
      exact .text hcs ih

/-! ### Text -/

theorem toList_render_cons (p : Placed) (ps : List Placed) : (render (p :: ps)).toList =
    List.replicate p.blanks ' ' ++ (p.token.text.toList ++ (render ps).toList) := by
  simp [render, String.join_cons]

theorem toList_escaped {cs : List Char} (h : ∀ c ∈ cs, PlainChar c) :
    (escaped cs).toList = escapes cs := by
  induction cs with
  | nil => rfl
  | cons c cs ih =>
      obtain ⟨-, hdollar, hpercent⟩ := h c List.mem_cons_self
      rw [escaped, if_neg (by simp [hdollar, hpercent]), String.toList_append,
        ih fun c' hc' => h c' (List.mem_cons_of_mem _ hc')]
      rfl

theorem text_mark {t : Token} {s : Formula.Sign} (h : (t, s) ∈ marks) : ∃ c : Char,
    t.text.toList = [c] ∧ (c, s) ∈ Formula.Token.marks ∧
      Text.isIdentPart c = false ∧ Formula.Token.isNumberChar c = false := by
  simp only [marks, List.mem_cons, Prod.mk.injEq, List.not_mem_nil, or_false] at h
  rcases h with ⟨rfl, rfl⟩ | ⟨rfl, rfl⟩ | ⟨rfl, rfl⟩ | ⟨rfl, rfl⟩ | ⟨rfl, rfl⟩ <;>
    exact ⟨_, rfl, by decide, by decide, by decide⟩

/-- Before a bracket or a comma, no name and no number goes on. -/
theorem Follows.breaks {ts : List Token} (h : Follows ts) (before : Token) :
    Breaks (render (placeAfter before ts)).toList := by
  cases ts with
  | nil => simp [placeAfter, render, Breaks]
  | cons t ts =>
      obtain ⟨s, hs⟩ := h t rfl
      obtain ⟨c, hc, -, hident, hnumber⟩ := text_mark hs
      rw [placeAfter, toList_render_cons, hc]
      intro d hd
      -- the first character is a blank, if there is one, and the bracket or the comma otherwise
      by_cases hblank : spaced before t
      · simp only [hblank, if_true] at hd
        cases hd
        exact ⟨by decide, by decide⟩
      · simp only [hblank] at hd
        cases hd
        exact ⟨hident, hnumber⟩

theorem render_textTokens {cs : List Char} (hcs : ∀ c ∈ cs, PlainChar c) (before : Token)
    (ts : List Token) :
    (render (placeAfter before (textTokens (cs.flatMap Bytes.ofChar) ++ ts))).toList =
      List.replicate (if spaced before .openQuote then 1 else 0) ' ' ++
        ('"' :: escapes cs ++ '"' :: (render (placeAfter .closeQuote ts)).toList) := by
  cases cs with
  | nil => simp [textTokens, placeAfter, toList_render_cons, Token.text, spaced, escapes]
  | cons c cs =>
      have hne : ((c :: cs).flatMap Bytes.ofChar).isEmpty = false := by
        obtain ⟨b, tail, hc, -⟩ := Bytes.charAt?_ofChar c []
        simp [hc]
      have htext : Bytes.toText ((c :: cs).flatMap Bytes.ofChar) = String.ofList (c :: cs) := by
        rw [← Bytes.toText_ofString (String.ofList (c :: cs)), Bytes.ofString, String.toList_ofList]
      rw [textTokens, hne, htext, String.toList_ofList]
      simp [placeAfter, toList_render_cons, Token.text, spaced, toList_escaped hcs]

/-- **The text of the tokens is scanned**, wherever in a line they are placed. -/
theorem Written.scans {ts : List Token} {us : List Formula.Token} (h : Written ts us)
    (before : Token) : Scans (render (placeAfter before ts)).toList us := by
  induction h generalizing before with
  | nil => exact Formula.Token.scans_nil
  | @mark t s ts us hs _ ih =>
      obtain ⟨c, hc, hmark, -⟩ := text_mark hs
      rw [placeAfter, toList_render_cons, hc]
      exact ((ih t).mark hmark).blanks _
  | @name s ts us hs hfollows _ ih =>
      have hname := (ih (.name s)).name (hfollows.breaks _) hs
      rw [String.ofList_toList] at hname
      rw [placeAfter, toList_render_cons]
      exact hname.blanks _
  | @number n ts us hfollows _ ih =>
      rw [placeAfter, toList_render_cons]
      exact ((ih _).number (hfollows.breaks _) n).blanks _
  | @negative n ts us hfollows _ ih =>
      have hnumber := (ih (.number ("-" ++ Nat.repr n))).number (hfollows.breaks _) n
      rw [placeAfter, toList_render_cons, Token.text, String.toList_append, List.append_assoc]
      exact (hnumber.mark (by decide)).blanks _
  | @text cs ts us hcs _ ih =>
      have hquoted := (ih .closeQuote).quoted hcs
      rw [render_textTokens hcs]
      exact hquoted.blanks _

/-! ### Formulas -/

/-- The text of the tokens is the formula. -/
def Expresses (ts : List Token) (x : Formula) : Prop := ∃ us, Written ts us ∧ Reads us x

theorem follows_mark {t : Token} {s : Formula.Sign} (h : (t, s) ∈ marks) (ts : List Token) :
    Follows (t :: ts) := by
  intro t' ht'
  cases ht'
  exact ⟨s, h⟩

theorem follows_nil : Follows [] := by simp [Follows]

theorem expresses_name {s : String} (h : Text.isIdentChars s.toList = true) :
    Expresses [.name s] (Formula.word s) :=
  ⟨_, .name h follows_nil .nil, Formula.reads_name s⟩

theorem expresses_text {s : Bytes} (h : s.Plain) :
    Expresses (textTokens s) (Formula.literalText s) := by
  obtain ⟨cs, rfl, hcs⟩ := h.exists_chars
  have hwritten := Written.text hcs .nil
  rw [List.append_nil] at hwritten
  exact ⟨_, hwritten, Formula.reads_text _⟩

/-- A whole number as a formula. -/
def wholeFormula (n : Int) : Formula :=
  if n < 0 then .unary .negate (.literal (.number (.finite 512 false n.natAbs 0)))
  else .literal (.number (.finite 512 false n.natAbs 0))

theorem expresses_decimal {n : Int} (h : n.natAbs < Nat.pow 2 64) :
    Expresses [.number (Text.decimal n)] (wholeFormula n) := by
  have hnumber := Formula.number?_repr h
  unfold Text.decimal wholeFormula
  by_cases hn : n < 0
  · rw [if_pos hn, if_pos hn]
    exact ⟨_, .negative _ follows_nil .nil, Formula.reads_negative hnumber⟩
  · rw [if_neg hn, if_neg hn]
    exact ⟨_, .number _ follows_nil .nil, Formula.reads_number hnumber⟩

/-- Tokens with commas between, up to a bracket. -/
theorem written_commas {tss : List (List Token)} {xs : List Formula}
    (h : List.Forall₂ Expresses tss xs) {t : Token} {s : Formula.Sign} (ht : (t, s) ∈ marks)
    {ts : List Token} {us : List Formula.Token} (hts : Written ts us) :
    ∃ uss, Written (commaSeparated tss ++ t :: ts) (commas uss ++ .sign s :: us) ∧
      List.Forall₂ Reads uss xs := by
  induction h with
  | nil => exact ⟨[], .mark ht hts, .nil⟩
  | @cons ts' x tss xs hx h ih =>
      obtain ⟨us', hwritten, hreads⟩ := hx
      cases h with
      | nil =>
          exact ⟨[us'], hwritten.append (follows_mark ht _) (.mark ht hts), .cons hreads .nil⟩
      | cons hx' h =>
          obtain ⟨uss, hwritten', hreads'⟩ := ih
          cases hreads' with
          | cons hr hreads' =>
              refine ⟨us' :: _ :: _, ?_, .cons hreads (.cons hr hreads')⟩
              rw [commaSeparated, commas, List.append_assoc, List.append_assoc]
              · have hcomma : (Token.comma, Formula.Sign.comma) ∈ marks := by decide
                exact hwritten.append (follows_mark hcomma _) (.mark hcomma hwritten')
              · simp
              · simp

/-- The part of a call after its name. -/
theorem written_arguments {tss : List (List Token)} {xs : List Formula}
    (h : List.Forall₂ Expresses tss xs) :
    ∃ us, Written (.openParen :: commaSeparated tss ++ [.closeParen]) us ∧
      ∀ f, Reads (.name f :: us) (.call f xs false) := by
  have hclose : (Token.closeParen, Formula.Sign.closeParen) ∈ marks := by decide
  have hopen : (Token.openParen, Formula.Sign.openParen) ∈ marks := by decide
  obtain ⟨uss, hwritten, hreads⟩ := written_commas h hclose .nil
  exact ⟨_, .mark hopen hwritten, fun f => Formula.reads_call f hreads⟩

theorem follows_openParen {ts : List Token} : Follows (.openParen :: ts) :=
  follows_mark (show (Token.openParen, Formula.Sign.openParen) ∈ marks by decide) ts

theorem expresses_call {f : String} (hf : Text.isIdentChars f.toList = true)
    {tss : List (List Token)} {xs : List Formula} (h : List.Forall₂ Expresses tss xs) :
    Expresses (callTokens f tss) (.call f xs false) := by
  obtain ⟨us, hwritten, hreads⟩ := written_arguments h
  exact ⟨_, .name hf follows_openParen hwritten, hreads f⟩

/-- Where tokens are read, there are tokens that are written. -/
theorem Written.ne_nil {ts : List Token} {us : List Formula.Token} (h : Written ts us)
    (hus : us ≠ []) : ts ≠ [] := by
  cases h with
  | nil => exact absurd rfl hus
  | mark | name | number | negative => simp
  | text =>
      unfold textTokens
      split <;> simp

/-- A name comes first only if it is written first. -/
theorem Written.head?_name {ts : List Token} {us : List Formula.Token} (h : Written ts us)
    {n : String} (hn : us.head? = some (.name n)) : ts.head? = some (.name n) := by
  cases h with
  | nil | mark | number | negative | text => cases hn
  | name => cases hn; rfl

/-- The part of a list after its bracket. -/
theorem written_items {tss : List (List Token)} {xs : List Formula}
    (h : List.Forall₂ Expresses tss xs) (hfor : (commaSeparated tss).head? ≠ some (.name "for")) :
    ∃ us, Written (commaSeparated tss ++ [.closeBracket]) us ∧
      Reads (.sign .openBracket :: us) (.tuple xs) := by
  have hclose : (Token.closeBracket, Formula.Sign.closeBracket) ∈ marks := by decide
  obtain ⟨uss, hwritten, hreads⟩ := written_commas h hclose .nil
  refine ⟨_, hwritten, Formula.reads_tuple hreads fun hname => hfor ?_⟩
  have hhead := hwritten.head?_name (n := "for") (by rw [List.head?_append, hname]; rfl)
  rw [List.head?_append] at hhead
  cases hc : (commaSeparated tss).head? with
  | none => rw [hc] at hhead; cases hhead
  | some t => rw [hc] at hhead; exact hhead

theorem expresses_list {tss : List (List Token)} {xs : List Formula}
    (h : List.Forall₂ Expresses tss xs) (hfor : (commaSeparated tss).head? ≠ some (.name "for")) :
    Expresses (.openBracket :: commaSeparated tss ++ [.closeBracket]) (.tuple xs) := by
  have hopen : (Token.openBracket, Formula.Sign.openBracket) ∈ marks := by decide
  obtain ⟨us, hwritten, hreads⟩ := written_items h hfor
  exact ⟨_, .mark hopen hwritten, hreads⟩

/-! ### Lines -/

theorem Written.inLine {ts : List Token} {us : List Formula.Token} (h : Written ts us) :
    ∀ t ∈ ts, t ≠ .newline ∧ t ≠ .equal := by
  induction h with
  | nil => simp
  | @mark t s _ _ hs _ ih =>
      refine List.forall_mem_cons.mpr ⟨⟨?_, ?_⟩, ih⟩
      · rintro rfl
        simp [marks] at hs
      · rintro rfl
        simp [marks] at hs
  | name _ _ _ ih => exact List.forall_mem_cons.mpr ⟨by simp, ih⟩
  | number _ _ _ ih => exact List.forall_mem_cons.mpr ⟨by simp, ih⟩
  | negative _ _ _ ih => exact List.forall_mem_cons.mpr ⟨by simp, ih⟩
  | text _ _ ih =>
      refine List.forall_mem_append.mpr ⟨?_, ih⟩
      unfold textTokens
      split <;> simp

theorem lines_line {t : Token} {ts : List Token} (h : ∀ u ∈ t :: ts, u ≠ .newline) :
    lines (t :: ts) = [t :: ts] := by
  induction ts generalizing t with
  | nil => simp [lines, h t]
  | cons u ts ih =>
      rw [lines, if_neg (h t List.mem_cons_self), ih fun v hv => h v (List.mem_cons_of_mem _ hv)]

/-- Tokens without an end of a line or an equals sign are placed in one line. -/
theorem layout_line {t : Token} {ts : List Token} (h : ∀ u ∈ t :: ts, u ≠ .newline ∧ u ≠ .equal) :
    layout (t :: ts) = ⟨0, t⟩ :: placeAfter t ts := by
  have hsplit : splitAssign (t :: ts) = ⟨t :: ts, []⟩ := by
    have hall : ∀ u ∈ ts, decide (u ≠ .equal) = true := fun u hu =>
      decide_eq_true (h u (List.mem_cons_of_mem _ hu)).2
    simp only [splitAssign, List.takeWhile_eq_self_iff.mpr hall, List.dropWhile_eq_nil_iff.mpr hall]
    rfl
  have hindents : indents [] [t :: ts] = [0] := by
    simp only [indents]
    split
    · rfl
    · simp [closeBrackets]
  rw [layout, lines_line fun u hu => (h u hu).1, hindents]
  simp [hsplit, align, place]

/-- **The text of a call is read as the call**, whose name has no mark. -/
theorem ofText?_call {name : String} (hname : Text.isIdentifier (.ofString name) = true)
    {tss : List (List Token)} {xs : List Formula} (h : List.Forall₂ Expresses tss xs) :
    Formula.ofText? (.ofString (render (layout (callTokens name tss)))) =
      some (.call (String.ofList (Text.unmarked name.toList)) xs false) := by
  -- only the name can carry a mark, so everything after it is as in any other call
  obtain ⟨us, hwritten, hreads⟩ := written_arguments h
  rw [Text.isIdentifier_ofString] at hname
  have hne : name.toList ≠ [] := by
    intro hnil
    rw [hnil] at hname
    cases hname
  have hline : layout (callTokens name tss) = ⟨0, .name name⟩ ::
      placeAfter (.name name) (.openParen :: commaSeparated tss ++ [.closeParen]) :=
    layout_line (List.forall_mem_cons.mpr ⟨by simp, hwritten.inLine⟩)
  have hscans := (hwritten.scans (.name name)).name (follows_openParen.breaks _) hname
  have htokens : Formula.Token.ofText (.ofString (render (layout (callTokens name tss)))) =
      .name (String.ofList (Text.unmarked name.toList)) :: us := by
    refine Formula.Token.ofText_ofString ?_
    rw [hline, toList_render_cons]
    exact (Text.unmarked_append hne _).symm ▸ hscans
  rw [Formula.ofText?, htokens]
  exact (hreads _).ofTokens?

/-- **The text of a list is read as the sequence.** -/
theorem ofText?_list {tss : List (List Token)} {xs : List Formula}
    (h : List.Forall₂ Expresses tss xs) (hfor : (commaSeparated tss).head? ≠ some (.name "for")) :
    Formula.ofText? (.ofString
      (render (layout (.openBracket :: commaSeparated tss ++ [.closeBracket])))) =
      some (.tuple xs) := by
  obtain ⟨us, hwritten, hreads⟩ := written_items h hfor
  have hline : layout (.openBracket :: commaSeparated tss ++ [.closeBracket]) =
      ⟨0, .openBracket⟩ :: placeAfter .openBracket (commaSeparated tss ++ [.closeBracket]) :=
    layout_line (List.forall_mem_cons.mpr ⟨by simp, hwritten.inLine⟩)
  have htokens : Formula.Token.ofText (.ofString
      (render (layout (.openBracket :: commaSeparated tss ++ [.closeBracket])))) =
        .sign .openBracket :: us := by
    refine Formula.Token.ofText_ofString ?_
    rw [hline, toList_render_cons]
    show Scans (Text.unmarked ('[' :: _)) _
    rw [Text.unmarked_cons, if_neg (by decide)]
    exact (hwritten.scans .openBracket).mark (by decide)
  rw [Formula.ofText?, htokens]
  exact hreads.ofTokens?

end Dump

end Tacit
