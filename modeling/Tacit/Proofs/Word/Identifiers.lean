import Mathlib.Data.List.TakeWhile
import Tacit.Catalogue
import Tacit.Proofs.Text.Encoding
import Tacit.Word.Basic

/-!
# The names of words

* `symbolName_chars`: the name that a symbol suggests is a letter of ASCII and word characters.
* `Word.named_cases`: what a func has to be for a word. The word keeps the name that it is given,
  and else is named after its symbol.
* `Text.IsIdent`: identifiers as the grammar has them. `isIdentifier_iff` compares them with the
  names that are let pass: a byte order mark may stand in front of those.
* `names_of_words`: names from symbols are identifiers, and given ones are, up to a mark.
* `marked_name_kept`: a name with a mark, which is kept and is no identifier.
-/

namespace Tacit

/-! ### Names from symbols -/

theorem isAlpha_ascii {c : Char} (h : c.isAlpha = true) : c.toNat < 128 := by
  have hcase : (c.isUpper || c.isLower) = true := h
  rcases Bool.or_eq_true_iff.mp hcase with hupper | hlower
  · have hbounds : 65 ≤ c.val ∧ c.val ≤ 90 := of_decide_eq_true hupper
    exact Nat.lt_of_le_of_lt (UInt32.le_iff_toNat_le.mp hbounds.2) (by decide)
  · have hbounds := of_decide_eq_true (Bool.and_eq_true_iff.mp hlower).2
    exact Nat.lt_of_le_of_lt (UInt32.le_iff_toNat_le.mp hbounds) (by decide)

theorem isWordChar_ascii {c : Char} (h : isWordChar c = true) : c.toNat < 128 := by
  simp only [isWordChar, Char.isAlphanum, Bool.or_eq_true, decide_eq_true_eq] at h
  rcases h with (halpha | hdigit) | rfl
  · exact isAlpha_ascii halpha
  · exact isDigit_ascii hdigit
  · decide

theorem isIdentPart_of_isWordChar {c : Char} (h : isWordChar c = true) :
    Text.isIdentPart c = true :=
  forall_ascii (fun c => isWordChar c = true → Text.isIdentPart c = true) (by decide)
    (isWordChar_ascii h) h

/-- A name from a symbol starts with a letter and goes on with letters, digits and underscores. -/
theorem nameOfSymbol_chars (symbol : Bytes) : ∃ c cs, (nameOfSymbol symbol).toList = c :: cs ∧
    c.isAlpha = true ∧ ∀ d ∈ c :: cs, isWordChar d = true := by
  simp only [nameOfSymbol]
  generalize hplain : (afterFirst 46 (afterLast 47 symbol)).runes.map
    (fun r => if isWordChar r.toChar then r.toChar else '_') = plain
  have hchars : ∀ d ∈ plain, isWordChar d = true := by
    intro d hd
    rw [← hplain] at hd
    obtain ⟨r, -, rfl⟩ := List.mem_map.mp hd
    split
    · assumption
    · decide
  have hfixed : ∀ d ∈ 'w' :: "ord_".toList, isWordChar d = true := List.all_eq_true.mp rfl
  cases hrest : plain.dropWhile (· = '_') with
  | nil => exact ⟨'w', "ord_".toList, rfl, by decide, hfixed⟩
  | cons c cs =>
      have hword : ∀ d ∈ c :: cs, isWordChar d = true := fun d hd =>
        hchars d ((List.dropWhile_sublist _).subset (hrest ▸ hd))
      have hunder : c ≠ '_' := by
        have h := List.head?_dropWhile_not (· = '_') plain
        rw [hrest] at h
        simpa using h
      simp only
      by_cases hdigit : c.isDigit
      · refine ⟨'w', "ord_".toList ++ c :: cs, ?_, by decide, ?_⟩
        · simp [hdigit]
        · rw [← List.cons_append]
          exact List.forall_mem_append.mpr ⟨hfixed, hword⟩
      · refine ⟨c, cs, by simp [hdigit], ?_, hword⟩
        have hc := hword c List.mem_cons_self
        simpa [isWordChar, Char.isAlphanum, hdigit, hunder] using hc

theorem symbolName_chars (symbol : Option Bytes) : ∃ c cs, (symbolName symbol).toList = c :: cs ∧
    c.isAlpha = true ∧ ∀ d ∈ c :: cs, isWordChar d = true := by
  cases symbol with
  | some symbol => exact nameOfSymbol_chars symbol
  | none => exact ⟨'w', "ord".toList, rfl, by decide, List.all_eq_true.mp rfl⟩

/-! ### Identifiers -/

namespace Text

/-- An identifier by the grammar: a start character and then parts, with nothing in front. -/
def IsIdent (s : String) : Prop :=
  ∃ c cs, s.toList = c :: cs ∧ isIdentStart c = true ∧ ∀ d ∈ cs, isIdentPart d = true

variable {s : String}

theorem isIdent_iff : IsIdent s ↔ isIdentChars s.toList = true := by
  constructor
  · rintro ⟨c, cs, hs, hc, hcs⟩
    rw [hs, isIdentChars, hc, Bool.true_and, List.all_eq_true]
    exact hcs
  · intro h
    cases hs : s.toList with
    | nil =>
        rw [hs] at h
        cases h
    | cons c cs =>
        rw [hs, isIdentChars, Bool.and_eq_true, List.all_eq_true] at h
        exact ⟨c, cs, hs, h⟩

/-- A mark is no start character. -/
theorem IsIdent.head?_ne (h : IsIdent s) : s.toList.head? ≠ some byteOrderMark := by
  obtain ⟨c, cs, hs, hc, -⟩ := h
  rw [hs]
  rintro heq
  cases heq
  have hmark : isIdentStart byteOrderMark = false := by decide +kernel
  rw [hmark] at hc
  cases hc

/-- What passes for an identifier is one, with a mark in front or without. -/
theorem isIdentifier_iff : isIdentifier (.ofString s) = true ↔
    ∃ ident, IsIdent ident ∧ (s = ident ∨ s = String.ofList (byteOrderMark :: ident.toList)) := by
  rw [isIdentifier_ofString]
  constructor
  · intro h
    refine ⟨String.ofList (unmarked s.toList), isIdent_iff.mpr (by rwa [String.toList_ofList]), ?_⟩
    cases hs : s.toList with
    | nil => simp [hs, unmarked, isIdentChars] at h
    | cons c cs =>
        rw [unmarked_cons, String.toList_ofList]
        split
        · rename_i hmark
          right
          rw [← hmark, ← hs, String.ofList_toList]
        · left
          rw [← hs, String.ofList_toList]
  · rintro ⟨ident, hident, rfl | rfl⟩
    · rw [unmarked, if_neg hident.head?_ne]
      exact isIdent_iff.mp hident
    · rw [String.toList_ofList, unmarked_cons, if_pos rfl]
      exact isIdent_iff.mp hident

/-- A text that passes for an identifier is none exactly if it starts with a mark. -/
theorem isIdent_iff_head?_ne (h : isIdentifier (.ofString s) = true) :
    IsIdent s ↔ s.toList.head? ≠ some byteOrderMark := by
  refine ⟨IsIdent.head?_ne, fun hmark => ?_⟩
  obtain ⟨ident, hident, rfl | rfl⟩ := isIdentifier_iff.mp h
  · exact hident
  · exact absurd (by rw [String.toList_ofList]; rfl) hmark

end Text

theorem isIdent_symbolName (symbol : Option Bytes) : Text.IsIdent (symbolName symbol) := by
  obtain ⟨c, cs, hname, hc, hcs⟩ := symbolName_chars symbol
  have hstart : Text.isIdentStart c = true :=
    forall_ascii (fun c => c.isAlpha = true → Text.isIdentStart c = true) (by decide)
      (isWordChar_ascii (hcs c List.mem_cons_self)) hc
  exact ⟨c, cs, hname, hstart, fun d hd =>
    isIdentPart_of_isWordChar (hcs d (List.mem_cons_of_mem _ hd))⟩

/-! ### Words -/

section

variable [Declarations]

/-- What a func has to be for a word, and what the word is then called: without a given name by its
symbol, else by the name as it is given, which has to be an identifier. -/
theorem Word.named_cases {host : Host} {name : Bytes} {fn : Option Value} {w : Word}
    (h : Word.named host name fn = .ok w) :
    ∃ results code captured, fn = some w.fn ∧
      w.fn.type.func? = some (w.params, results, false) ∧ w.fn.data = .func code captured ∧
      results.length ≤ 1 ∧ w.result = results.head? ∧
      (name = [] ∧ w.name = symbolName (host.symbol code) ∨
        name ≠ [] ∧ Text.isIdentifier name = true ∧ Bytes.ofString w.name = name) := by
  unfold Word.named at h
  split at h
  · cases h
  rename_i fn
  split at h
  · cases h
  · rename_i params results variadic code captured hfunc hdata
    split at h
    · cases h
    rename_i hvariadic
    obtain rfl : variadic = false := by simpa using hvariadic
    split at h
    · cases h
    rename_i hlen
    have hlen : results.length ≤ 1 := Nat.le_of_not_lt hlen
    split at h
    · rename_i hempty
      cases h
      exact ⟨results, code, captured, rfl, hfunc, hdata, hlen, rfl,
        .inl ⟨List.isEmpty_iff.mp hempty, rfl⟩⟩
    rename_i hempty
    split at h
    · rename_i hname
      cases h
      have hne : name ≠ [] := fun hnil => hempty (List.isEmpty_iff.mpr hnil)
      exact ⟨results, code, captured, rfl, hfunc, hdata, hlen, rfl,
        .inr ⟨hne, hname, Text.ofString_toText hname⟩⟩
    · cases h
  · cases h

/-- The name of a word passes for an identifier, given or derived. -/
theorem isIdentifier_named {host : Host} {name : Bytes} {fn : Option Value} {w : Word}
    (h : Word.named host name fn = .ok w) : Text.isIdentifier (.ofString w.name) = true := by
  obtain ⟨-, code, -, -, -, -, -, -, ⟨-, hsymbol⟩ | ⟨-, hname, hkept⟩⟩ := Word.named_cases h
  · rw [hsymbol]
    exact Text.isIdentifier_iff.mpr ⟨_, isIdent_symbolName (host.symbol code), .inl rfl⟩
  · rw [hkept, hname]

/-- **The names of words.** Whatever bytes a symbol consists of, and without any symbol, the name
that it suggests is a letter of ASCII followed by letters, digits and underscores of ASCII. So a
word that is given no name is called by an identifier. A name that is given is kept byte for byte.
It is an identifier or a byte order mark and an identifier; so the name of a word is an identifier
exactly if it does not start with a mark. -/
theorem names_of_words (symbol : Option Bytes) :
    (∃ c cs, (symbolName symbol).toList = c :: cs ∧ c.isAlpha = true ∧
      ∀ d ∈ c :: cs, isWordChar d = true) ∧
    ∀ (host : Host) (name : Bytes) (fn : Option Value) (w : Word),
      Word.named host name fn = .ok w →
      (name = [] → Text.IsIdent w.name ∧ ∃ code captured, w.fn.data = .func code captured ∧
        w.name = symbolName (host.symbol code)) ∧
      (name ≠ [] → Bytes.ofString w.name = name ∧ ∃ ident, Text.IsIdent ident ∧
        (w.name = ident ∨ w.name = String.ofList (Text.byteOrderMark :: ident.toList))) ∧
      (Text.IsIdent w.name ↔ w.name.toList.head? ≠ some Text.byteOrderMark) := by
  refine ⟨symbolName_chars symbol, fun host name fn w h => ?_⟩
  have hpasses := isIdentifier_named h
  have hident := Text.isIdent_iff_head?_ne hpasses
  obtain ⟨-, code, captured, -, -, hdata, -, -, ⟨hnil, hsymbol⟩ | ⟨hne, -, hkept⟩⟩ :=
    Word.named_cases h
  · refine ⟨fun _ => ⟨?_, code, captured, hdata, hsymbol⟩, fun hne => absurd hnil hne, hident⟩
    rw [hsymbol]
    exact isIdent_symbolName (host.symbol code)
  · exact ⟨fun hnil => absurd hnil hne, fun _ => ⟨hkept, Text.isIdentifier_iff.mp hpasses⟩, hident⟩

end

open scoped Catalogue

/-- A path, a package, a letter and an ideograph beyond ASCII, a stray byte, brackets, and a digit
that comes to the front. -/
def strangeSymbol : Bytes :=
  Bytes.ofString "example.com/pkg.é" ++ 255 :: Bytes.ofString "1[世]"

/-- A host with one func, which does nothing. -/
def strangeHost : Host where
  call _ _ _ := pure []
  symbol _ := some strangeSymbol

/-- The func of the host. -/
def strangeFunc : Value := ⟨.func [] [] false, .func 0 []⟩

theorem symbolName_strange : symbolName (some strangeSymbol) = "word_1___" := by
  decide +kernel

theorem names_of_words_strange :
    Word.named strangeHost [] (some strangeFunc) = .ok ⟨"word_1___", strangeFunc, [], none⟩ ∧
    Text.IsIdent "word_1___" := by
  have hword : Word.named strangeHost [] (some strangeFunc) =
      .ok ⟨"word_1___", strangeFunc, [], none⟩ := by
    rw [← symbolName_strange]
    rfl
  obtain ⟨-, hnamed⟩ := names_of_words (some strangeSymbol)
  exact ⟨hword, ((hnamed _ _ _ _ hword).1 rfl).1⟩

/-- **A mark is kept.** A name that starts with a mark is given to a word as it is, and so the name
of that word is no identifier. -/
theorem marked_name_kept :
    Word.named strangeHost (.ofString "\uFEFFfoo") (some strangeFunc) =
      .ok ⟨"\uFEFFfoo", strangeFunc, [], none⟩ ∧
    ¬ Text.IsIdent "\uFEFFfoo" := by
  have hpasses : Text.isIdentifier (.ofString "\uFEFFfoo") = true := by
    rw [Text.isIdentifier_ofString]
    decide
  refine ⟨?_, fun hident => hident.head?_ne rfl⟩
  have hne : (Bytes.ofString "\uFEFFfoo").isEmpty = false := rfl
  have htext : (Bytes.ofString "\uFEFFfoo").toText = "\uFEFFfoo" := Bytes.toText_ofString _
  simp [Word.named, strangeFunc, Ty.func?, Ty.underlying, hne, hpasses, htext]

end Tacit
