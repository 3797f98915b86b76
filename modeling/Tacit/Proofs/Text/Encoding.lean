import Mathlib.Tactic.Common
import Tacit.Text.Identifier
import Tacit.Text.Normal

/-!
# Characters and their bytes

Reading the bytes of a string gives its characters back.

* `charAt?_ofChar`: the bytes of one character are read as that character, whatever follows.
* `runes_ofString`, `toText_ofString`: the same for strings.
* `ofChar_of_charAt?`, `ofRunes_runes`: what is read makes up the bytes again, stray bytes included.
* `Bytes.Plain`, `Plain.exists_chars`: byte strings of ASCII alone in which nothing starts a
  template.
* `compose_plain`: such a text is in composed form.
* `Text.unmarked`, `isIdentifier_ofString`: what follows a byte order mark decides whether a text is
  an identifier.
-/

namespace Tacit

namespace Bytes

/-! ### One character -/

theorem toNat_toUInt8 {n : Nat} (h : n < 256) : n.toUInt8.toNat = n := by
  simp [Nat.toUInt8, Nat.mod_eq_of_lt h]

theorem continuation?_bits {k : Nat} (h : k < 64) :
    continuation? (0x80 + k).toUInt8 = some k := by
  simp only [continuation?, toNat_toUInt8 (show 0x80 + k < 256 by omega)]
  rw [if_pos (by simp; omega), Nat.add_sub_cancel_left]

theorem lead?_two {k : Nat} (h : k < 32) : lead? (0xC0 + k).toUInt8 = some (1, k) := by
  simp only [lead?, toNat_toUInt8 (show 0xC0 + k < 256 by omega)]
  rw [if_neg (by omega), if_pos (by simp; omega), Nat.add_sub_cancel_left]

theorem lead?_three {k : Nat} (h : k < 16) : lead? (0xE0 + k).toUInt8 = some (2, k) := by
  simp only [lead?, toNat_toUInt8 (show 0xE0 + k < 256 by omega)]
  rw [if_neg (by omega), if_neg (by simp), if_pos (by simp; omega), Nat.add_sub_cancel_left]

theorem lead?_four {k : Nat} (h : k < 8) : lead? (0xF0 + k).toUInt8 = some (3, k) := by
  simp only [lead?, toNat_toUInt8 (show 0xF0 + k < 256 by omega)]
  rw [if_neg (by omega), if_neg (by simp; omega), if_neg (by simp), if_pos (by simp; omega),
    Nat.add_sub_cancel_left]

theorem gather_bits {k : Nat} (h : k < 64) (acc count : Nat) (bs : Bytes) :
    gather acc (count + 1) ((0x80 + k).toUInt8 :: bs) = gather (acc * 64 + k) count bs := by
  rw [gather, continuation?_bits h]
  rfl

theorem charAt?_of (count bits n : Nat) {b : UInt8} {rest : Bytes}
    (hlead : lead? b = some (count, bits)) (hgather : gather bits count rest = some n)
    (hfits : fitsLength count n = true) : charAt? b rest = some (Char.ofNat n, count) := by
  simp [charAt?, hlead, hgather, hfits]

/-- The first byte of a character tells how many follow, and together they give the character. -/
theorem charAt?_ofChar (c : Char) (rest : Bytes) :
    ∃ b tail, ofChar c = b :: tail ∧ charAt? b (tail ++ rest) = some (c, tail.length) := by
  have hvalid : c.toNat < 0xD800 ∨ 0xDFFF < c.toNat ∧ c.toNat < 0x110000 := c.valid
  have hchar := Char.ofNat_toNat c
  unfold ofChar
  generalize c.toNat = n at hvalid hchar ⊢
  subst hchar
  simp only
  split
  · rename_i h
    refine ⟨_, [], rfl, charAt?_of 0 n n ?_ rfl ?_⟩
    · simp [lead?, toNat_toUInt8 (show n < 256 by omega), h]
    · simpa [fitsLength] using h
  split
  · have hbits : n / 64 * 64 + n % 64 = n := by omega
    refine ⟨_, [_], rfl, charAt?_of 1 (n / 64) n (lead?_two (by omega)) ?_ ?_⟩
    · rw [List.cons_append, gather_bits (by omega), gather, hbits]
    · simp only [fitsLength, Bool.and_eq_true, decide_eq_true_eq]
      omega
  split
  · have hbits : (n / 4096 * 64 + n / 64 % 64) * 64 + n % 64 = n := by omega
    refine ⟨_, [_, _], rfl, charAt?_of 2 (n / 4096) n (lead?_three (by omega)) ?_ ?_⟩
    · rw [List.cons_append, List.cons_append, gather_bits (by omega), gather_bits (by omega),
        gather, hbits]
    · simp only [fitsLength, Bool.and_eq_true, Bool.not_eq_true',
        Bool.and_eq_false_iff, decide_eq_true_eq, decide_eq_false_iff_not]
      omega
  · have hbits : ((n / 262144 * 64 + n / 4096 % 64) * 64 + n / 64 % 64) * 64 + n % 64 = n := by
      omega
    refine ⟨_, [_, _, _], rfl, charAt?_of 3 (n / 262144) n (lead?_four (by omega)) ?_ ?_⟩
    · rw [List.cons_append, List.cons_append, List.cons_append, gather_bits (by omega),
        gather_bits (by omega), gather_bits (by omega), gather, hbits]
    · simp only [fitsLength, Bool.and_eq_true, decide_eq_true_eq]
      omega

/-! ### What is read as a character -/

theorem toUInt8_add_sub {b : UInt8} {lo : Nat} (h : lo ≤ b.toNat) :
    (lo + (b.toNat - lo)).toUInt8 = b := by
  rw [Nat.add_sub_cancel' h]
  exact UInt8.ofNat_toNat

theorem eq_of_continuation? {b : UInt8} {k : Nat} (h : continuation? b = some k) :
    b = (0x80 + k).toUInt8 ∧ k < 64 := by
  simp only [continuation?, Bool.and_eq_true, decide_eq_true_eq, Option.ite_none_right_eq_some,
    Option.some.injEq] at h
  obtain ⟨hrange, rfl⟩ := h
  exact ⟨(toUInt8_add_sub hrange.1).symm, by omega⟩

theorem eq_of_lead? {b : UInt8} {count bits : Nat} (h : lead? b = some (count, bits)) :
    count = 0 ∧ b = bits.toUInt8 ∨ count = 1 ∧ b = (0xC0 + bits).toUInt8 ∨
      count = 2 ∧ b = (0xE0 + bits).toUInt8 ∨ count = 3 ∧ b = (0xF0 + bits).toUInt8 := by
  simp only [lead?, Bool.and_eq_true, decide_eq_true_eq] at h
  split at h
  · cases h
    exact .inl ⟨rfl, UInt8.ofNat_toNat.symm⟩
  split at h
  · rename_i hrange
    cases h
    exact .inr (.inl ⟨rfl, (toUInt8_add_sub hrange.1).symm⟩)
  split at h
  · rename_i hrange
    cases h
    exact .inr (.inr (.inl ⟨rfl, (toUInt8_add_sub hrange.1).symm⟩))
  split at h
  · rename_i hrange
    cases h
    exact .inr (.inr (.inr ⟨rfl, (toUInt8_add_sub hrange.1).symm⟩))
  · cases h

theorem eq_of_gather {acc count n : Nat} {bs : Bytes} (h : gather acc (count + 1) bs = some n) :
    ∃ k rest, k < 64 ∧ bs = (0x80 + k).toUInt8 :: rest ∧
      gather (acc * 64 + k) count rest = some n := by
  cases bs with
  | nil => cases h
  | cons b rest =>
      rw [gather] at h
      cases hk : continuation? b with
      | none =>
          rw [hk] at h
          cases h
      | some k =>
          rw [hk] at h
          obtain ⟨rfl, hlt⟩ := eq_of_continuation? hk
          exact ⟨k, rest, hlt, rfl, h⟩

theorem isValidChar_of_fitsLength {count n : Nat} (h : fitsLength count n = true) :
    n.isValidChar := by
  unfold fitsLength at h
  split at h
  · exact .inl (Nat.lt_trans (of_decide_eq_true h) (by decide))
  · simp only [Bool.and_eq_true, decide_eq_true_eq] at h
    exact .inl (by omega)
  · simp only [Bool.and_eq_true, Bool.not_eq_true', Bool.and_eq_false_iff, decide_eq_true_eq,
      decide_eq_false_iff_not] at h
    show n < 0xD800 ∨ 0xDFFF < n ∧ n < 0x110000
    omega
  · simp only [Bool.and_eq_true, decide_eq_true_eq] at h
    exact .inr ⟨by omega, h.2⟩

theorem toNat_ofNat {n : Nat} (h : n.isValidChar) : (Char.ofNat n).toNat = n := by
  rw [Char.ofNat, dif_pos h]
  rfl

/-- What is read as a character is the bytes of that character. -/
theorem ofChar_of_charAt? {b : UInt8} {rest : Bytes} {c : Char} {count : Nat}
    (h : charAt? b rest = some (c, count)) : ofChar c = b :: rest.take count := by
  simp only [charAt?, Option.bind_eq_bind, Option.bind_eq_some_iff, Prod.exists] at h
  obtain ⟨k, bits, hlead, n, hgather, h⟩ := h
  split at h
  · rename_i hfits
    cases h
    have hvalid : n.isValidChar := isValidChar_of_fitsLength hfits
    -- every byte after the first one carries six bits of `n`
    rcases eq_of_lead? hlead with ⟨rfl, rfl⟩ | ⟨rfl, rfl⟩ | ⟨rfl, rfl⟩ | ⟨rfl, rfl⟩
    · obtain rfl : bits = n := Option.some.inj hgather
      have hn : bits < 0x80 := of_decide_eq_true hfits
      simp only [ofChar, toNat_ofNat hvalid]
      rw [if_pos hn]
      rfl
    · obtain ⟨k₁, rest, hk₁, rfl, hn⟩ := eq_of_gather hgather
      obtain rfl : bits * 64 + k₁ = n := Option.some.inj hn
      have hdiv : (bits * 64 + k₁) / 64 = bits := by omega
      have hmod : (bits * 64 + k₁) % 64 = k₁ := by omega
      simp only [fitsLength, Bool.and_eq_true, decide_eq_true_eq] at hfits
      simp only [ofChar, toNat_ofNat hvalid]
      rw [if_neg (by omega), if_pos hfits.2, hdiv, hmod]
      rfl
    · obtain ⟨k₁, rest₁, hk₁, rfl, h₁⟩ := eq_of_gather hgather
      obtain ⟨k₂, rest₂, hk₂, rfl, hn⟩ := eq_of_gather h₁
      obtain rfl : (bits * 64 + k₁) * 64 + k₂ = n := Option.some.inj hn
      have hdiv : ((bits * 64 + k₁) * 64 + k₂) / 4096 = bits := by omega
      have hmid : ((bits * 64 + k₁) * 64 + k₂) / 64 % 64 = k₁ := by omega
      have hmod : ((bits * 64 + k₁) * 64 + k₂) % 64 = k₂ := by omega
      simp only [fitsLength, Bool.and_eq_true, decide_eq_true_eq] at hfits
      simp only [ofChar, toNat_ofNat hvalid]
      rw [if_neg (by omega), if_neg (by omega), if_pos hfits.1.2, hdiv, hmid, hmod]
      rfl
    · obtain ⟨k₁, rest₁, hk₁, rfl, h₁⟩ := eq_of_gather hgather
      obtain ⟨k₂, rest₂, hk₂, rfl, h₂⟩ := eq_of_gather h₁
      obtain ⟨k₃, rest₃, hk₃, rfl, hn⟩ := eq_of_gather h₂
      obtain rfl : ((bits * 64 + k₁) * 64 + k₂) * 64 + k₃ = n := Option.some.inj hn
      have hdiv : (((bits * 64 + k₁) * 64 + k₂) * 64 + k₃) / 262144 = bits := by omega
      have hhigh : (((bits * 64 + k₁) * 64 + k₂) * 64 + k₃) / 4096 % 64 = k₁ := by omega
      have hmid : (((bits * 64 + k₁) * 64 + k₂) * 64 + k₃) / 64 % 64 = k₂ := by omega
      have hmod : (((bits * 64 + k₁) * 64 + k₂) * 64 + k₃) % 64 = k₃ := by omega
      simp only [fitsLength, Bool.and_eq_true, decide_eq_true_eq] at hfits
      simp only [ofChar, toNat_ofNat hvalid]
      rw [if_neg (by omega), if_neg (by omega), if_neg (by omega), hdiv, hhigh, hmid, hmod]
      rfl
  · cases h

/-! ### Strings -/

theorem runes_ofChar_append (c : Char) (rest : Bytes) :
    runes (ofChar c ++ rest) = .char c :: runes rest := by
  obtain ⟨b, tail, hc, hat⟩ := charAt?_ofChar c rest
  rw [hc, List.cons_append, runes, hat]
  simp

theorem runes_chars (cs : List Char) : runes (cs.flatMap ofChar) = cs.map .char := by
  induction cs with
  | nil => rw [List.flatMap_nil, runes, List.map_nil]
  | cons c cs ih => rw [List.flatMap_cons, runes_ofChar_append, ih, List.map_cons]

theorem ofString_append (s t : String) : ofString (s ++ t) = ofString s ++ ofString t := by
  rw [ofString, String.toList_append, List.flatMap_append]
  rfl

/-- **The bytes of a string are read as its characters.** -/
@[simp] theorem runes_ofString (s : String) : runes (ofString s) = s.toList.map .char :=
  runes_chars s.toList

@[simp] theorem toText_ofString (s : String) : toText (ofString s) = s := by
  rw [toText, runes_ofString, List.map_map]
  exact (congrArg String.ofList (List.map_id _)).trans (String.ofList_toList)

/-- **The runes of a byte string** make it up. -/
@[simp] theorem ofRunes_runes (s : Bytes) : ofRunes s.runes = s := by
  fun_induction runes s with
  | case1 => rfl
  | case2 b rest c count hat ih =>
      have hbytes : ofRunes (.char c :: runes (rest.drop count)) =
          ofChar c ++ ofRunes (runes (rest.drop count)) := rfl
      rw [hbytes, ih, ofChar_of_charAt? hat, List.cons_append, List.take_append_drop]
  | case3 b rest _ ih =>
      have hbytes : ofRunes (.stray b :: runes rest) = b :: ofRunes (runes rest) := rfl
      rw [hbytes, ih]

/-- Every rune takes at least one byte. -/
theorem length_runes_le (s : Bytes) : s.runes.length ≤ s.length := by
  fun_induction runes s with
  | case1 => exact Nat.le_refl _
  | case2 b rest c count _ ih =>
      simp only [List.length_cons, List.length_drop] at ih ⊢
      omega
  | case3 b rest _ ih =>
      simp only [List.length_cons]
      omega

/-! ### Plain texts -/

/-- ASCII alone, without the two characters that templates start with. -/
def Plain (s : Bytes) : Prop := ∀ b ∈ s, b.toNat < 0x80 ∧ b.toNat ≠ 36 ∧ b.toNat ≠ 37

instance (s : Bytes) : Decidable (Plain s) := List.decidableBAll _ s

end Bytes

/-- A statement about the characters of ASCII can be checked one by one. -/
theorem forall_ascii (P : Char → Prop) (h : ∀ n < 128, P (Char.ofNat n)) {c : Char}
    (hc : c.toNat < 128) : P c := by
  have hn := h c.toNat hc
  rwa [Char.ofNat_toNat] at hn

theorem isDigit_ascii {c : Char} (h : c.isDigit = true) : c.toNat < 128 := by
  simp only [Char.isDigit, Bool.and_eq_true, decide_eq_true_eq, UInt32.le_iff_toNat_le] at h
  exact Nat.lt_of_le_of_lt h.2 (by decide)

/-- The character is in ASCII and is none that templates start with. -/
def PlainChar (c : Char) : Prop := c.toNat < 0x80 ∧ c ≠ '$' ∧ c ≠ '%'

namespace Bytes

/-- A plain text consists of plain characters. -/
theorem Plain.exists_chars {s : Bytes} (h : s.Plain) :
    ∃ cs : List Char, s = cs.flatMap ofChar ∧ ∀ c ∈ cs, PlainChar c := by
  induction s with
  | nil => exact ⟨[], rfl, by simp⟩
  | cons b s ih =>
      obtain ⟨cs, rfl, hcs⟩ := ih fun x hx => h x (List.mem_cons_of_mem _ hx)
      obtain ⟨hascii, hdollar, hpercent⟩ := h b List.mem_cons_self
      have htoNat : (Char.ofNat b.toNat).toNat = b.toNat := toNat_ofNat (.inl (by omega))
      have hbyte : ofChar (Char.ofNat b.toNat) = [b] := by
        simp [ofChar, htoNat, hascii]
      refine ⟨Char.ofNat b.toNat :: cs, by rw [List.flatMap_cons, hbyte]; rfl, ?_⟩
      rintro c hc
      rcases List.mem_cons.mp hc with rfl | hc
      · refine ⟨by rw [htoNat]; exact hascii, fun heq => hdollar ?_, fun heq => hpercent ?_⟩
        · rw [← htoNat, heq]
          rfl
        · rw [← htoNat, heq]
          rfl
      · exact hcs c hc

end Bytes

/-- A plain text is in composed form. -/
theorem Text.compose_plain {cs : List Char} (h : ∀ c ∈ cs, PlainChar c) :
    Text.compose (cs.flatMap Bytes.ofChar) = cs.flatMap Bytes.ofChar := by
  have hlow : (cs.map Rune.char).all fun r => r.toChar.toNat < 0x300 := by
    simp only [List.all_map, List.all_eq_true]
    intro c hc
    have hc := (h c hc).1
    exact decide_eq_true (show c.toNat < 0x300 by omega)
  rw [Text.compose, Bytes.runes_chars]
  exact if_pos hlow

/-! ### Identifiers -/

namespace Text

/-- The characters after a byte order mark, if they start with one. -/
def unmarked (cs : List Char) : List Char :=
  if cs.head? = some byteOrderMark then cs.tail else cs

theorem unmarked_cons (c : Char) (cs : List Char) :
    unmarked (c :: cs) = if c = byteOrderMark then cs else c :: cs := by
  simp only [unmarked, List.head?_cons, Option.some.injEq, List.tail_cons]

theorem unmarked_append {cs : List Char} (h : cs ≠ []) (rest : List Char) :
    unmarked (cs ++ rest) = unmarked cs ++ rest := by
  cases cs with
  | nil => exact absurd rfl h
  | cons c cs =>
      rw [List.cons_append, unmarked_cons, unmarked_cons]
      split <;> rfl

theorem mapM_char? (cs : List Char) : (cs.map Rune.char).mapM Rune.char? = some cs := by
  induction cs with
  | nil => rfl
  | cons c cs ih => simp [Rune.char?, ih]

/-- Runes that are all characters are those characters. -/
theorem eq_of_mapM_char? {rs : List Rune} {cs : List Char} (h : rs.mapM Rune.char? = some cs) :
    rs = cs.map .char := by
  induction rs generalizing cs with
  | nil =>
      cases h
      rfl
  | cons r rs ih =>
      cases r with
      | stray b => simp [Rune.char?] at h
      | char c =>
          simp only [List.mapM_cons, Rune.char?, Option.bind_eq_bind, Option.bind_some,
            Option.bind_eq_some_iff] at h
          obtain ⟨ds, hds, h⟩ := h
          cases h
          rw [List.map_cons, ← ih hds]

theorem isIdentifier_eq {s : Bytes} {cs : List Char} (h : s.runes = cs.map .char) :
    isIdentifier s = isIdentChars (unmarked cs) := by
  rw [isIdentifier, h, mapM_char?]
  cases cs with
  | nil => rfl
  | cons c cs =>
      rw [unmarked_cons]
      simp only
      split <;> rfl

/-- A string is an identifier if its characters after the mark are. -/
theorem isIdentifier_ofString (s : String) :
    isIdentifier (.ofString s) = isIdentChars (unmarked s.toList) :=
  isIdentifier_eq (Bytes.runes_ofString s)

/-- An identifier is well formed, so it is the bytes of its text. -/
theorem ofString_toText {s : Bytes} (h : isIdentifier s = true) : Bytes.ofString s.toText = s := by
  cases hcs : s.runes.mapM Rune.char? with
  | none => simp [isIdentifier, hcs] at h
  | some cs =>
      have hrunes := eq_of_mapM_char? hcs
      have htext : s.toText.toList = cs := by
        rw [Bytes.toText, String.toList_ofList, hrunes, List.map_map]
        exact List.map_id cs
      have hbytes := Bytes.ofRunes_runes s
      rw [hrunes, Bytes.ofRunes, List.flatMap_map] at hbytes
      rw [Bytes.ofString, htext]
      exact hbytes

end Text

end Tacit
