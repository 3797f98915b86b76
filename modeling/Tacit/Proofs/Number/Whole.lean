import Mathlib.Data.List.TakeWhile
import Mathlib.Tactic.Common
import Tacit.Number.Big

/-!
# Whole numbers in decimal

A whole number of at most sixty-four bits is written with all its digits, and those digits are read
as the same number.

* `Interval.Centred`: the rounding interval of a whole number holds no other whole number.
* `gridPoint?_centred`, `firstGrid_centred`: so a grid of whole steps has a point in it only where
  the number is a multiple of the step.
* `text_ofInt`: the text of an integer is its decimal notation.
* `read?_repr`, `toInt?_whole`: what decimal digits are read as.
-/

namespace Tacit.Number

/-! ### Digits -/

theorem hexDigit_of_isDigit {c : Char} (h : c.isDigit = true) :
    Text.hexDigit (c.toNat - 48) = c := by
  have hlow : 48 ≤ c.toNat ∧ c.toNat ≤ 57 := by
    simpa [Char.isDigit, UInt32.le_iff_toNat_le] using h
  rw [Text.hexDigit, if_pos (by omega), Nat.add_sub_cancel' hlow.1, Char.ofNat_toNat]

theorem map_hexDigit_digitsOf (n : Nat) : (digitsOf n).map Text.hexDigit = Nat.toDigits 10 n := by
  rw [digitsOf, List.map_map]
  refine (List.map_congr_left fun c hc => ?_).trans (List.map_id _)
  exact hexDigit_of_isDigit (Nat.isDigit_of_mem_toDigits (by decide) (by decide) hc)

/-- Ten times a number ends in one zero more. -/
theorem toDigits_mul_pow {q : Nat} (hq : 0 < q) (j : Nat) :
    Nat.toDigits 10 (q * Nat.pow 10 j) = Nat.toDigits 10 q ++ List.replicate j '0' := by
  induction j with
  | zero => simp
  | succ j ih =>
      have hstep : q * Nat.pow 10 (j + 1) = 10 * (q * Nat.pow 10 j) + 0 := by
        show q * (Nat.pow 10 j * 10) = _
        rw [Nat.add_zero, ← Nat.mul_assoc, Nat.mul_comm 10]
      have hpos : 0 < q * Nat.pow 10 j := Nat.mul_pos hq (Nat.pow_pos (by decide))
      rw [hstep, ← Nat.toDigits_append_toDigits (by decide) hpos (by decide), ih,
        List.append_assoc, ← List.replicate_append_replicate]
      rfl

/-- Digits are those without the zeros at the end, and these zeros. -/
theorem digits_eq_kept (ds : List Nat) :
    let kept := (ds.reverse.dropWhile (· = 0)).reverse
    ds = kept ++ List.replicate (ds.length - kept.length) 0 := by
  intro kept
  have hsplit := List.takeWhile_append_dropWhile (p := (· = 0)) (l := ds.reverse)
  have hzeros : ds.reverse.takeWhile (· = 0) =
      List.replicate (ds.reverse.takeWhile (· = 0)).length 0 :=
    List.eq_replicate_of_mem fun n hn => by simpa using List.all_eq_true.mp List.all_takeWhile n hn
  have hds : ds = kept ++ (ds.reverse.takeWhile (· = 0)).reverse := by
    rw [← List.reverse_append, hsplit, List.reverse_reverse]
  have hlen : ds.length - kept.length = (ds.reverse.takeWhile (· = 0)).length := by
    have := congrArg List.length hds
    simp only [List.length_append, List.length_reverse] at this
    omega
  rw [hlen, ← List.reverse_replicate, ← hzeros]
  exact hds

theorem digitsOf_ne_zeros {q : Nat} (hq : 0 < q) (n : Nat) : digitsOf q ≠ List.replicate n 0 := by
  intro h
  have hdigits : Nat.toDigits 10 q = List.replicate n '0' := by
    rw [← map_hexDigit_digitsOf, h, List.map_replicate]
    rfl
  have hzero : ∀ n, Nat.ofDigitChars 10 (List.replicate n '0') 0 = 0 := by
    intro n
    induction n with
    | zero => rfl
    | succ n ih => exact ih
  have hvalue := Nat.ofDigitChars_toDigits (b := 10) (n := q) (by decide) (by decide)
  rw [hdigits, hzero] at hvalue
  omega

/-- A whole number of steps of `10 ^ j` is written with all its digits. -/
theorem positional_ofNat {q : Nat} (hq : 0 < q) (j : Nat) :
    (Decimal.ofNat q (-(j : Int))).positional = Nat.repr (q * Nat.pow 10 j) := by
  have hsplit := digits_eq_kept (digitsOf q)
  simp only at hsplit
  unfold Decimal.ofNat
  simp only
  generalize hkept : ((digitsOf q).reverse.dropWhile (· = 0)).reverse = kept at hsplit ⊢
  have hne : kept ≠ [] := by
    rintro rfl
    exact digitsOf_ne_zeros hq _ hsplit
  have hle : kept.length ≤ (digitsOf q).length := by
    have := congrArg List.length hsplit
    simp only [List.length_append] at this
    omega
  have hempty : kept.isEmpty = false := by simpa using hne
  have hpoint : ((digitsOf q).length : Int) - -(j : Int) = ((digitsOf q).length + j : Nat) := by
    omega
  have hpos : 0 < kept.length := List.length_pos_iff.mpr hne
  rw [hempty, if_neg (by simp), hpoint]
  unfold Decimal.positional
  simp only [hempty, Bool.false_eq_true, if_false]
  rw [if_neg (by omega), Int.toNat_natCast, if_pos (by omega)]
  apply String.toList_inj.mp
  rw [String.toList_append, Decimal.digitText, Text.zeros, String.toList_ofList,
    String.toList_ofList, Nat.toList_repr, toDigits_mul_pow hq, ← map_hexDigit_digitsOf]
  conv_rhs => rw [hsplit, List.map_append, List.map_replicate, List.append_assoc]
  have hzero : Text.hexDigit 0 = '0' := rfl
  rw [hzero, List.replicate_append_replicate]
  congr 2
  omega

/-! ### The rounding interval of a whole number -/

theorem scale_neg (r : Ratio) (j : Nat) :
    r.scale (-(j : Int)) = ⟨r.num, r.den * Nat.pow 10 j⟩ := by
  unfold Ratio.scale
  cases j with
  | zero => simp
  | succ j => rw [if_neg (by omega), Int.neg_neg, Int.toNat_natCast]

/-- The interval lies around the whole number `m` and reaches half a unit at most to either side. -/
structure Interval.Centred (i : Interval) (m : Nat) : Prop where
  exists_den : ∃ d x, 0 < x ∧ 2 * x ≤ d ∧ i.low = ⟨m * d - x, d⟩ ∧ i.value = ⟨m * d, d⟩ ∧
    i.high = ⟨m * d + x, d⟩

/-- A grid of whole steps has a point in the interval only at the number itself. -/
theorem gridPoint?_centred {i : Interval} {m : Nat} (h : i.Centred m) (hm : 0 < m) (j : Nat) :
    gridPoint? i (-(j : Int)) =
      if m % Nat.pow 10 j = 0 then some (m / Nat.pow 10 j) else none := by
  obtain ⟨d, x, hx, hd, hlow, hvalue, hhigh⟩ := h.exists_den
  have hdpos : 0 < d := by omega
  unfold gridPoint?
  simp only [scale_neg, hlow, hvalue, hhigh]
  generalize ht : Nat.pow 10 j = t
  have htpos : 0 < t := by rw [← ht]; exact Nat.pow_pos (by decide)
  have hdown : m * d / (d * t) = m / t := by
    rw [Nat.mul_comm m d, Nat.mul_div_mul_left _ _ hdpos]
  have hm' := Nat.div_add_mod m t
  have hmod := Nat.mod_lt m htpos
  rw [hdown]
  generalize hq : m / t = q at hm' ⊢
  generalize hr : m % t = r at hm' hmod ⊢
  -- the next point up is a whole unit away
  have hup : staysWithin (q + 1) ⟨m * d + x, d * t⟩ i.closed = false := by
    have hfar : m + 1 ≤ (q + 1) * t := by
      rw [Nat.add_mul, Nat.one_mul, Nat.mul_comm q]
      omega
    have hnum : m * d + d ≤ (q + 1) * (d * t) := by
      rw [← Nat.succ_mul, Nat.mul_comm d t, ← Nat.mul_assoc]
      exact Nat.mul_le_mul_right d hfar
    unfold staysWithin
    split
    · exact decide_eq_false (by show ¬ (q + 1) * (d * t) ≤ m * d + x; omega)
    · exact decide_eq_false (by show ¬ (q + 1) * (d * t) < m * d + x; omega)
  -- and so is the one below, unless it is the number
  have hreach : reaches q ⟨m * d - x, d * t⟩ i.closed = decide (r = 0) := by
    have hnum : m * d = q * (d * t) + r * d := by
      rw [← hm', Nat.add_mul, Nat.mul_comm t q, Nat.mul_assoc, Nat.mul_comm t d]
    have hmd : 0 < m * d := Nat.mul_pos hm hdpos
    have hrd : r = 0 ∨ d ≤ r * d := by
      rcases Nat.eq_zero_or_pos r with h0 | h0
      · exact .inl h0
      · exact .inr (Nat.le_mul_of_pos_left d h0)
    unfold reaches
    split
    · apply decide_eq_decide.mpr
      show m * d - x ≤ q * (d * t) ↔ r = 0
      constructor
      · intro hle
        omega
      · rintro rfl
        omega
    · apply decide_eq_decide.mpr
      show m * d - x < q * (d * t) ↔ r = 0
      constructor
      · intro hlt
        omega
      · rintro rfl
        omega
  rw [hup, hreach]
  by_cases h0 : r = 0
  · simp [h0]
  · simp [h0]

/-- From a grid of whole steps on, the search stops at a grid that the number is on. -/
theorem firstGrid_centred {i : Interval} {m : Nat} (h : i.Centred m) (hm : 0 < m) :
    ∀ (j fuel : Nat), j < fuel →
      ∃ q j' : Nat, firstGrid i fuel (-(j : Int)) = (q, -(j' : Int)) ∧ q * Nat.pow 10 j' = m
  | 0, fuel + 1, _ => by
      refine ⟨m, 0, ?_, by simp⟩
      have hgrid := gridPoint?_centred h hm 0
      rw [firstGrid, hgrid]
      simp [Nat.mod_one]
  | j + 1, fuel + 1, hlt => by
      have hgrid := gridPoint?_centred h hm (j + 1)
      by_cases hmod : m % Nat.pow 10 (j + 1) = 0
      · rw [if_pos hmod] at hgrid
        refine ⟨_, j + 1, by rw [firstGrid, hgrid], ?_⟩
        exact Nat.div_mul_cancel (Nat.dvd_of_mod_eq_zero hmod)
      · rw [if_neg hmod] at hgrid
        obtain ⟨q, j', hq, hval⟩ := firstGrid_centred h hm j fuel (by omega)
        refine ⟨q, j', ?_, hval⟩
        rw [firstGrid, hgrid]
        have hk : -((j + 1 : Nat) : Int) + 1 = -(j : Int) := by omega
        rw [hk]
        exact hq

/-! ### The decimal point -/

theorem decimalPoint_bounds (r : Ratio) : ∀ (fuel : Nat) (guess : Int),
    guess ≤ decimalPoint r fuel guess ∧ decimalPoint r fuel guess ≤ guess + fuel ∧
      (decimalPoint r fuel guess = guess + fuel ∨
        (r.scale (-decimalPoint r fuel guess)).num < (r.scale (-decimalPoint r fuel guess)).den)
  | 0, guess => by simp [decimalPoint]
  | fuel + 1, guess => by
      rw [decimalPoint]
      split
      · rename_i h
        exact ⟨by omega, by omega, .inr h⟩
      · obtain ⟨h₁, h₂, h₃⟩ := decimalPoint_bounds r fuel (guess + 1)
        refine ⟨by omega, by omega, ?_⟩
        rcases h₃ with h₃ | h₃
        · exact .inl (by omega)
        · exact .inr h₃

/-- At or below the unit, no positive whole number is below the point. -/
theorem decimalPoint_pos {m : Nat} (hm : 0 < m) (d fuel : Nat) (guess : Int)
    (h : 0 < guess + fuel) : 0 < decimalPoint ⟨m * d, d⟩ fuel guess := by
  obtain ⟨-, -, hend⟩ := decimalPoint_bounds ⟨m * d, d⟩ fuel guess
  generalize decimalPoint ⟨m * d, d⟩ fuel guess = p at hend
  rcases hend with rfl | hlt
  · exact h
  · by_contra hp
    unfold Ratio.scale at hlt
    rw [if_pos (by omega)] at hlt
    have hpow : 0 < Nat.pow 10 (-p).toNat := Nat.pow_pos (by decide)
    have hmd : d ≤ m * d := Nat.le_mul_of_pos_left d hm
    have hle : m * d ≤ m * d * Nat.pow 10 (-p).toNat := Nat.le_mul_of_pos_right _ hpow
    exact absurd hlt (by show ¬ m * d * Nat.pow 10 (-p).toNat < d; omega)

/-! ### Bits -/

theorem bitLength_pos {m : Nat} (hm : 0 < m) : 0 < bitLength m := by
  rw [bitLength, if_neg (by omega)]
  exact Nat.succ_pos _

theorem bitLength_le {m : Nat} (h : m < Nat.pow 2 64) : bitLength m ≤ 64 := by
  unfold bitLength
  split
  · exact Nat.zero_le _
  · rename_i h0
    exact (Nat.log2_lt h0).mpr h

theorem shiftLeft_pos {m : Nat} (hm : 0 < m) (g : Nat) : 0 < m <<< g := by
  rw [Nat.shiftLeft_eq]
  exact Nat.mul_pos hm (Nat.two_pow_pos g)

theorem bitLength_shiftLeft {m : Nat} (hm : 0 < m) (g : Nat) :
    bitLength (m <<< g) = bitLength m + g := by
  induction g with
  | zero => rfl
  | succ g ih =>
      have hne : m <<< g ≠ 0 := Nat.ne_of_gt (shiftLeft_pos hm g)
      rw [Nat.shiftLeft_succ, bitLength, if_neg (by omega), Nat.log2_two_mul hne]
      rw [bitLength, if_neg hne] at ih
      omega

theorem centred_around (m g : Nat) : (Interval.around (m <<< g) (-(g : Int)) false).Centred m := by
  have hexp : (-(-(g : Int) - 2)).toNat = g + 2 := by omega
  have hneg : ¬ 0 ≤ -(g : Int) - 2 := by omega
  have hnum : 4 * (m <<< g) = m * (1 <<< (g + 2)) := by
    rw [Nat.shiftLeft_eq, Nat.shiftLeft_eq, Nat.one_mul, Nat.pow_add, Nat.mul_comm 4, Nat.mul_assoc]
  have hden : 2 * 2 ≤ 1 <<< (g + 2) := by
    rw [Nat.shiftLeft_eq, Nat.one_mul, Nat.pow_add]
    exact Nat.le_mul_of_pos_left _ (Nat.two_pow_pos g)
  refine ⟨1 <<< (g + 2), 2, by decide, hden, ?_, ?_, ?_⟩ <;>
    simp only [Interval.around, Ratio.binary, if_neg hneg, hexp, hnum, Bool.false_eq_true, if_false]

/-! ### Text -/

/-- The shortest decimal of a whole number of sixty-four bits has all its digits. -/
theorem shortest_whole {m : Nat} (hm : 0 < m) (h : bitLength m ≤ 64) :
    (shortest (m <<< (64 - bitLength m)) (-((64 - bitLength m : Nat) : Int)) false).positional =
      Nat.repr m := by
  generalize hg : 64 - bitLength m = g
  have hbits : bitLength (m <<< g) = 64 := by
    rw [bitLength_shiftLeft hm]
    omega
  have hne : m <<< g ≠ 0 := Nat.ne_of_gt (shiftLeft_pos hm g)
  have hcentred := centred_around m g
  obtain ⟨d, x, -, -, -, hvalue, -⟩ := hcentred.exists_den
  have hlow := bitLength_pos hm
  unfold shortest
  simp only [if_neg hne, hbits, hvalue]
  generalize hguess : pointGuess (-(g : Int) + (64 : Nat)) = guess
  have hguess₁ : -1 ≤ guess ∧ guess ≤ 17 := by
    unfold pointGuess at hguess
    omega
  obtain ⟨-, hmax, -⟩ := decimalPoint_bounds ⟨m * d, d⟩ 8 guess
  have hmin := decimalPoint_pos hm d 8 guess (by omega)
  generalize decimalPoint ⟨m * d, d⟩ 8 guess = p at hmax hmin
  obtain ⟨j, hj⟩ : ∃ j : Nat, 1 - p = -(j : Int) := ⟨(p - 1).toNat, by omega⟩
  rw [hj]
  obtain ⟨q, j', hgrid, hq⟩ := firstGrid_centred hcentred hm j (64 + 3) (by omega)
  rw [hgrid]
  have hqpos : 0 < q := by
    rcases Nat.eq_zero_or_pos q with rfl | hpos
    · omega
    · exact hpos
  rw [positional_ofNat hqpos, hq]

namespace Big

theorem shiftRound_zero (m : Nat) : shiftRound m 0 = m := by
  simp [shiftRound]

/-- A whole number that needs no more bits than count is not rounded. -/
theorem round_whole {p m : Nat} (negative : Bool) (hm : bitLength m ≤ p) (hp : p ≤ 512) :
    round p negative m 0 = .finite p negative m 0 := by
  have htop : top m 0 = bitLength m := Int.zero_add _
  have hextra : bitLength m - p = 0 := by omega
  unfold round
  simp only [htop, hextra, shiftRound_zero]
  by_cases h0 : m = 0
  · simp [h0]
  · have hmin : ¬ (bitLength m : Int) < minTop := by unfold minTop; omega
    have hmax : ¬ maxTop < (bitLength m : Int) := by unfold maxTop; omega
    simp [h0, hmin, hmax, htop]

theorem ofInt_eq {n : Int} (h : n.natAbs < Nat.pow 2 64) :
    ofInt n = .finite 64 (n < 0) n.natAbs 0 := round_whole _ (bitLength_le h) (by decide)

/-- **The text of an integer** is its decimal notation. -/
theorem text_ofInt {n : Int} (h : n.natAbs < Nat.pow 2 64) : (ofInt n).text = Text.decimal n := by
  have hdigits : (shortest (n.natAbs <<< (64 - bitLength n.natAbs))
      (0 - ((64 - bitLength n.natAbs : Nat) : Int)) false).positional = Nat.repr n.natAbs := by
    rcases Nat.eq_zero_or_pos n.natAbs with h0 | hpos
    · rw [h0]
      rfl
    · rw [Int.zero_sub]
      exact shortest_whole hpos (bitLength_le h)
  rw [ofInt_eq h, text, hdigits, Text.decimal]
  by_cases hneg : n < 0
  · simp [hneg]
  · simp [hneg]

/-! ### Reading -/

theorem digitsValue_toDigits (n : Nat) : digitsValue (Nat.toDigits 10 n) = n :=
  Nat.ofDigitChars_toDigits (by decide) (by decide)

theorem takeDigits_of_all {cs : List Char} (h : ∀ c ∈ cs, c.isDigit = true) :
    takeDigits cs = (cs, []) := by
  rw [takeDigits, List.takeWhile_eq_self_iff.mpr h, List.dropWhile_eq_nil_iff.mpr h]

theorem ofDecimal?_whole {n : Nat} (negative : Bool) (h : bitLength n ≤ 512) :
    ofDecimal? negative n 0 0 = some (.finite 512 negative n 0) := by
  have htop : top n (0 + 0) = bitLength n := Int.zero_add _
  have hmin : ¬ (bitLength n : Int) < minTop := by unfold minTop; omega
  have hmax : ¬ maxTop < (bitLength n : Int) := by unfold maxTop; omega
  have hround : round fullPrecision negative n (0 + 0) = .finite 512 negative n 0 :=
    round_whole negative h (Nat.le_refl _)
  unfold ofDecimal?
  simp only [htop, hround]
  by_cases h0 : n = 0
  · simp [h0, fullPrecision]
  · simp [h0, hmin, hmax]

/-- Digits alone, whatever comes of the sign. -/
theorem readUnsigned?_digits {n : Nat} (negative : Bool) (h : bitLength n ≤ 512) :
    readUnsigned? negative (Nat.toDigits 10 n) = some (.finite 512 negative n 0) := by
  have hdigits : ∀ c ∈ Nat.toDigits 10 n, c.isDigit = true := fun c hc =>
    Nat.isDigit_of_mem_toDigits (by decide) (by decide) hc
  have hne : (Nat.toDigits 10 n).isEmpty = false := by simp
  unfold readUnsigned?
  simp only [takeDigits_of_all hdigits, hne, Bool.false_and, Bool.false_eq_true, if_false,
    readExponent?, List.append_nil, digitsValue_toDigits]
  exact ofDecimal?_whole negative h

/-- **What decimal digits are read as.** -/
theorem read?_repr {n : Nat} (h : bitLength n ≤ 512) :
    read? (Nat.repr n) = some (.finite 512 false n 0) := by
  have hunsigned := readUnsigned?_digits false h
  have hdigits : ∀ c ∈ Nat.toDigits 10 n, c.isDigit = true := fun c hc =>
    Nat.isDigit_of_mem_toDigits (by decide) (by decide) hc
  unfold read?
  rw [Nat.toList_repr]
  cases hcs : Nat.toDigits 10 n with
  | nil => exact absurd hcs Nat.toDigits_ne_nil
  | cons c cs =>
      rw [hcs] at hunsigned hdigits
      have hc := hdigits c List.mem_cons_self
      -- a digit is neither a sign nor the first letter of an infinity
      have hchars : c ≠ '-' ∧ c ≠ '+' ∧ c ≠ 'I' ∧ c ≠ 'i' := by
        refine ⟨?_, ?_, ?_, ?_⟩ <;> (rintro rfl; cases hc)
      split
      rename_i heq
      split at heq
      · simp_all
      · simp_all
      · cases heq
        simp [hchars.2.2.1, hchars.2.2.2, hunsigned]

/-- A whole number of sixty-four bits is that integer, with its sign. -/
theorem toInt?_whole {p n : Nat} (negative : Bool) (h : bitLength n ≤ 64) :
    toInt? (.finite p negative n 0) = some (if negative then -(n : Int) else n) := by
  have htop : top n 0 = bitLength n := Int.zero_add _
  unfold toInt?
  by_cases h0 : n = 0
  · cases negative <;> simp [h0]
  · have hpos := bitLength_pos (Nat.pos_of_ne_zero h0)
    have hrange :
        (decide ((bitLength n : Int) > 64) || decide ((bitLength n : Int) ≤ 0)) = false := by
      simp only [Bool.or_eq_false_iff, decide_eq_false_iff_not]
      omega
    simp only [if_neg h0, htop, hrange, Bool.false_eq_true, if_false, Int.le_refl, if_true,
      decide_true, Bool.true_or]
    rfl

end Big

end Tacit.Number
