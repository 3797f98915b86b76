import Mathlib.Data.List.Forall2
import Tacit.Formula.Parser
import Tacit.Proofs.Formula.Scanning
import Tacit.Proofs.Number.Whole

/-!
# Reading formulas

`Reads us x` says that the tokens `us` are the formula `x`, whatever follows that ends a formula.
The reader takes sixteen nested steps for a token at most.

* `formula_of_term`: no operator and no access follows, so a term is a whole formula.
* `reads_name`, `reads_number`, `reads_negative`, `reads_text`: formulas without parts.
* `items_commas`, `reads_call`, `reads_tuple`: formulas with commas between them, calls and
  sequences.
* `Reads.ofTokens?`: all the tokens are the formula.
-/

namespace Tacit.Formula

/-- A formula ends where the tokens start. -/
def Ends (ts : List Token) : Prop :=
  ∀ t ∈ ts.head?, t = .sign .comma ∨ t = .sign .closeParen ∨ t = .sign .closeBracket

variable {ts us rest : List Token} {x : Formula}

theorem Ends.skip (h : Ends rest) : skip false rest = rest := by
  cases rest with
  | nil => rfl
  | cons t rest => rcases h t rfl with rfl | rfl | rfl <;> rfl

theorem Ends.access (h : Ends rest) (fuel : Nat) (x : Formula) :
    access (fuel + 1) false x rest = some (x, rest) := by
  rw [Formula.access, h.skip]
  cases rest with
  | nil => rfl
  | cons t rest => rcases h t rfl with rfl | rfl | rfl <;> rfl

theorem Ends.operationFrom (h : Ends rest) (fuel level : Nat) (x : Formula) :
    operationFrom (fuel + 1) false level x rest = some (x, rest) := by
  have hop : ∀ t ∈ rest.head?, operator? level t = none := by
    intro t ht
    rcases h t ht with rfl | rfl | rfl <;> simp [operator?]
  rw [Formula.operationFrom, h.skip]
  cases rest with
  | nil => rfl
  | cons t rest => simp [hop t rfl]

/-- A term is an operation of every level. -/
theorem operation_of_term {fuel : Nat} (h : term (fuel + 1) false ts = some (x, rest))
    (hrest : Ends rest) (k : Nat) (hk : k ≤ levels) :
    operation (fuel + 2 + k) false (levels - k) ts = some (x, rest) := by
  -- from the tightest level outwards; at each one no operator follows
  induction k with
  | zero =>
      rw [Formula.operation]
      simp [h, hrest.access]
  | succ k ih =>
      have hlevel : levels - (k + 1) + 1 = levels - k := by omega
      have hfrom := hrest.operationFrom (fuel + 1 + k) (levels - (k + 1)) x
      rw [show fuel + 1 + k + 1 = fuel + 2 + k by omega] at hfrom
      rw [← Nat.add_assoc, Formula.operation, if_pos (by omega), hlevel, ih (by omega)]
      exact hfrom

theorem formula_of_term {fuel : Nat} (h : term (fuel + 1) false ts = some (x, rest))
    (hrest : Ends rest) : formula (fuel + 9) false ts = some (x, rest) := by
  have hop : operation (fuel + 8) false 0 ts = some (x, rest) :=
    operation_of_term h hrest levels (Nat.le_refl _)
  rw [formula, hop]
  simp only [Option.bind_eq_bind, Option.bind_some, hrest.skip]
  cases rest with
  | nil => rfl
  | cons t rest => rcases hrest t rfl with rfl | rfl | rfl <;> rfl

/-- The tokens are the formula. -/
structure Reads (us : List Token) (x : Formula) : Prop where
  starts : ∃ t us', us = t :: us' ∧
    t ≠ .endOfLine ∧ t ≠ .sign .closeParen ∧ t ≠ .sign .closeBracket
  term : ∀ fuel rest, 16 * us.length ≤ fuel + 9 → Ends rest →
    term (fuel + 1) false (us ++ rest) = some (x, rest)

/-! ### Formulas without parts -/

/-- A word that has no value of its own is a name. -/
theorem word_name {s : String} (h : ∀ w ∈ ["true", "false", "null"], s ≠ w) : word s = .name s := by
  simp only [List.mem_cons, List.not_mem_nil, or_false, forall_eq_or_imp, forall_eq] at h
  obtain ⟨htrue, hfalse, hnull⟩ := h
  unfold word
  split
  · exact absurd rfl htrue
  · exact absurd rfl hfalse
  · exact absurd rfl hnull
  · rfl

theorem reads_name (s : String) : Reads [.name s] (word s) := by
  refine ⟨⟨_, [], rfl, by simp⟩, fun fuel rest _ hrest => ?_⟩
  have hskip : skip false ([.name s] ++ rest) = .name s :: rest := rfl
  rw [Formula.term, hskip]
  simp only [hrest.skip]
  cases rest with
  | nil => rfl
  | cons t rest => rcases hrest t rfl with rfl | rfl | rfl <;> rfl

theorem reads_number {s : String} (h : number? s = some x) : Reads [.number s] x := by
  refine ⟨⟨_, [], rfl, by simp⟩, fun fuel rest _ _ => ?_⟩
  have hskip : skip false ([.number s] ++ rest) = .number s :: rest := rfl
  rw [Formula.term, hskip]
  simp [h]

theorem reads_negative {s : String} (h : number? s = some x) :
    Reads [.sign .minus, .number s] (.unary .negate x) := by
  refine ⟨⟨_, [.number s], rfl, by simp⟩, fun fuel rest hfuel hrest => ?_⟩
  have hskip : skip false ([.sign .minus, .number s] ++ rest) =
      .sign .minus :: ([.number s] ++ rest) := rfl
  obtain ⟨fuel, rfl⟩ : ∃ n, fuel = n + 2 := ⟨fuel - 2, by simp at hfuel; omega⟩
  have hterm := (reads_number h).term fuel rest (by simp at hfuel ⊢; omega) hrest
  have hop := operation_of_term hterm hrest 0 (Nat.zero_le _)
  rw [Formula.term, hskip]
  simp only
  rw [show fuel + 2 = fuel + 2 + 0 from rfl, show levels = levels - 0 from rfl, hop]
  rfl

theorem reads_text (s : Bytes) :
    Reads (.openQuote :: Token.textToken s ++ [.closeQuote]) (literalText s) := by
  refine ⟨⟨_, _, rfl, by simp⟩, fun fuel rest hfuel _ => ?_⟩
  obtain ⟨fuel, rfl⟩ : ∃ n, fuel = n + 2 := ⟨fuel - 2, by simp at hfuel; omega⟩
  rw [Formula.term]
  cases s with
  | nil =>
      have hparts : parts (fuel + 2) .closeQuote false (.closeQuote :: rest) = some ([], rest) := by
        simp [parts]
      simp [Token.textToken, skip, hparts]
      rfl
  | cons b s =>
      have hparts : parts (fuel + 2) .closeQuote false (.text (b :: s) :: .closeQuote :: rest) =
          some ([.text (b :: s)], rest) := by
        simp [parts, trimsBefore]
      simp [Token.textToken, skip, hparts]
      rfl

/-! ### Formulas with commas between them -/

/-- Tokens with commas between. -/
def commas : List (List Token) → List Token
  | [] => []
  | [us] => us
  | us :: uss => us ++ .sign .comma :: commas uss

theorem Reads.formula (h : Reads us x) {fuel : Nat} (hfuel : 16 * us.length + 8 ≤ fuel)
    (hrest : Ends rest) : formula (fuel + 1) false (us ++ rest) = some (x, rest) := by
  obtain ⟨fuel, rfl⟩ : ∃ n, fuel = n + 8 := ⟨fuel - 8, by omega⟩
  exact formula_of_term (h.term fuel rest (by omega) hrest) hrest

variable {close : Sign}

/-- A sign that closes a list of formulas. -/
def Closes (close : Sign) : Prop := close = .closeParen ∨ close = .closeBracket

theorem Closes.ends (h : Closes close) (ts : List Token) : Ends (.sign close :: ts) := by
  intro t ht
  cases ht
  rcases h with rfl | rfl
  · exact .inr (.inl rfl)
  · exact .inr (.inr rfl)

theorem ends_comma (ts : List Token) : Ends (.sign .comma :: ts) := by
  intro t ht
  cases ht
  exact .inl rfl

/-- A formula starts with a token that does not close a list, and no end of line is before it. -/
theorem Reads.head (h : Reads us x) (hclose : Closes close) (rest : List Token) :
    ∃ t ts, us ++ rest = t :: ts ∧ skip false (t :: ts) = t :: ts ∧ t ≠ .sign close := by
  obtain ⟨t, us', rfl, hend, hparen, hbracket⟩ := h.starts
  refine ⟨t, us' ++ rest, rfl, by simp [skip, hend], ?_⟩
  rcases hclose with rfl | rfl
  · exact hparen
  · exact hbracket

/-- The last item of a list. -/
theorem Reads.items_last (h : Reads us x) (hclose : Closes close) {fuel : Nat}
    (hfuel : 16 * us.length + 8 ≤ fuel) (rest : List Token) :
    items (fuel + 2) close (us ++ .sign close :: rest) = some ([x], false, rest) := by
  have hformula := h.formula hfuel (hclose.ends rest)
  obtain ⟨t, ts, hcons, hskip, hne⟩ := h.head hclose (.sign close :: rest)
  rw [hcons] at hformula ⊢
  rw [items, hskip]
  simp only [if_neg hne, hformula, Option.bind_eq_bind, Option.bind_some, (hclose.ends rest).skip]
  rcases hclose with rfl | rfl <;> rfl

/-- An item before others. -/
theorem Reads.items_comma (h : Reads us x) (hclose : Closes close) {fuel : Nat}
    (hfuel : 16 * us.length + 8 ≤ fuel) {xs : List Formula} {expand : Bool} {after : List Token}
    (hitems : items (fuel + 1) close rest = some (xs, expand, after)) :
    items (fuel + 2) close (us ++ .sign .comma :: rest) = some (x :: xs, expand, after) := by
  have hformula := h.formula hfuel (ends_comma rest)
  obtain ⟨t, ts, hcons, hskip, hne⟩ := h.head hclose (.sign .comma :: rest)
  rw [hcons] at hformula ⊢
  rw [items, hskip]
  simp only [if_neg hne, hformula, Option.bind_eq_bind, Option.bind_some, (ends_comma rest).skip,
    hitems]
  rfl

/-- **Items are read one by one.** -/
theorem items_commas (hclose : Closes close) (rest : List Token) {uss : List (List Token)}
    {xs : List Formula} (h : List.Forall₂ Reads uss xs) (fuel : Nat)
    (hfuel : 16 * (commas uss).length + 8 ≤ fuel) :
    items (fuel + 2) close (commas uss ++ .sign close :: rest) = some (xs, false, rest) := by
  induction h generalizing fuel with
  | nil =>
      rw [items]
      simp [commas, (hclose.ends rest).skip]
  | @cons us x uss xs hx h ih =>
      cases h with
      | nil => exact hx.items_last hclose hfuel rest
      | @cons us' x' uss xs hx' h =>
          rw [commas, List.length_append, List.length_cons] at hfuel
          · rw [commas, List.append_assoc, List.cons_append]
            · refine hx.items_comma hclose (by omega) ?_
              obtain ⟨fuel, rfl⟩ : ∃ n, fuel = n + 1 := ⟨fuel - 1, by omega⟩
              exact ih fuel (by omega)
            · simp
          · simp

/-- A call of formulas. -/
theorem reads_call (f : String) {uss : List (List Token)} {xs : List Formula}
    (h : List.Forall₂ Reads uss xs) :
    Reads (.name f :: .sign .openParen :: commas uss ++ [.sign .closeParen])
      (.call f xs false) := by
  refine ⟨⟨_, _, rfl, by simp⟩, fun fuel rest hfuel _ => ?_⟩
  simp only [List.cons_append, List.length_cons, List.length_append, List.length_nil] at hfuel
  obtain ⟨fuel, rfl⟩ : ∃ n, fuel = n + 3 := ⟨fuel - 3, by omega⟩
  have hitems := items_commas (.inl rfl) rest h fuel (by omega)
  have hcall : callFrom (fuel + 3) false f (.sign .openParen :: (commas uss ++
      .sign .closeParen :: rest)) = some (.call f xs false, rest) := by
    rw [callFrom, show skip false (.sign .openParen :: (commas uss ++ .sign .closeParen :: rest)) =
      .sign .openParen :: (commas uss ++ .sign .closeParen :: rest) from rfl]
    simp [hitems]
  rw [Formula.term]
  simpa [skip] using hcall

/-- The first token of items, or of what closes them. -/
theorem head_commas {uss : List (List Token)} {xs : List Formula} (h : List.Forall₂ Reads uss xs)
    (hclose : Closes close) (rest : List Token) :
    ∃ t ts, commas uss ++ .sign close :: rest = t :: ts ∧ skip false (t :: ts) = t :: ts ∧
      (t = .sign close ∨ (commas uss).head? = some t) := by
  cases h with
  | nil => exact ⟨_, _, rfl, (hclose.ends rest).skip, .inl rfl⟩
  | @cons us x uss xs hx h =>
      obtain ⟨t, us', rfl, hend, -⟩ := hx.starts
      have hcommas : ∃ ts, commas ((t :: us') :: uss) = t :: ts := by
        cases uss with
        | nil => exact ⟨us', rfl⟩
        | cons us'' uss => exact ⟨_, rfl⟩
      obtain ⟨ts, hts⟩ := hcommas
      rw [hts]
      exact ⟨t, _, rfl, by simp [skip, hend], .inr rfl⟩

/-- A sequence of formulas; no comprehension starts with the first of them. -/
theorem reads_tuple {uss : List (List Token)} {xs : List Formula}
    (h : List.Forall₂ Reads uss xs) (hfor : (commas uss).head? ≠ some (.name "for")) :
    Reads (.sign .openBracket :: commas uss ++ [.sign .closeBracket]) (.tuple xs) := by
  refine ⟨⟨_, _, rfl, by simp⟩, fun fuel rest hfuel _ => ?_⟩
  simp only [List.cons_append, List.length_cons, List.length_append, List.length_nil] at hfuel
  obtain ⟨fuel, rfl⟩ : ∃ n, fuel = n + 2 := ⟨fuel - 2, by omega⟩
  have hitems := items_commas (.inr rfl) rest h fuel (by omega)
  obtain ⟨t, ts, hts, hskip, ht⟩ := head_commas h (.inr rfl) rest
  have hname : t ≠ .name "for" := by
    rintro rfl
    rcases ht with ht | ht
    · cases ht
    · exact hfor ht
  have hbracket : .sign .openBracket :: commas uss ++ [.sign .closeBracket] ++ rest =
      .sign .openBracket :: (t :: ts) := by
    rw [← hts]
    simp
  rw [hts] at hitems
  rw [Formula.term, hbracket, show skip false (.sign .openBracket :: (t :: ts)) =
    .sign .openBracket :: (t :: ts) from rfl]
  simp only [hskip]
  split
  · rename_i heq
    cases heq
    exact absurd rfl hname
  · simp [hitems]

/-! ### Whole texts -/

/-- The tokens of a formula alone are read as it. -/
theorem Reads.ofTokens? (h : Reads us x) : ofTokens? us = some x := by
  have hformula : Formula.formula (16 * us.length + 31 + 1) false (us ++ []) = some (x, []) :=
    h.formula (by omega) (by simp [Ends])
  have hfuel : 16 * us.length + 31 + 1 = fuelFor us := by
    rw [fuelFor]
    omega
  rw [List.append_nil, hfuel] at hformula
  simp [Formula.ofTokens?, hformula, skip]

/-- A number in decimal is the formula of the number. -/
theorem number?_repr {n : Nat} (h : n < Nat.pow 2 64) :
    number? (Nat.repr n) = some (.literal (.number (.finite 512 false n 0))) := by
  rw [number?, Number.Big.read?_repr (Nat.le_trans (Number.bitLength_le h) (by decide))]
  rfl

end Tacit.Formula
