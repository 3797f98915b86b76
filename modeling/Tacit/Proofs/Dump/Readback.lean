import Tacit.Catalogue
import Tacit.Formula.Eval
import Tacit.Proofs.Args.Decoding
import Tacit.Proofs.Dump.Listing
import Tacit.Proofs.Dump.Written
import Tacit.Proofs.Word.Identifiers

/-!
# Operations are read back

The text of an operation is a formula: a call with one argument for each operand.

* `Value.Plain`, `Formula.Denotes`: values that literal notation expresses in full, and formulas
  whose value they are. `Datum.Spells` is about the datum between the two.
* `Expr.ReadAs`: the formula that an operand is read as.
* `Expr.Legible`, `legible_operands`: the operands of compiled operations that are read back.
* `operations_read_back`: the text of a compiled operation is the call of its word.
* `mark_is_lost`: the call lacks the byte order mark of the word's name.
-/

namespace Tacit

open Dump (Expresses constTokens exprTokens)

/-! ### Numbers and names -/

theorem Basic.integer?_cases {b : Basic} {signed : Bool} {bits : Nat}
    (h : b.integer? = some (signed, bits)) (hb : b ≠ .uintptr) :
    b.shape? = some .number ∧ bits ≤ 64 := by
  cases b <;> first | exact absurd rfl hb | (cases h; exact ⟨rfl, by decide⟩) | cases h

theorem value?_wholeFormula (n : Int) :
    (Dump.wholeFormula n).value? = some (.number (.finite 512 (n < 0) n.natAbs 0)) := by
  unfold Dump.wholeFormula
  by_cases hn : n < 0
  · rw [if_pos hn, decide_eq_true hn]
    rfl
  · rw [if_neg hn, decide_eq_false hn]
    rfl

/-- The name of a slot is an identifier, and it is none of the words with a value. -/
theorem expresses_slot {letter : String} (h : letter = "i" ∨ letter = "o") (k : Nat) :
    Expresses [.name (letter ++ Nat.repr k)] (.name (letter ++ Nat.repr k)) := by
  have hdigits : ∀ c ∈ (Nat.repr k).toList, Text.isIdentPart c = true := by
    intro c hc
    rw [Nat.toList_repr] at hc
    have hdigit := Nat.isDigit_of_mem_toDigits (by decide) (by decide) hc
    have hword : isWordChar c = true := by simp [isWordChar, Char.isAlphanum, hdigit]
    exact isIdentPart_of_isWordChar hword
  have hname : Formula.word (letter ++ Nat.repr k) = .name (letter ++ Nat.repr k) := by
    have hhead : (letter ++ Nat.repr k).toList.head? = letter.toList.head? := by
      rcases h with rfl | rfl <;> simp
    have hwords : ∀ w ∈ ["true", "false", "null"], w.toList.head? ≠ letter.toList.head? := by
      rcases h with rfl | rfl <;> decide
    exact Formula.word_name fun w hw heq => hwords w hw (heq ▸ hhead)
  rw [← hname]
  refine Dump.expresses_name ?_
  rw [String.toList_append]
  rcases h with rfl | rfl
  · exact List.all_eq_true.mpr hdigits
  · exact List.all_eq_true.mpr hdigits

section

variable [Declarations]

/-! ### Constants -/

/-- A truth value, an integer within the limits of its type, or a plain text. -/
inductive Value.Plain : Value → Prop where
  | bool {t : Ty} {b : Bool} : t.underlying = .bool → Value.Plain ⟨t, .bool b⟩
  | int {t : Ty} {n lo hi : Int} : t.limits? = some (lo, hi) → lo ≤ n → n ≤ hi →
      Value.Plain ⟨t, .int n⟩
  | text {t : Ty} {s : Bytes} : t.underlying = .string → s.Plain → Value.Plain ⟨t, .text s⟩

namespace Ty

/-- A type whose values are no pointers and no interfaces, and which literal notation expresses. -/
structure IsScalar (t : Ty) (shape : Shape) : Prop where
  shape : t.shape? = some shape
  endless : t.isEndless = false
  peel : t.peel = (0, t)
  plain : t.carrier? = none
  value : t.isInterface = false
  follow : ∀ (s : Store) (d : Data), s.follow t d = some (t, d)

variable {t : Ty} {b : Basic} {shape : Shape}

theorem isScalar_of_underlying (h : t.underlying = .basic b) (hb : b.shape? = some shape) :
    t.IsScalar shape := by
  cases t with
  | basic b' =>
      cases h
      exact ⟨hb, rfl, rfl, rfl, rfl, fun s d => by simp [Store.follow]⟩
  | declared d =>
      replace h : d.underlying = .basic b := h
      -- what holds data is a struct
      have hplain : Declarations.carrier d = none := by
        cases hc : Declarations.carrier d with
        | none => rfl
        | some c =>
            have hstruct := Declarations.underlying_carrier d (by rw [hc]; rfl)
            rw [show Declarations.underlying d = .basic b from h] at hstruct
            cases hstruct
      refine ⟨?_, ?_, rfl, hplain, rfl, fun s d => by simp [Store.follow]⟩
      · rw [shape?, shapeWith, Declarations.bound, Declared.shapeWithin, hplain, h]
        exact hb
      · simp [isEndless, askedFor, Declarations.bound, Declared.exceeds, h]
  | _ => cases h

/-- Integers within the limits of their type have at most sixty-four bits. -/
theorem isScalar_of_limits {lo hi : Int} (h : t.limits? = some (lo, hi)) :
    t.IsScalar .number ∧ ∀ n, lo ≤ n → n ≤ hi → n.natAbs < Nat.pow 2 64 := by
  unfold limits? at h
  split at h
  · cases h
  · rename_i b hne ht
    have hb : b ≠ .uintptr := by
      rintro rfl
      exact hne rfl
    split at h
    · rename_i bits hint
      obtain ⟨hshape, hbits⟩ := Basic.integer?_cases hint hb
      have hpow : Nat.pow 2 (bits - 1) ≤ Nat.pow 2 63 := Nat.pow_le_pow_right (by decide) (by omega)
      have h63 : Nat.pow 2 63 < Nat.pow 2 64 := by decide
      cases h
      refine ⟨isScalar_of_underlying ht hshape, fun n hlo hhi => ?_⟩
      omega
    · rename_i bits hint
      obtain ⟨hshape, hbits⟩ := Basic.integer?_cases hint hb
      have hpow : Nat.pow 2 bits ≤ Nat.pow 2 64 := Nat.pow_le_pow_right (by decide) hbits
      cases h
      refine ⟨isScalar_of_underlying ht hshape, fun n hlo hhi => ?_⟩
      omega
    · cases h
  · cases h

end Ty

/-- The formula has a value that a variable of the type of `u` holds as `u`. -/
def Formula.Denotes (x : Formula) (u : Value) : Prop :=
  ∃ d, x.value? = some d ∧ ∀ s, d.assign u.type s = .ok (u.data, s)

/-- The datum is a truth value, a number or a text, in the shape that expresses the type of `u`, and
fills a variable of this type with the data of `u`. -/
structure Datum.Spells (y : Datum) (u : Value) : Prop where
  atom : (∃ b, y = .bool b) ∨ (∃ n, y = .number n) ∨ ∃ s, y = .string s
  shape : u.type.shape? = some y.shape
  fill : ∀ s, y.fill .free u.type s = .ok (u.data, s)

/-- Where there is a shape, a variable is filled. -/
theorem Datum.assign_eq_fill {t : Ty} {shape : Shape} (h : t.shape? = some shape) (d : Datum) :
    d.assign t = d.fill .free t := by
  have hbox : t.isInterface = false := by
    cases t with
    | interface i => cases h
    | _ => rfl
  simp [Datum.assign, hbox]

theorem Ty.IsScalar.datum? {t : Ty} {shape : Shape} (h : t.IsScalar shape) (d : Data) (s : Store) :
    Value.datum? ⟨t, d⟩ s = datumOf? s shape .free t d := by
  simp [Value.datum?, h.shape]

theorem Ty.IsScalar.reach {t : Ty} {shape : Shape} (h : t.IsScalar shape) (d : Datum)
    (rest : Nat → Ty → Build Data) : Build.reach d .free t rest = rest 0 t := by
  simp [Build.reach, h.peel, h.plain]

theorem spells_bool {t : Ty} (ht : t.underlying = .bool) (b : Bool) :
    (Datum.bool b).Spells ⟨t, .bool b⟩ := by
  have hs : t.IsScalar .bool := Ty.isScalar_of_underlying ht rfl
  refine ⟨.inl ⟨b, rfl⟩, hs.shape, fun s => ?_⟩
  rw [Datum.fill, hs.reach]
  simp only [ht]
  rfl

theorem spells_text {t : Ty} (ht : t.underlying = .string) (x : Bytes) :
    (Datum.string x).Spells ⟨t, .text x⟩ := by
  have hs : t.IsScalar .string := Ty.isScalar_of_underlying ht rfl
  refine ⟨.inr (.inr ⟨x, rfl⟩), hs.shape, fun s => ?_⟩
  rw [Datum.fill, hs.reach]
  simp only [ht]
  rfl

theorem spells_whole {t : Ty} {n lo hi : Int} (ht : t.limits? = some (lo, hi)) (hlo : lo ≤ n)
    (hhi : n ≤ hi) : (Datum.number (.finite 512 (n < 0) n.natAbs 0)).Spells ⟨t, .int n⟩ := by
  obtain ⟨hs, hbits⟩ := Ty.isScalar_of_limits ht
  have hlen := Number.bitLength_le (hbits n hlo hhi)
  have hint : (Number.Big.finite 512 (n < 0) n.natAbs 0).toInt? = some n := by
    rw [Number.Big.toInt?_whole _ hlen]
    by_cases hn : n < 0
    · rw [decide_eq_true hn, if_pos rfl]
      exact congrArg some (by omega)
    · rw [decide_eq_false hn, if_neg (by decide)]
      exact congrArg some (by omega)
  have hdata : numberData (.finite 512 (n < 0) n.natAbs 0) t = .ok (.int n) := by
    simp [numberData, ht, hint, hlo, hhi]
  refine ⟨.inr (.inl ⟨_, rfl⟩), hs.shape, fun s => ?_⟩
  rw [Datum.fill, hs.reach]
  simp only [hdata]
  rfl

/-- A plain value is written as a formula whose value spells it. -/
theorem Value.Plain.expressed {u : Value} (h : u.Plain) (s : Store) :
    u.type.isEndless = false ∧ ∃ d x y, u.datum? s = some d ∧ d.isKnown = true ∧
      Expresses (Dump.datumTokens d) x ∧ x.value? = some y ∧ y.Spells u := by
  cases h with
  | @bool t b ht =>
      have hs : t.IsScalar .bool := Ty.isScalar_of_underlying ht rfl
      refine ⟨hs.endless, .bool b, _, .bool b, ?_, rfl, Dump.expresses_name ?_, ?_,
        spells_bool ht b⟩
      · rw [hs.datum?, datumOf?, hs.follow]
      · cases b <;> decide
      · cases b <;> rfl
  | @int t n lo hi ht hlo hhi =>
      obtain ⟨hs, hbits⟩ := Ty.isScalar_of_limits ht
      refine ⟨hs.endless, .number (.ofInt n), _, _, ?_, rfl, ?_, value?_wholeFormula n,
        spells_whole ht hlo hhi⟩
      · rw [hs.datum?, datumOf?, hs.follow]
        rfl
      · rw [Dump.datumTokens, Number.Big.text_ofInt (hbits n hlo hhi)]
        exact Dump.expresses_decimal (hbits n hlo hhi)
  | @text t x ht hx =>
      have hs : t.IsScalar .string := Ty.isScalar_of_underlying ht rfl
      refine ⟨hs.endless, .string x, _, .string x, ?_, rfl, Dump.expresses_text hx, ?_,
        spells_text ht x⟩
      · obtain ⟨cs, rfl, hcs⟩ := hx.exists_chars
        rw [hs.datum?, datumOf?, hs.follow]
        simp only [Text.compose_plain hcs]
      · obtain ⟨cs, rfl, hcs⟩ := hx.exists_chars
        rw [Formula.literalText, Text.compose_plain hcs]
        rfl

/-- A constant whose content is plain is written as a formula that denotes the content. -/
theorem expresses_const {v u : Value} (hv : v.content = some u) (hu : u.Plain) (s : Store) :
    ∃ ts x, constTokens (some v) s = .ok ts ∧ Expresses ts x ∧ x.Denotes u := by
  obtain ⟨hend, d, x, y, hd, hknown, hx, hy, hspells⟩ := hu.expressed s
  have hdenotes : x.Denotes u :=
    ⟨y, hy, fun s => by rw [Datum.assign_eq_fill hspells.shape, hspells.fill]⟩
  refine ⟨_, x, ?_, hx, hdenotes⟩
  have hnil : u.data ≠ .nil := by cases hu <;> simp
  have hfinite : Dump.isFinite u.data = true := by cases hu <;> rfl
  simp [constTokens, Dump.shownContent?_of_ne_nil hv hnil, Dump.valueTokens, hfinite, hend, hd,
    Dump.literalTokens, hknown]

/-! ### Operands -/

/-- What an operand is read as: the name of a slot, a formula for a constant, and for a conversion
the call of `convert` on the operand and the text of the type. -/
inductive Expr.ReadAs : Expr → Formula → Prop where
  | param (p : Slot) : Expr.ReadAs (.param p) (.name p.name)
  | temp (p : Slot) : Expr.ReadAs (.temp p) (.name p.name)
  | const {v u : Value} {x : Formula} : v.content = some u → x.Denotes u →
      Expr.ReadAs (.const (some v)) x
  | convert {e : Expr} {t : Ty} {x y : Formula} : Expr.ReadAs e x →
      y.value? = some (.string (.ofString t.text)) →
      Expr.ReadAs (.convert e (some t)) (.call "convert" [x, y] false)

/-- An operand that can be read back: its slots have numbers for names, its constants are plain, and
so are the texts of the types it is converted to. -/
inductive Expr.Legible : Expr → Prop where
  | param {p : Slot} {k : Nat} : p.name = "i" ++ Nat.repr k → Expr.Legible (.param p)
  | temp {p : Slot} {k : Nat} : p.name = "o" ++ Nat.repr k → Expr.Legible (.temp p)
  | const {v u : Value} : v.content = some u → u.Plain → Expr.Legible (.const (some v))
  | convert {e : Expr} {t : Ty} : Expr.Legible e → (Bytes.ofString t.text).Plain →
      Expr.Legible (.convert e (some t))

theorem Expr.Legible.expressed {e : Expr} (h : e.Legible) (s : Store) :
    ∃ ts x, exprTokens s e = .ok ts ∧ Expresses ts x ∧ e.ReadAs x := by
  induction h with
  | @param p k hp =>
      refine ⟨_, _, by rw [exprTokens], ?_, .param p⟩
      rw [hp]
      exact expresses_slot (.inl rfl) k
  | @temp p k hp =>
      refine ⟨_, _, by rw [exprTokens], ?_, .temp p⟩
      rw [hp]
      exact expresses_slot (.inr rfl) k
  | const hv hu =>
      obtain ⟨ts, x, hts, hx, hdenotes⟩ := expresses_const hv hu s
      exact ⟨ts, x, by rw [exprTokens, hts], hx, .const hv hdenotes⟩
  | @convert e t _ ht ih =>
      obtain ⟨ts, x, hts, hx, hread⟩ := ih
      obtain ⟨cs, hcs, hplain⟩ := ht.exists_chars
      have hcompose : Text.compose (.ofString t.text) = .ofString t.text := by
        rw [hcs, Text.compose_plain hplain]
      have hargs := List.Forall₂.cons hx (.cons (Dump.expresses_text ht) .nil)
      refine ⟨_, _, ?_, Dump.expresses_call (by decide) hargs, .convert hread ?_⟩
      · rw [exprTokens, hts]
        show Except.ok (Dump.callTokens "convert" [ts, Dump.textTokens (Text.compose _)]) = _
        rw [hcompose]
      · rw [Formula.literalText, hcompose]
        rfl

theorem operandTokens_legible (s : Store) {operands : List Expr} (h : ∀ e ∈ operands, e.Legible) :
    ∃ tss args, Dump.operandTokens s operands = .ok tss ∧ List.Forall₂ Expresses tss args ∧
      List.Forall₂ Expr.ReadAs operands args := by
  induction operands with
  | nil => exact ⟨[], [], by rw [Dump.operandTokens], .nil, .nil⟩
  | cons e operands ih =>
      obtain ⟨ts, x, hts, hx, hread⟩ := (h e List.mem_cons_self).expressed s
      obtain ⟨tss, args, htss, hargs, hreads⟩ := ih fun e' he' => h e' (List.mem_cons_of_mem _ he')
      refine ⟨ts :: tss, x :: args, ?_, .cons hx hargs, .cons hread hreads⟩
      rw [Dump.operandTokens, hts, htss]
      rfl

/-! ### Operations -/

namespace Compiler

/-- Every operation invokes a word that was applied. -/
theorem exists_word {settings : Settings} {calls : List Call} {op : Expr}
    (h : op ∈ ((new settings).performAll calls).ops) :
    ∃ w, .word w ∈ (new settings).carriedOut calls ∧
      (op = .invoke w.name (.const (some w.fn)) op.operands ∨
        ∃ dst, op = .assign dst (.invoke w.name (.const (some w.fn)) op.operands)) := by
  obtain ⟨b, hb⟩ := performAll_eq calls (new settings)
  have hop : op ∈ (new settings).operations ((new settings).carriedOut calls) := by
    rw [hb] at h
    have h' : op ∈ ((new settings).addAll ((new settings).carriedOut calls)).ops := h
    rw [ops_addAll] at h'
    exact h'
  obtain ⟨c', w, hw, rfl⟩ := mem_operations hop
  refine ⟨w, hw, ?_⟩
  rw [operands_operation]
  rcases operation_cases c' w with ⟨-, -, hinvoke⟩ | ⟨dst, t, -, -, -, hassign⟩
  · exact .inl hinvoke
  · exact .inr ⟨dst, hassign⟩

/-- The slots among the operands are those of the program, which have numbers for names. -/
theorem slot_names {settings : Settings} {calls : List Call} {op : Expr}
    (h : op ∈ ((new settings).performAll calls).ops) {e : Expr} (he : e ∈ op.operands) :
    (∀ p, e.bare = .param p → ∃ k, p.name = "i" ++ Nat.repr k) ∧
      ∀ p, e.bare = .temp p → ∃ k, p.name = "o" ++ Nat.repr k := by
  have hplace : e.bare ∈ ((new settings).performAll calls).places :=
    List.mem_append_right _ (List.mem_flatMap.mpr ⟨op, h, List.mem_map_of_mem he⟩)
  have hmem := (used_performAll settings calls).places.mem_iff.mp hplace
  constructor
  · intro p hp
    have hslot : p ∈ ((new settings).performAll calls).inputs := by
      simpa [hp] using hmem
    exact exists_number (names_inputs settings calls) hslot
  · intro p hp
    have hslot : p ∈ ((new settings).performAll calls).temps := by
      simpa [hp] using hmem
    exact exists_number (names_temps settings calls) hslot

/-- The operands of an operation are legible if its literals and the types it converts to are. -/
theorem legible_operands {settings : Settings} {calls : List Call} {op : Expr}
    (hop : op ∈ ((new settings).performAll calls).ops)
    (hliteral : ∀ v, .const (some v) ∈ op.operands.map Expr.bare →
      ∃ u, v.content = some u ∧ u.Plain)
    (htarget : ∀ e t, .convert e (some t) ∈ op.operands → (Bytes.ofString t.text).Plain) :
    ∀ e ∈ op.operands, e.Legible := by
  intro e he
  obtain ⟨hparam, htemp⟩ := slot_names hop he
  have hoperand : e.IsOperand := by
    obtain ⟨name, fn, operands, hform, hoperands⟩ := isApplication_performAll settings calls op hop
    rcases hform with rfl | ⟨dst, rfl⟩
    · exact hoperands e he
    · exact hoperands e he
  -- what is in the conversion, if there is one
  have hbare : ∀ x, e.bare = x → ((∃ v, x = .const (some v)) ∨ ∃ p, x = .temp p) → x.Legible := by
    rintro x hx (⟨v, rfl⟩ | ⟨p, rfl⟩)
    · obtain ⟨u, hu, hplain⟩ := hliteral v (hx ▸ List.mem_map_of_mem he)
      exact .const hu hplain
    · obtain ⟨k, hk⟩ := htemp p hx
      exact .temp hk
  rcases hoperand with ⟨p, rfl⟩ | ⟨x, hx, rfl | ⟨t, rfl⟩⟩
  · obtain ⟨k, hk⟩ := hparam p rfl
    exact .param hk
  · refine hbare e ?_ hx
    rcases hx with ⟨v, rfl⟩ | ⟨p, rfl⟩ <;> rfl
  · exact .convert (hbare x rfl hx) (htarget x t he)

/-- **The operations of a program are read back.** After any run of calls, take an operation whose
literals are truth values, integers or plain texts, boxed or not, and which converts to types with
plain texts. The text of its call is a formula, the call of a func on what the operands are read as,
in order. The name of that func is the name of the word without its byte order mark. -/
theorem operations_read_back (settings : Settings) (calls : List Call) (s : Store) :
    ∀ op ∈ ((new settings).performAll calls).ops,
      (∀ v, .const (some v) ∈ op.operands.map Expr.bare → ∃ u, v.content = some u ∧ u.Plain) →
      (∀ e t, .convert e (some t) ∈ op.operands → (Bytes.ofString t.text).Plain) →
      ∃ w text args, .word w ∈ (new settings).carriedOut calls ∧
        (op = .invoke w.name (.const (some w.fn)) op.operands ∨
          ∃ dst, op = .assign dst (.invoke w.name (.const (some w.fn)) op.operands)) ∧
        Dump.expression s (.invoke w.name (.const (some w.fn)) op.operands) = .ok text ∧
        Formula.ofText? (.ofString text) =
          some (.call (String.ofList (Text.unmarked w.name.toList)) args false) ∧
        List.Forall₂ Expr.ReadAs op.operands args := by
  intro op hop hliteral htarget
  obtain ⟨w, hw, hform⟩ := exists_word hop
  obtain ⟨tss, args, htss, hargs, hreads⟩ :=
    operandTokens_legible s (legible_operands hop hliteral htarget)
  obtain ⟨host, name, fn, hnamed⟩ : w.Valid := carriedOut_valid calls _ _ hw
  refine ⟨w, _, args, hw, hform, ?_, Dump.ofText?_call (isIdentifier_named hnamed) hargs, hreads⟩
  rw [Dump.expression, exprTokens, htss]
  rfl

end Compiler

end

namespace Compiler

open scoped Catalogue

/-- A word of that name, which takes values of the types and yields none. -/
def wordNamed (name : String) (params : List Ty) : Word :=
  ⟨name, ⟨.func params [] false, .func 0 []⟩, params, none⟩

theorem wordNamed_valid {name : String} (params : List Ty)
    (h : Text.isIdentChars (Text.unmarked name.toList) = true) : (wordNamed name params).Valid := by
  have hident : Text.isIdentifier (.ofString name) = true := by
    rw [Text.isIdentifier_ofString, h]
  exact .intro rfl rfl hident

/-- A negative number in a box and a text with quotes and a line break, for a word with a name
beyond ASCII. -/
def spelled : List Call :=
  [.push (some ⟨.string, .text (.ofString "a \"b\"\n")⟩) none,
    .push (some ⟨.any, .boxed (.basic .int8) (.int (-128))⟩) (some .any),
    .applyWord (some ⟨wordNamed "größe" [.int, .declared .label, .bool],
      wordNamed_valid _ (by decide)⟩)]

def spelledOperands : List Expr :=
  [.convert (.const (some ⟨.any, .boxed (.basic .int8) (.int (-128))⟩)) (some .int),
    .convert (.const (some ⟨.string, .text (.ofString "a \"b\"\n")⟩)) (some (.declared .label)),
    .param ⟨0, some .bool, "i0"⟩]

theorem operations_read_back_spelled : ∃ fn,
    ((new {}).performAll spelled).ops = [.invoke "größe" fn spelledOperands] ∧
    ∃ text args, Dump.expression .empty (.invoke "größe" fn spelledOperands) = .ok text ∧
      Formula.ofText? (.ofString text) = some (.call "größe" args false) ∧
      List.Forall₂ Expr.ReadAs spelledOperands args := by
  have hliteral : ∀ v, .const (some v) ∈ spelledOperands.map Expr.bare →
      ∃ u, v.content = some u ∧ u.Plain := by
    intro v hv
    simp only [spelledOperands, List.map_cons, List.map_nil, Expr.bare, List.mem_cons,
      Expr.const.injEq, Option.some.injEq, reduceCtorEq, List.not_mem_nil, or_false] at hv
    rcases hv with rfl | rfl
    · exact ⟨_, rfl, .int rfl (by decide) (by decide)⟩
    · exact ⟨_, rfl, .text rfl (by decide)⟩
  have htarget : ∀ e t, .convert e (some t) ∈ spelledOperands → (Bytes.ofString t.text).Plain := by
    intro e t he
    simp only [spelledOperands, List.mem_cons, Expr.convert.injEq, Option.some.injEq,
      reduceCtorEq, List.not_mem_nil, or_false] at he
    rcases he with ⟨-, rfl⟩ | ⟨-, rfl⟩ <;> decide
  obtain ⟨w, text, args, -, hform, htext, hread, hreads⟩ :=
    operations_read_back {} spelled .empty _ List.mem_cons_self hliteral htarget
  refine ⟨_, rfl, text, args, ?_⟩
  rcases hform with hform | ⟨dst, hdst⟩
  · obtain ⟨hname, hfn, -⟩ := Expr.invoke.inj hform
    rw [← hname, ← hfn] at htext
    rw [← hname] at hread
    exact ⟨htext, hread, hreads⟩
  · cases hdst

/-! ### Names with a mark -/

/-- A word whose name starts with a mark is accepted, and its operation is written with the mark.
The text is read as a call all the same, but of a func with another name. -/
theorem mark_is_lost : ∃ fn,
    ((new {}).performAll [.applyWord (some ⟨wordNamed "\uFEFFfoo" [],
      wordNamed_valid _ (by decide)⟩)]).ops = [.invoke "\uFEFFfoo" fn []] ∧
    ∃ text, Dump.expression .empty (.invoke "\uFEFFfoo" fn []) = .ok text ∧
      Formula.ofText? (.ofString text) = some (.call "foo" [] false) ∧ "foo" ≠ "\uFEFFfoo" := by
  refine ⟨_, rfl, _, rfl, ?_, by decide⟩
  have hident : Text.isIdentifier (.ofString "\uFEFFfoo") = true := by
    rw [Text.isIdentifier_ofString]
    decide
  exact Dump.ofText?_call hident .nil

end Compiler

end Tacit
