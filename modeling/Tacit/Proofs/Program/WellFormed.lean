import Mathlib.Data.List.Forall2
import Tacit.Proofs.Program.Meaning

/-!
# Which programs are realized

What it takes for a program to be realized, said of the whole program at once and not in the order
in which a realization looks at it.

* `Block.WellFormed`: what holds of every operation, of every node that is evaluated, and of every
  assignment, call and conversion.
* `code_of_hasType`, `step_of_isOperation`: what is typed is accepted, so that a realization accepts
  exactly what is typed (`realize_iff_typed`).
* `wellFormed_iff`: the operations of a block are typed exactly if the block is well-formed. From
  left to right this goes down from the operations to the nodes, and from right to left up from the
  smallest nodes.
* `realize_iff_wellFormed`: a program is realized under a signature exactly if the signature is its
  own and its body is well-formed.
-/

namespace Tacit

variable [Declarations]

/-! ### Definitions -/

namespace Expr

/-- The node can stand where a value is needed. -/
def IsValue (sc : Scope) : Expr → Prop
  | .const value => value ≠ none
  | .sealed _ => True
  | .param s => s.Listed sc.params
  | .temp s => s.Listed sc.temps
  | .convert _ _ => True
  | .invoke name fn operands => ∃ t, (Expr.invoke name fn operands).type = .ok (some t)
  | _ => False

/-- There is one operand for each parameter, and what it yields can be stored there. -/
def Suits (operands : List Expr) (params : List Ty) : Prop :=
  List.Forall₂ (fun e t => ∃ s, e.type = .ok (some s) ∧ s.assignable t = true) operands params

end Expr

open Tacit.Expr (Evaluated)

/-- The operations can be carried out, as far as types and the lists of inputs and temporaries tell:
each is an assignment or a call; every node that is evaluated can stand for a value; what is
assigned fits a temporary of the block; what is called is a func with as many parameters as there
are operands, all of which fit; and what is converted can be. -/
structure Block.WellFormed (params : List Slot) (b : Block) : Prop where
  operations : ∀ e ∈ b.ops,
    (∃ dst src, e = .assign dst src) ∨ ∃ name fn operands, e = .invoke name fn operands
  values : ∀ e, Evaluated b.ops e → e.IsValue ⟨params, b.temps⟩
  assignments : ∀ dst src, .assign dst src ∈ b.ops → dst.Listed b.temps ∧
    ∃ s t, src.type = .ok (some s) ∧ dst.type = some t ∧ s.assignable t = true
  calls : ∀ name fn operands,
    .invoke name fn operands ∈ b.ops ∨ Evaluated b.ops (.invoke name fn operands) →
    ∃ ft ps rs v, fn.type = .ok (some ft) ∧ ft.func? = some (ps, rs, v) ∧ Expr.Suits operands ps
  conversions : ∀ x target, Evaluated b.ops (.convert x target) →
    ∃ s t, x.type = .ok (some s) ∧ target = some t ∧ s.canConvert t = true

/-! ### What is typed is accepted -/

theorem callParams_of_type {name : String} {fn : Expr} {n : Nat} {ft : Ty} {ps rs : List Ty}
    {v : Bool} (hfn : fn.type = .ok (some ft)) (hf : ft.func? = some (ps, rs, v))
    (hn : ps.length = n) : callParams name fn n = .ok ps := by
  refine Check.bind_eq_ok.mpr ⟨some ft, Expr.typeOf_eq_ok.mpr hfn, ?_⟩
  simp only [hf, hn, if_true]
  rfl

namespace Expr

variable {sc : Scope}

theorem Fit.length_eq : ∀ {es : List Expr} {ts : List Ty}, Fit sc es ts → ts.length = es.length
  | [], [], _ => rfl
  | _ :: _, _ :: _, h => by
      rw [Fit] at h
      rw [List.length_cons, List.length_cons, h.2.length_eq]
  | [], _ :: _, h | _ :: _, [], h => by simp [Fit] at h

/-- A node that is typed passes the check of a parameter that takes its type. -/
theorem HasType.checkBind {e : Expr} {u t : Ty} (h : e.HasType sc u)
    (ha : u.assignable t = true) : e.checkBind (some t) = .ok () := by
  have hconv : e.checkConversion u = .ok () := by
    cases e with
    | convert x target =>
        rw [HasType] at h
        obtain ⟨-, s, hx, hcan⟩ := h
        refine Check.bind_eq_ok.mpr ⟨some s, typeOf_eq_ok.mpr hx.type, ?_⟩
        exact if_pos hcan
    | missing | const | sealed | param | temp | invoke | assign | block => rfl
  refine Check.bind_eq_ok.mpr ⟨some u, typeOf_eq_ok.mpr h.type, ?_⟩
  exact Check.bind_eq_ok.mpr ⟨(), hconv, if_pos ha⟩

end Expr

mutual
/-- The code of a node that is typed can be made. -/
theorem code_of_hasType {sc : Scope} : ∀ {e : Expr} {t : Ty}, e.HasType sc t →
    ∃ c, e.code sc = .ok c
  | .const (some v), _, _ => ⟨.const v, by rw [Expr.code]; rfl⟩
  | .sealed v, _, _ => ⟨.sealed v, by rw [Expr.code]; rfl⟩
  | .param s, _, h => by
      rw [Expr.HasType] at h
      obtain ⟨i, hi⟩ := Scope.param_of_listed h.1
      exact ⟨.param i, by rw [Expr.code, hi]; rfl⟩
  | .temp s, _, h => by
      rw [Expr.HasType] at h
      obtain ⟨i, hi⟩ := Scope.temp_of_listed h.1
      exact ⟨.temp i, by rw [Expr.code, hi]; rfl⟩
  | .convert x target, t, h => by
      rw [Expr.HasType] at h
      obtain ⟨rfl, s, hx, hcan⟩ := h
      obtain ⟨c, hc⟩ := code_of_hasType hx
      refine ⟨conversionCode s t c, ?_⟩
      rw [Expr.code, conversionTypes_of_type hx.type hcan, hc]
      rfl
  | .invoke name fn operands, t, h => by
      have ht := h.type
      rw [Expr.HasType] at h
      obtain ⟨ft, ps, rs, v, hfn, hf, hfit⟩ := h
      obtain ⟨f, hcode⟩ := code_of_hasType hfn
      obtain ⟨cs, hcs⟩ := operandCodes_of_fit name 0 hfit
      refine ⟨.call f cs, ?_⟩
      have hps : callParams name fn operands.length = .ok ps :=
        callParams_of_type hfn.type hf hfit.length_eq
      rw [Expr.code]
      refine Check.bind_eq_ok.mpr ⟨some t, Expr.typeOf_eq_ok.mpr ht, ?_⟩
      refine Check.bind_eq_ok.mpr ⟨ps, hps, Check.bind_eq_ok.mpr ⟨f, hcode, ?_⟩⟩
      exact Check.bind_eq_ok.mpr ⟨cs, hcs, rfl⟩
  | .missing, _, h | .const none, _, h | .assign _ _, _, h | .block _ _, _, h => by
      simp [Expr.HasType] at h
/-- The codes of operands that fit can be made. -/
theorem operandCodes_of_fit {sc : Scope} (name : String) : ∀ (i : Nat) {es : List Expr}
    {ts : List Ty}, Expr.Fit sc es ts → ∃ cs, Expr.operandCodes sc name i ts es = .ok cs
  | _, [], [], _ => ⟨[], by simp [Expr.operandCodes]⟩
  | i, e :: es, t :: ts, h => by
      rw [Expr.Fit] at h
      obtain ⟨⟨u, hu, ha⟩, hes⟩ := h
      obtain ⟨c, hc⟩ := code_of_hasType hu
      obtain ⟨cs, hcs⟩ := operandCodes_of_fit name (i + 1) hes
      refine ⟨c :: cs, ?_⟩
      rw [Expr.operandCodes, hu.checkBind ha, hc, hcs]
      rfl
  | _, [], _ :: _, h | _, _ :: _, [], h => by simp [Expr.Fit] at h
end

/-- A node that can be carried out becomes an operation. -/
theorem step_of_isOperation {sc : Scope} {e : Expr} (h : e.IsOperation sc) :
    ∃ st, e.step sc = .ok st := by
  cases e with
  | assign dst src =>
      obtain ⟨hdst, u, t, hu, ht, ha⟩ := h
      obtain ⟨i, hi⟩ := Scope.temp_of_listed hdst
      obtain ⟨c, hc⟩ := code_of_hasType hu
      refine ⟨.assign i c, ?_⟩
      rw [Expr.step, hi, ht, hu.checkBind ha, hc]
      rfl
  | invoke name fn operands =>
      obtain ⟨ft, ps, rs, v, hfn, hf, hfit⟩ := h
      obtain ⟨f, hcode⟩ := code_of_hasType hfn
      obtain ⟨cs, hcs⟩ := operandCodes_of_fit name 0 hfit
      refine ⟨.run f cs, ?_⟩
      have hps : callParams name fn operands.length = .ok ps :=
        callParams_of_type hfn.type hf hfit.length_eq
      refine Check.bind_eq_ok.mpr ⟨ps, hps, Check.bind_eq_ok.mpr ⟨f, hcode, ?_⟩⟩
      exact Check.bind_eq_ok.mpr ⟨cs, hcs, rfl⟩
  | missing | const | sealed | param | temp | convert | block => exact h.elim

theorem steps_of_isOperation {sc : Scope} : ∀ (i : Nat) {es : List Expr},
    (∀ e ∈ es, e.IsOperation sc) → ∃ sts, Expr.steps sc i es = .ok sts
  | _, [], _ => ⟨[], rfl⟩
  | i, e :: es, h => by
      obtain ⟨st, hst⟩ := step_of_isOperation (h e List.mem_cons_self)
      obtain ⟨sts, hsts⟩ := steps_of_isOperation (i + 1) fun e' he' =>
        h e' (List.mem_cons_of_mem _ he')
      refine ⟨st :: sts, ?_⟩
      rw [Expr.steps, hst, hsts]
      rfl

/-- **A realization accepts exactly what is typed**, under the signature of the program. -/
theorem realize_iff_typed {l : Lambda} {sig : Option Ty} : (∃ r, l.realize sig = .ok r) ↔
    l.Matches sig ∧ ∃ body, l.body = some body ∧
      ∀ e ∈ body.ops, e.IsOperation ⟨l.params, body.temps⟩ := by
  constructor
  · rintro ⟨r, hr⟩
    obtain ⟨body, hbody, hsig, hsteps, -⟩ := Lambda.realize_ok hr
    refine ⟨?_, body, hbody, isOperation_of_steps hsteps⟩
    rcases checkSignature_cases l sig with ⟨hm, -⟩ | ⟨-, fault, hfail⟩
    · exact hm
    · rw [hfail] at hsig
      cases hsig
  · rintro ⟨hm, body, hbody, hops⟩
    obtain ⟨sts, hsts⟩ := steps_of_isOperation 0 hops
    rcases checkSignature_cases l sig with ⟨-, t, -, hsig⟩ | ⟨hm', -⟩
    · refine ⟨⟨t, body.temps.map (·.type), sts⟩, ?_⟩
      rw [Lambda.realize, hbody]
      simp only [hsig, hsts]
      rfl
    · exact absurd hm hm'

/-! ### From the operations down to the nodes -/

section

variable {sc : Scope} {ops : List Expr}

theorem Expr.Fit.mem : ∀ {es : List Expr} {ts : List Ty} {x : Expr}, Fit sc es ts → x ∈ es →
    ∃ u, x.HasType sc u
  | e :: es, t :: ts, x, h, hx => by
      rw [Fit] at h
      obtain ⟨⟨u, hu, -⟩, hes⟩ := h
      rcases List.mem_cons.mp hx with rfl | hx
      · exact ⟨u, hu⟩
      · exact hes.mem hx
  | [], _, x, _, hx => by cases hx
  | _ :: _, [], _, h, _ => by simp [Fit] at h

theorem Expr.Fit.suits : ∀ {es : List Expr} {ts : List Ty}, Fit sc es ts → Suits es ts
  | [], [], _ => .nil
  | e :: es, t :: ts, h => by
      rw [Fit] at h
      obtain ⟨⟨u, hu, ha⟩, hes⟩ := h
      exact .cons ⟨u, hu.type, ha⟩ hes.suits
  | [], _ :: _, h | _ :: _, [], h => by simp [Fit] at h

/-- What a typed node needs is typed. -/
theorem Expr.HasType.parts {e x : Expr} {t : Ty} (h : e.HasType sc t) (hx : x ∈ e.parts) :
    ∃ u, x.HasType sc u := by
  cases e with
  | convert y target =>
      rw [HasType] at h
      obtain ⟨-, u, hu, -⟩ := h
      rw [List.mem_singleton.mp hx]
      exact ⟨u, hu⟩
  | invoke name fn operands =>
      rw [HasType] at h
      obtain ⟨ft, ps, rs, v, hfn, -, hfit⟩ := h
      rcases List.mem_cons.mp hx with rfl | hx
      · exact ⟨ft, hfn⟩
      · exact hfit.mem hx
  | assign => simp [HasType] at h
  | missing | const | sealed | param | temp | block => cases hx

/-- What an operation needs is typed. -/
theorem Expr.IsOperation.parts {e x : Expr} (h : e.IsOperation sc) (hx : x ∈ e.parts) :
    ∃ u, x.HasType sc u := by
  cases e with
  | assign dst src =>
      obtain ⟨-, u, t, hu, -, -⟩ := h
      rw [List.mem_singleton.mp hx]
      exact ⟨u, hu⟩
  | invoke name fn operands =>
      obtain ⟨ft, ps, rs, v, hfn, -, hfit⟩ := h
      rcases List.mem_cons.mp hx with rfl | hx
      · exact ⟨ft, hfn⟩
      · exact hfit.mem hx
  | missing | const | sealed | param | temp | convert | block => exact h.elim

theorem hasType_of_evaluated (hops : ∀ op ∈ ops, op.IsOperation sc) {e : Expr}
    (h : Evaluated ops e) : ∃ t, e.HasType sc t := by
  induction h with
  | part hop he => exact (hops _ hop).parts he
  | deeper _ hx ih =>
      obtain ⟨t, ht⟩ := ih
      exact ht.parts hx

/-- A node that is typed can stand for a value. -/
theorem Expr.HasType.isValue {e : Expr} {t : Ty} (h : e.HasType sc t) : e.IsValue sc := by
  cases e with
  | const value =>
      rintro rfl
      simp [HasType] at h
  | param s | temp s =>
      rw [HasType] at h
      exact h.1
  | sealed | convert => trivial
  | invoke => exact ⟨t, h.type⟩
  | missing | assign | block => simp [HasType] at h

end

/-! ### From the smallest nodes up -/

namespace Block.WellFormed

variable {params : List Slot} {b : Block}

mutual
/-- In a well-formed block a node that is evaluated is typed, if it says that it has a type. -/
theorem hasType (h : b.WellFormed params) : ∀ {e : Expr} {t : Ty}, Evaluated b.ops e →
    e.type = .ok (some t) → e.HasType ⟨params, b.temps⟩ t
  | .const (some v), t, _, ht | .sealed v, t, _, ht => by
      rw [Expr.HasType]
      simpa [Expr.type] using ht
  | .param s, t, he, ht => by
      rw [Expr.HasType]
      exact ⟨h.values _ he, by simpa [Expr.type] using ht⟩
  | .temp s, t, he, ht => by
      rw [Expr.HasType]
      exact ⟨h.values _ he, by simpa [Expr.type] using ht⟩
  | .convert x target, t, he, ht => by
      obtain ⟨s, t', hx, rfl, hcan⟩ := h.conversions x target he
      obtain rfl : t' = t := by simpa [Expr.type] using ht
      rw [Expr.HasType]
      exact ⟨rfl, s, hasType h (he.deeper List.mem_cons_self) hx, hcan⟩
  | .invoke name fn operands, t, he, ht => by
      obtain ⟨ft, ps, rs, v, hfn, hf, hsuits⟩ := h.calls name fn operands (.inr he)
      obtain ⟨rs', rfl⟩ := Expr.type_invoke hfn hf ht
      rw [Expr.HasType]
      exact ⟨ft, ps, rs', v, hasType h (he.deeper List.mem_cons_self) hfn, hf,
        fit h (fun x hx => he.deeper (List.mem_cons_of_mem _ hx)) hsuits⟩
  | .missing, _, he, _ | .const none, _, he, _ | .assign _ _, _, he, _ | .block _ _, _, he, _ => by
      have := h.values _ he
      simp [Expr.IsValue] at this
/-- Operands that are evaluated, and of which each has a type that fits, do fit. -/
theorem fit (h : b.WellFormed params) : ∀ {es : List Expr} {ts : List Ty},
    (∀ e ∈ es, Evaluated b.ops e) → Expr.Suits es ts → Expr.Fit ⟨params, b.temps⟩ es ts
  | [], [], _, _ => by rw [Expr.Fit]; trivial
  | e :: es, t :: ts, he, hs => by
      obtain ⟨⟨u, hu, ha⟩, hrest⟩ := List.forall₂_cons.mp hs
      rw [Expr.Fit]
      exact ⟨⟨u, hasType h (he e List.mem_cons_self) hu, ha⟩,
        fit h (fun x hx => he x (List.mem_cons_of_mem _ hx)) hrest⟩
  | [], _ :: _, _, hs | _ :: _, [], _, hs => by cases hs
end

theorem isOperation (h : b.WellFormed params) {e : Expr} (he : e ∈ b.ops) :
    e.IsOperation ⟨params, b.temps⟩ := by
  rcases h.operations e he with ⟨dst, src, rfl⟩ | ⟨name, fn, operands, rfl⟩
  · obtain ⟨hdst, s, t, hs, ht, ha⟩ := h.assignments dst src he
    exact ⟨hdst, s, t, h.hasType (.part he List.mem_cons_self) hs, ht, ha⟩
  · obtain ⟨ft, ps, rs, v, hfn, hf, hsuits⟩ := h.calls name fn operands (.inl he)
    exact ⟨ft, ps, rs, v, h.hasType (.part he List.mem_cons_self) hfn, hf,
      h.fit (fun x hx => .part he (List.mem_cons_of_mem _ hx)) hsuits⟩

end Block.WellFormed

/-- **A block is well-formed** exactly if its operations are typed. -/
theorem wellFormed_iff {params : List Slot} {b : Block} :
    b.WellFormed params ↔ ∀ e ∈ b.ops, e.IsOperation ⟨params, b.temps⟩ := by
  refine ⟨fun h e he => h.isOperation he, fun h => ⟨?_, ?_, ?_, ?_, ?_⟩⟩
  · intro e he
    have hop := h e he
    cases e with
    | assign dst src => exact .inl ⟨dst, src, rfl⟩
    | invoke name fn operands => exact .inr ⟨name, fn, operands, rfl⟩
    | missing | const | sealed | param | temp | convert | block => exact hop.elim
  · intro e he
    obtain ⟨t, ht⟩ := hasType_of_evaluated h he
    exact ht.isValue
  · intro dst src he
    obtain ⟨hdst, u, t, hu, ht, ha⟩ := h _ he
    exact ⟨hdst, u, t, hu.type, ht, ha⟩
  · rintro name fn operands (he | he)
    · obtain ⟨ft, ps, rs, v, hfn, hf, hfit⟩ := h _ he
      exact ⟨ft, ps, rs, v, hfn.type, hf, hfit.suits⟩
    · obtain ⟨t, ht⟩ := hasType_of_evaluated h he
      rw [Expr.HasType] at ht
      obtain ⟨ft, ps, rs, v, hfn, hf, hfit⟩ := ht
      exact ⟨ft, ps, t :: rs, v, hfn.type, hf, hfit.suits⟩
  · intro x target he
    obtain ⟨t, ht⟩ := hasType_of_evaluated h he
    rw [Expr.HasType] at ht
    obtain ⟨rfl, u, hx, hcan⟩ := ht
    exact ⟨u, t, hx.type, rfl, hcan⟩

/-- **Which programs are realized.** Whatever the program is put together from, also where nodes,
types or the values of constants are missing: it is realized under a signature exactly if the
signature is a func without results, not variadic, that takes the inputs in order, and the program
has a body that is well-formed. -/
theorem realize_iff_wellFormed (l : Lambda) (sig : Option Ty) : (∃ r, l.realize sig = .ok r) ↔
    l.Matches sig ∧ ∃ body, l.body = some body ∧ body.WellFormed l.params := by
  rw [realize_iff_typed]
  refine and_congr_right fun _ => exists_congr fun body => and_congr_right fun _ => ?_
  exact wellFormed_iff.symm

end Tacit
