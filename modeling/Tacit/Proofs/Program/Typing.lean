import Tacit.Program.Realize
import Tacit.Proofs.Effects

/-!
# The typing of programs

A judgment for the nodes of a program that stands beside the checks a realization makes.

* `Expr.Evaluated ops e`: the node `e` is needed for its value, at any depth of the operations.
* `Expr.HasType sc e t`: in the scope `sc` the node `e` yields a value of type `t`. Inputs and
  temporaries are listed in the scope, a conversion is possible as far as types tell, and a call has
  one operand of a fitting type for each parameter (`Expr.Fit`).
* `Expr.IsOperation sc e`: `e` is an assignment or a call that can be carried out.
* `hasType_of_code`, `isOperation_of_step`: what a realization accepts is typed. The checks look at
  one node at a time, and at its operand where it is a conversion; the judgment holds at any depth.
-/

namespace Tacit

theorem Ty.assignable_self [Declarations] (t : Ty) : t.assignable t = true := by
  simp [assignable, sameRepresentation]

/-! ### Slots -/

/-- The slot is one of those in a list. -/
def Slot.Listed (s : Slot) (slots : List Slot) : Prop := ∃ p ∈ slots, p.is s = true

theorem Slot.is_iff {a b : Slot} : a.is b = true ↔ a.id = b.id ∧ a.type = b.type := by
  simp [Slot.is]

theorem Slot.Listed.of_mem {s : Slot} {slots : List Slot} (h : s ∈ slots) : s.Listed slots :=
  ⟨s, h, Slot.is_iff.mpr ⟨rfl, rfl⟩⟩

/-- The last position of a slot is a position of it. -/
theorem lastIndex?_eq_some {s : Slot} {slots : List Slot} {i : Nat}
    (h : lastIndex? s slots = some i) : ∃ p, slots[i]? = some p ∧ p.is s = true := by
  obtain ⟨j, hj, rfl⟩ := Option.map_eq_some_iff.mp h
  obtain ⟨hlt, hp, -⟩ := List.findIdx?_eq_some_iff_getElem.mp hj
  rw [List.length_reverse] at hlt
  rw [List.getElem_reverse] at hp
  exact ⟨_, List.getElem?_eq_getElem (by omega), hp⟩

theorem Slot.Listed.of_lastIndex? {s : Slot} {slots : List Slot} {i : Nat}
    (h : lastIndex? s slots = some i) : s.Listed slots := by
  obtain ⟨p, hp, hs⟩ := lastIndex?_eq_some h
  exact ⟨p, List.mem_of_getElem? hp, hs⟩

/-- A slot that is listed has a last position. -/
theorem Slot.Listed.lastIndex? {s : Slot} {slots : List Slot} (h : s.Listed slots) :
    ∃ i, lastIndex? s slots = some i := by
  obtain ⟨p, hp, hs⟩ := h
  cases hf : slots.reverse.findIdx? (·.is s) with
  | none =>
      have := List.findIdx?_eq_none_iff.mp hf p (List.mem_reverse.mpr hp)
      rw [hs] at this
      cases this
  | some j => exact ⟨_, by rw [Tacit.lastIndex?, hf]; rfl⟩

theorem Scope.param_ok {sc : Scope} {s : Slot} {i : Nat} (h : sc.param s = .ok i) :
    lastIndex? s sc.params = some i := by
  unfold Scope.param at h
  split at h
  · rename_i j hj
    rw [hj, Check.pure_eq_ok.mp h]
  · simp at h

theorem Scope.temp_ok {sc : Scope} {s : Slot} {i : Nat} (h : sc.temp s = .ok i) :
    lastIndex? s sc.temps = some i := by
  unfold Scope.temp at h
  split at h
  · rename_i j hj
    rw [hj, Check.pure_eq_ok.mp h]
  · simp at h

theorem Scope.param_of_listed {sc : Scope} {s : Slot} (h : s.Listed sc.params) :
    ∃ i, sc.param s = .ok i := by
  obtain ⟨i, hi⟩ := h.lastIndex?
  exact ⟨i, by rw [Scope.param, hi]; rfl⟩

theorem Scope.temp_of_listed {sc : Scope} {s : Slot} (h : s.Listed sc.temps) :
    ∃ i, sc.temp s = .ok i := by
  obtain ⟨i, hi⟩ := h.lastIndex?
  exact ⟨i, by rw [Scope.temp, hi]; rfl⟩

theorem checkInputs_cases (sig : Ty) : ∀ (i : Nat) {ts : List Ty} {ss : List Slot},
    ts.length = ss.length →
    (ss.map (·.type) = ts.map some ∧ checkInputs sig i ts ss = .ok ()) ∨
    (ss.map (·.type) ≠ ts.map some ∧
      ∃ fault, checkInputs sig i ts ss = Check.fail (.signature fault))
  | _, [], [], _ => .inl ⟨rfl, rfl⟩
  | _, _ :: _, [], hlen | _, [], _ :: _, hlen => by simp at hlen
  | i, t :: ts, s :: ss, hlen => by
      unfold checkInputs
      by_cases hs : some t = s.type
      · rw [if_pos hs]
        rcases checkInputs_cases sig (i + 1) (by simpa using hlen) with ⟨h, h'⟩ | ⟨h, h'⟩
        · exact .inl ⟨by rw [List.map_cons, List.map_cons, ← hs, h], h'⟩
        · exact .inr ⟨fun e => h (List.cons.inj e).2, h'⟩
      · rw [if_neg hs]
        exact .inr ⟨fun e => hs (List.cons.inj e).1.symm, _, rfl⟩

/-! ### Nodes in evaluated position -/

namespace Expr

/-- The nodes whose values a node needs: the source of an assignment, the func and the operands of a
call, the operand of a conversion. -/
def parts : Expr → List Expr
  | .assign _ src => [src]
  | .invoke _ fn operands => fn :: operands
  | .convert x _ => [x]
  | _ => []

/-- The node is needed for its value by an operation, or by a node that is itself needed. -/
inductive Evaluated (ops : List Expr) : Expr → Prop where
  | part {op e : Expr} : op ∈ ops → e ∈ op.parts → Evaluated ops e
  | deeper {e x : Expr} : Evaluated ops e → x ∈ e.parts → Evaluated ops x

end Expr

/-- The operations of a program; none if it has no body. -/
def Lambda.ops (l : Lambda) : List Expr := (l.body.map (·.ops)).getD []

theorem Lambda.ops_eq {l : Lambda} {body : Block} (h : l.body = some body) : l.ops = body.ops := by
  simp [Lambda.ops, h]

variable [Declarations]

/-! ### The judgment -/

mutual
/-- The node yields a value of the type. -/
def Expr.HasType (sc : Scope) : Expr → Ty → Prop
  | .const (some v), t | .sealed v, t => v.type = t
  | .param s, t => s.Listed sc.params ∧ s.type = some t
  | .temp s, t => s.Listed sc.temps ∧ s.type = some t
  | .convert x target, t => target = some t ∧ ∃ u, x.HasType sc u ∧ u.canConvert t = true
  | .invoke _ fn operands, t => ∃ ft ps rs v, fn.HasType sc ft ∧
      ft.func? = some (ps, t :: rs, v) ∧ Expr.Fit sc operands ps
  | _, _ => False
/-- There is one operand for each parameter, of a type that can be stored there. -/
def Expr.Fit (sc : Scope) : List Expr → List Ty → Prop
  | [], [] => True
  | e :: es, t :: ts => (∃ u, e.HasType sc u ∧ u.assignable t = true) ∧ Expr.Fit sc es ts
  | _, _ => False
end

/-- The node is an operation that can be carried out. -/
def Expr.IsOperation (sc : Scope) : Expr → Prop
  | .assign dst src => dst.Listed sc.temps ∧
      ∃ u t, src.HasType sc u ∧ dst.type = some t ∧ u.assignable t = true
  | .invoke _ fn operands => ∃ ft ps rs v, fn.HasType sc ft ∧
      ft.func? = some (ps, rs, v) ∧ Expr.Fit sc operands ps
  | _ => False

namespace Expr

/-- A node has the type that it says it has. -/
theorem HasType.type {sc : Scope} : ∀ {e : Expr} {t : Ty}, e.HasType sc t → e.type = .ok (some t)
  | .const (some _), _, h | .sealed _, _, h => by rw [HasType] at h; rw [← h]; rfl
  | .param _, _, h | .temp _, _, h => by rw [HasType] at h; rw [Expr.type, h.2]
  | .convert _ _, _, h => by rw [HasType] at h; rw [Expr.type, h.1]
  | .invoke _ fn _, _, h => by
      rw [HasType] at h
      obtain ⟨ft, ps, rs, v, hfn, hf, -⟩ := h
      rw [Expr.type, hfn.type]
      simp [Functor.map, Except.map, resultType, hf]
  | .missing, _, h | .const none, _, h | .assign _ _, _, h | .block _ _, _, h => by
      simp [HasType] at h

theorem typeOf_eq_ok {e : Expr} {t : Option Ty} : e.typeOf = .ok t ↔ e.type = .ok t :=
  Check.ofPanicking_eq_ok

/-! ### What a realization accepts is typed -/

/-- An operand that passes its check has a type, and it can be stored in the parameter. -/
theorem checkBind_ok {e : Expr} {target : Option Ty} (h : e.checkBind target = .ok ()) :
    ∃ u t, e.type = .ok (some u) ∧ target = some t ∧ u.assignable t = true := by
  simp only [checkBind, Check.bind_eq_ok, typeOf_eq_ok] at h
  obtain ⟨_ | u, hu, h⟩ := h
  · simp at h
  · obtain ⟨-, -, h⟩ := Check.bind_eq_ok.mp h
    cases target with
    | none => simp at h
    | some t =>
        refine ⟨u, t, hu, rfl, ?_⟩
        by_contra ha
        simp [ha] at h

end Expr

/-- A call that yields a value calls a func whose first result has that value's type. -/
theorem Expr.type_invoke {name : String} {fn : Expr} {operands : List Expr} {ft t : Ty}
    {ps rs : List Ty} {v : Bool} (hft : fn.type = .ok (some ft)) (hf : ft.func? = some (ps, rs, v))
    (h : (Expr.invoke name fn operands).type = .ok (some t)) : ∃ rs', rs = t :: rs' := by
  rw [Expr.type, hft] at h
  cases rs with
  | nil => simp [Functor.map, Except.map, resultType, hf] at h
  | cons r rs' =>
      have : r = t := by simpa [Functor.map, Except.map, resultType, hf] using h
      exact ⟨rs', by rw [this]⟩

theorem callParams_ok {name : String} {fn : Expr} {n : Nat} {ps : List Ty}
    (h : callParams name fn n = .ok ps) :
    ∃ ft rs v, fn.type = .ok (some ft) ∧ ft.func? = some (ps, rs, v) ∧ ps.length = n := by
  simp only [callParams, Check.bind_eq_ok, Expr.typeOf_eq_ok] at h
  obtain ⟨_ | ft, hft, h⟩ := h
  · simp at h
  · simp only at h
    split at h
    · simp at h
    · rename_i ps' rs v hf
      split at h
      · rename_i hlen
        cases Check.pure_eq_ok.mp h
        exact ⟨ft, rs, v, hft, hf, hlen⟩
      · simp at h

theorem conversionTypes_ok {x : Expr} {target : Option Ty} {given t : Ty}
    (h : conversionTypes x target = .ok (given, t)) :
    x.type = .ok (some given) ∧ target = some t ∧ given.canConvert t = true := by
  simp only [conversionTypes, Check.bind_eq_ok, Expr.typeOf_eq_ok] at h
  obtain ⟨_ | u, hu, h⟩ := h
  · simp at h
  · obtain ⟨b, hb, h⟩ := Check.bind_eq_ok.mp h
    cases b with
    | false => simp at h
    | true =>
        cases target with
        | none => simp at h
        | some t' =>
            obtain ⟨rfl, rfl⟩ : u = given ∧ t' = t := by simpa using h
            exact ⟨hu, rfl, by simpa [Expr.canConvert] using hb⟩

theorem conversionTypes_of_type {x : Expr} {s t : Ty} (hx : x.type = .ok (some s))
    (hcan : s.canConvert t = true) : conversionTypes x (some t) = .ok (s, t) := by
  refine Check.bind_eq_ok.mpr ⟨some s, Expr.typeOf_eq_ok.mpr hx, ?_⟩
  exact Check.bind_eq_ok.mpr ⟨true, by rw [Expr.canConvert, hcan], rfl⟩

mutual
/-- A node whose code was made, and which yields a value, is typed. -/
theorem hasType_of_code {sc : Scope} : ∀ {e : Expr} {c : Code} {t : Ty},
    e.code sc = .ok c → e.type = .ok (some t) → e.HasType sc t
  | .missing, _, _, h, _ | .const none, _, _, h, _ | .assign _ _, _, _, h, _
  | .block _ _, _, _, h, _ => by simp [Expr.code] at h
  | .const (some v), _, t, _, ht | .sealed v, _, t, _, ht => by
      rw [Expr.HasType]
      simpa [Expr.type] using ht
  | .param s, _, t, h, ht => by
      simp only [Expr.code, Check.bind_eq_ok] at h
      obtain ⟨i, hi, -⟩ := h
      rw [Expr.HasType]
      exact ⟨.of_lastIndex? (Scope.param_ok hi), by simpa [Expr.type] using ht⟩
  | .temp s, _, t, h, ht => by
      simp only [Expr.code, Check.bind_eq_ok] at h
      obtain ⟨i, hi, -⟩ := h
      rw [Expr.HasType]
      exact ⟨.of_lastIndex? (Scope.temp_ok hi), by simpa [Expr.type] using ht⟩
  | .convert x target, _, t, h, ht => by
      simp only [Expr.code, Check.bind_eq_ok] at h
      obtain ⟨⟨given, t'⟩, hc, cx, hx, -⟩ := h
      obtain ⟨hg, rfl, hcan⟩ := conversionTypes_ok hc
      obtain rfl : t' = t := by simpa [Expr.type] using ht
      rw [Expr.HasType]
      exact ⟨rfl, given, hasType_of_code hx hg, hcan⟩
  | .invoke name fn operands, _, t, h, ht => by
      simp only [Expr.code, Check.bind_eq_ok] at h
      obtain ⟨r, hr, h⟩ := h
      split at h
      · simp at h
      · obtain ⟨ps, hps, f, hf, cs, hcs, -⟩ := by simpa only [Check.bind_eq_ok] using h
        obtain ⟨ft, rs, v, hft, hfunc, hlen⟩ := callParams_ok hps
        rw [Expr.HasType]
        -- the call has a type, so the func has a first result
        obtain ⟨rs', rfl⟩ := Expr.type_invoke hft hfunc ht
        exact ⟨ft, ps, _, v, hasType_of_code hf hft, hfunc, fit_of_operandCodes hlen hcs⟩
/-- Operands whose codes were made fit the parameters. -/
theorem fit_of_operandCodes {sc : Scope} {name : String} : ∀ {i : Nat} {es : List Expr}
    {ts : List Ty} {cs : List Code}, ts.length = es.length →
    Expr.operandCodes sc name i ts es = .ok cs → Expr.Fit sc es ts
  | _, [], [], _, _, _ => by rw [Expr.Fit]; trivial
  | _, [], _ :: _, _, hlen, _ | _, _ :: _, [], _, hlen, _ => by simp at hlen
  | _, e :: es, t :: ts, _, hlen, h => by
      simp only [Expr.operandCodes, Check.bind_eq_ok, Check.inside_eq_ok] at h
      obtain ⟨⟨⟩, hb, c, hc, cs, hcs, -⟩ := h
      obtain ⟨u, t', hu, ht', ha⟩ := Expr.checkBind_ok hb
      cases ht'
      rw [Expr.Fit]
      exact ⟨⟨u, hasType_of_code hc hu, ha⟩, fit_of_operandCodes (by simpa using hlen) hcs⟩
end

/-- A node that became an operation is one that can be carried out. -/
theorem isOperation_of_step {sc : Scope} {e : Expr} {st : Step} (h : e.step sc = .ok st) :
    e.IsOperation sc := by
  cases e with
  | assign dst src =>
      simp only [Expr.step, Check.bind_eq_ok, Check.inside_eq_ok] at h
      obtain ⟨i, hi, ⟨⟩, hb, c, hc, -⟩ := h
      obtain ⟨u, t, hu, ht, ha⟩ := Expr.checkBind_ok hb
      exact ⟨.of_lastIndex? (Scope.temp_ok hi), u, t, hasType_of_code hc hu, ht, ha⟩
  | invoke name fn operands =>
      simp only [Expr.step, Check.bind_eq_ok] at h
      obtain ⟨ps, hps, f, hf, cs, hcs, -⟩ := h
      obtain ⟨ft, rs, v, hft, hfunc, hlen⟩ := callParams_ok hps
      exact ⟨ft, ps, rs, v, hasType_of_code hf hft, hfunc, fit_of_operandCodes hlen hcs⟩
  | missing | const | sealed | param | temp | convert | block => simp [Expr.step] at h

theorem isOperation_of_steps {sc : Scope} : ∀ {i : Nat} {es : List Expr} {sts : List Step},
    Expr.steps sc i es = .ok sts → ∀ e ∈ es, e.IsOperation sc
  | _, [], _, _ => by simp
  | _, e :: es, _, h => by
      simp only [Expr.steps, Check.bind_eq_ok, Check.inside_eq_ok] at h
      obtain ⟨st, hst, sts, hsts, -⟩ := h
      intro e' he'
      rcases List.mem_cons.mp he' with rfl | he'
      · exact isOperation_of_step hst
      · exact isOperation_of_steps hsts e' he'

/-! ### Signatures -/

/-- The scope of a program's operations. -/
def Lambda.scope (l : Lambda) : Scope := ⟨l.params, (l.body.map (·.temps)).getD []⟩

/-- The signature is a func without results, not variadic, that takes exactly the inputs. -/
def Lambda.Matches (l : Lambda) (sig : Option Ty) : Prop :=
  ∃ ps, sig.bind Ty.func? = some (ps, [], false) ∧ l.paramTypes = ps.map some

/-- A signature passes its check if it is that of the program, and is reported as such if not. -/
theorem checkSignature_cases (l : Lambda) (sig : Option Ty) :
    (l.Matches sig ∧ ∃ t, sig = some t ∧ l.checkSignature sig = .ok t) ∨
    (¬ l.Matches sig ∧ ∃ fault, l.checkSignature sig = Check.fail (.signature fault)) := by
  unfold Lambda.checkSignature
  cases hf : sig.bind Ty.func? with
  | none =>
      refine .inr ⟨?_, .notFunc sig, by cases sig <;> rfl⟩
      rintro ⟨ps, h, -⟩
      rw [hf] at h
      cases h
  | some f =>
      obtain ⟨ps, rs, v⟩ := f
      obtain ⟨sig, rfl, -⟩ := Option.bind_eq_some_iff.mp hf
      have hm : l.Matches (some sig) ↔ rs = [] ∧ v = false ∧ l.paramTypes = ps.map some := by
        simp [Lambda.Matches, hf, and_assoc]
      rw [hm]
      by_cases hv : v = true
      · exact .inr ⟨by simp [hv], .variadic sig, by simp [hv]⟩
      by_cases hlen : ps.length = l.params.length
      · simp only [hv, hlen, ne_eq, not_true_eq_false, if_false, Bool.false_eq_true]
        rcases checkInputs_cases sig 0 hlen with ⟨h, h'⟩ | ⟨h, fault, h'⟩
        · rw [h']
          cases rs with
          | nil => exact .inl ⟨⟨rfl, by simp, h⟩, sig, rfl, rfl⟩
          | cons r rs => exact .inr ⟨by simp, _, rfl⟩
        · rw [h']
          exact .inr ⟨fun hh => h hh.2.2, fault, rfl⟩
      · refine .inr ⟨fun hh => hlen ?_, .inputCount sig ps.length l.params.length,
          by simp [hv, hlen]⟩
        have := congrArg List.length hh.2.2
        simpa [Lambda.paramTypes] using this.symm

/-- A program that passes takes inputs of the signature's parameter types. -/
theorem paramTypes_of_checkSignature {l : Lambda} {sig : Option Ty} {t : Ty} {ps rs : List Ty}
    {b : Bool} (h : l.checkSignature sig = .ok t) (hsig : sig.bind Ty.func? = some (ps, rs, b)) :
    l.paramTypes = ps.map some := by
  rcases checkSignature_cases l sig with ⟨⟨ps', hps', hl⟩, -⟩ | ⟨-, fault, hfail⟩
  · rw [hsig] at hps'
    cases hps'
    exact hl
  · rw [hfail] at h
    cases h

end Tacit
