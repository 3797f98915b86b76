import Tacit.Catalogue
import Tacit.Proofs.Program.Failures
import Tacit.Proofs.Program.WellFormed

/-!
# When a realization breaks off

A program that is put together by hand can lack things. A realization reports most of that as an
error, but it asks nodes for their types before anything else, and two things make that question, or
the use of the answer, break off: a constant without a value, which has no type, and a call of
something that yields nothing.

* `Lambda.Complete`: nodes and declared types are there; constants may lack their values, and what
  is called may yield nothing.
* `Excuses ops f`: the failure `f` is an error, or one of the two in the operations accounts for it.
  `code_fails`, `step_fails`: so it is with every failure of a realization. A node is asked for its
  type before its code is made, so that the error for a constant without a value is never reported.
* `Lambda.Empties`: the second program is the first without the values of some constants.
  `Empties.code`, `Empties.step`: what was accepted with the values breaks off without them.
* `realize_outcome`: how a realization ends.
-/

namespace Tacit

open Tacit.Expr (Evaluated)

/-! ### Programs without gaps -/

/-- The node is there, and so is the type that it declares. -/
def Expr.Present : Expr → Prop
  | .missing => False
  | .param s | .temp s | .assign s _ => s.type ≠ none
  | .convert _ target => target ≠ none
  | _ => True

/-- Every operation, and every node that is evaluated, is there with its declared types. -/
def Lambda.Complete (l : Lambda) : Prop := ∀ e, e ∈ l.ops ∨ Evaluated l.ops e → e.Present

/-- All that is evaluated is in a list, if what operations need is in it and what its own nodes
need. -/
theorem Expr.Evaluated.mem {ops nodes : List Expr} (hops : ∀ op ∈ ops, op.parts ⊆ nodes)
    (hnodes : ∀ e ∈ nodes, e.parts ⊆ nodes) {e : Expr} (h : Evaluated ops e) : e ∈ nodes := by
  induction h with
  | part hop he => exact hops _ hop he
  | deeper _ hx ih => exact hnodes _ ih hx

/-! ### Programs that have lost values -/

mutual
/-- The second node is the first, except that constants may have lost their values. -/
def Expr.Empties : Expr → Expr → Prop
  | .const v, e' => e' = .const v ∨ e' = .const none
  | .sealed v, e' => e' = .sealed v ∨ e' = .const none
  | .convert x target, e' => ∃ x', e' = .convert x' target ∧ x.Empties x'
  | .invoke name fn operands, e' => ∃ fn' operands', e' = .invoke name fn' operands' ∧
      fn.Empties fn' ∧ Expr.EmptiesAll operands operands'
  | .assign dst src, e' => ∃ src', e' = .assign dst src' ∧ src.Empties src'
  | e, e' => e' = e
/-- The same for nodes in a row. -/
def Expr.EmptiesAll : List Expr → List Expr → Prop
  | [], es' => es' = []
  | e :: es, es' => ∃ e' es'', es' = e' :: es'' ∧ e.Empties e' ∧ Expr.EmptiesAll es es''
end

/-- The second program is the first, except that constants may have lost their values. -/
def Lambda.Empties (full l : Lambda) : Prop :=
  l.params = full.params ∧ ∃ body ops, full.body = some body ∧ l.body = some ⟨body.temps, ops⟩ ∧
    Expr.EmptiesAll body.ops ops

theorem Expr.EmptiesAll.length_eq : ∀ {es es' : List Expr}, EmptiesAll es es' →
    es'.length = es.length
  | [], es', h => by
      rw [EmptiesAll] at h
      rw [h]
  | e :: es, es', h => by
      rw [EmptiesAll] at h
      obtain ⟨e', es'', rfl, -, h⟩ := h
      rw [List.length_cons, List.length_cons, h.length_eq]

/-! ### Failures that are accounted for -/

namespace Check

variable {α β : Type} {x : Check α} {P : Failure → Prop}

/-- If the check fails, the failure is one of those in `P`. -/
def Fails (x : Check α) (P : Failure → Prop) : Prop := ∀ f, x = .error f → P f

theorem fails_ok (a : α) : Fails (.ok a) P := by
  intro f h
  cases h

theorem fails_error {f : Failure} (h : P f) : Fails (.error f : Check α) P := by
  intro f' h'
  cases h'
  exact h

/-- What comes after a check only runs on what the check passed. -/
theorem Fails.bind {f : α → Check β} (hx : x.Fails P) (hf : ∀ a, x = .ok a → (f a).Fails P) :
    (x >>= f).Fails P := by
  cases x with
  | error failure =>
      intro f' h
      cases h
      exact hx _ rfl
  | ok a => exact hf a rfl

theorem Fails.inside (hx : x.Fails P) {ctx : Context}
    (hP : ∀ e, P (.error e) → P (.error (.within ctx e))) : (inside ctx x).Fails P := by
  intro f h
  rcases x with (e | p) | a
  · cases h
    exact hP e (hx _ rfl)
  · cases h
    exact hx _ rfl
  · cases h

end Check

open Check

/-- The check breaks off over a constant without a value. -/
def Check.Trips {α : Type} (x : Check α) : Prop := x = .error (.panic .typeOfNothing)

theorem Check.Trips.bind {α β : Type} {x : Check α} (h : x.Trips) (f : α → Check β) :
    (x >>= f).Trips := by
  rw [Check.Trips] at h
  rw [h]
  rfl

theorem Check.Trips.inside {α : Type} {x : Check α} (h : x.Trips) (ctx : Context) :
    (Check.inside ctx x).Trips := by
  rw [Check.Trips] at h
  rw [h]
  rfl

/-- After a check that passes, it is what follows that breaks off. -/
theorem Check.Trips.of_ok {α β : Type} {x : Check α} {f : α → Check β} {a : α} (hx : x = .ok a)
    (h : (f a).Trips) : (x >>= f).Trips := by
  rw [hx]
  exact h

section

variable [Declarations]

/-- The failure is an error other than that of a constant without a value, or a panic over a
constant without a value that is evaluated, or a panic over an operation that calls something that
yields nothing. -/
def Excuses (ops : List Expr) : Failure → Prop
  | .error e => e.cause ≠ .malformed .emptyConstant
  | .panic p => (p = .typeOfNothing ∧ Evaluated ops (.const none)) ∨
      (p = .nilDereference ∧
        ∃ name fn operands, .invoke name fn operands ∈ ops ∧ fn.type = .ok none)

section

variable {α : Type} {sc : Scope} {ops : List Expr} {x e fn : Expr}

theorem fails_mismatch (fault : Mismatch) :
    Fails (Check.fail (.mismatch fault) : Check α) (Excuses ops) :=
  fails_error (by simp [Excuses, Error.cause])

theorem fails_malformed {fault : Malformation} (h : fault ≠ .emptyConstant) :
    Fails (Check.fail (.malformed fault) : Check α) (Excuses ops) :=
  fails_error (by simpa [Excuses, Error.cause] using h)

theorem Scope.param_fails (s : Slot) : (sc.param s).Fails (Excuses ops) := by
  unfold Scope.param
  split
  · exact fails_ok _
  · exact fails_malformed (by simp)

theorem Scope.temp_fails (s : Slot) : (sc.temp s).Fails (Excuses ops) := by
  unfold Scope.temp
  split
  · exact fails_ok _
  · exact fails_malformed (by simp)

section

variable (hall : ∀ e, Evaluated ops e → e.Present)

include hall

/-- A node that is evaluated lacks a type only because of a constant without a value. -/
theorem type_panics : ∀ {e : Expr} {p : Panic},
    Evaluated ops e → e.type = .error p → p = .typeOfNothing ∧ Evaluated ops (.const none)
  | .missing, _, he, _ => (hall _ he).elim
  | .const none, p, he, h => by
      cases h
      exact ⟨rfl, he⟩
  | .invoke name fn operands, p, he, h => by
      cases hfn : fn.type with
      | error q =>
          rw [Expr.type, hfn] at h
          cases h
          exact type_panics (he.deeper List.mem_cons_self) hfn
      | ok t =>
          rw [Expr.type, hfn] at h
          cases h
  | .const (some _), _, _, h | .sealed _, _, _, h | .param _, _, _, h | .temp _, _, _, h
  | .assign _ _, _, _, h | .convert _ _, _, _, h | .block _ _, _, _, h => by cases h

theorem typeOf_fails (he : Evaluated ops e) :
    e.typeOf.Fails (Excuses ops) := by
  intro f h
  cases ht : e.type with
  | error p =>
      rw [Expr.typeOf, ht] at h
      cases h
      exact .inl (type_panics hall he ht)
  | ok t =>
      rw [Expr.typeOf, ht] at h
      cases h

theorem checkConversion_fails (he : Evaluated ops e) (t : Ty) :
    (e.checkConversion t).Fails (Excuses ops) := by
  cases e with
  | convert x target =>
      refine (typeOf_fails hall (he.deeper List.mem_cons_self)).bind fun given _ => ?_
      cases given with
      | none => exact fails_mismatch _
      | some u =>
          show Fails (if u.canConvert t then pure () else fail _) _
          split
          · exact fails_ok ()
          · exact fails_mismatch _
  | missing | const | sealed | param | temp | invoke | assign | block => exact fails_ok ()

theorem checkBind_fails (he : Evaluated ops e) {target : Option Ty} (ht : target ≠ none) :
    (e.checkBind target).Fails (Excuses ops) := by
  refine (typeOf_fails hall he).bind fun given _ => ?_
  cases given with
  | none => exact fails_mismatch _
  | some u =>
      refine (checkConversion_fails hall he u).bind fun _ _ => ?_
      cases target with
      | none => exact absurd rfl ht
      | some t =>
          show Fails (if u.assignable t then pure () else fail _) _
          split
          · exact fails_ok ()
          · exact fails_mismatch _

theorem conversionTypes_fails (hx : Evaluated ops x) {target : Option Ty} (ht : target ≠ none) :
    (conversionTypes x target).Fails (Excuses ops) := by
  refine (typeOf_fails hall hx).bind fun given _ => ?_
  cases given with
  | none => exact fails_mismatch _
  | some u =>
      cases target with
      | none => exact absurd rfl ht
      | some t =>
          refine (fails_ok (u.canConvert t)).bind fun b _ => ?_
          cases b with
          | false => exact fails_mismatch _
          | true => exact fails_ok _

/-- What is called may yield nothing only where that is accounted for. -/
theorem callParams_fails (hfn : Evaluated ops fn)
    (hnone : fn.type = .ok none → Excuses ops (.panic .nilDereference)) (name : String) (n : Nat) :
    (callParams name fn n).Fails (Excuses ops) := by
  refine (typeOf_fails hall hfn).bind fun t ht => ?_
  cases t with
  | none => exact fails_error (hnone (Expr.typeOf_eq_ok.mp ht))
  | some t =>
      cases hf : t.func? with
      | none =>
          simp only [hf]
          exact fails_malformed (by simp)
      | some f =>
          simp only [hf]
          split
          · exact fails_ok _
          · exact fails_malformed (by simp)

mutual
/-- **The code of a node** is made after the node was asked for its type, so that a constant without
a value does not come this far. -/
theorem code_fails : ∀ {e : Expr} {t : Option Ty},
    Evaluated ops e → e.type = .ok t → (e.code sc).Fails (Excuses ops)
  | .missing, _, _, ht | .const none, _, _, ht => by cases ht
  | .const (some v), _, _, _ | .sealed v, _, _, _ => by
      rw [Expr.code]
      exact fails_ok _
  | .param s, _, _, _ => by
      rw [Expr.code]
      exact (Scope.param_fails s).bind fun _ _ => fails_ok _
  | .temp s, _, _, _ => by
      rw [Expr.code]
      exact (Scope.temp_fails s).bind fun _ _ => fails_ok _
  | .convert x target, _, he, _ => by
      have hx : Evaluated ops x := he.deeper List.mem_cons_self
      rw [Expr.code]
      refine (conversionTypes_fails hall hx (hall _ he)).bind fun types htypes => ?_
      obtain ⟨hgiven, -, -⟩ := conversionTypes_ok htypes
      exact (code_fails hx hgiven).bind fun _ _ => fails_ok _
  | .invoke name fn operands, _, he, _ => by
      have hfn : Evaluated ops fn := he.deeper List.mem_cons_self
      rw [Expr.code]
      refine (typeOf_fails hall he).bind fun r hr => ?_
      split
      · exact fails_mismatch _
      rename_i hsome
      -- a call that has a type calls something that has one
      have hnone : fn.type ≠ .ok none := by
        intro hft
        rw [Expr.typeOf_eq_ok, Expr.type, hft] at hr
        cases hr
        exact hsome rfl
      refine (callParams_fails hall hfn (fun h => absurd h hnone) name _).bind fun ps hps => ?_
      obtain ⟨ft, -, -, hft, -, -⟩ := callParams_ok hps
      refine (code_fails hfn hft).bind fun _ _ => ?_
      refine Fails.bind ?_ fun _ _ => fails_ok _
      exact operandCodes_fails name 0 ps fun x hx => he.deeper (List.mem_cons_of_mem _ hx)
  | .assign _ _, _, _, _ | .block _ _, _, _, _ => by
      rw [Expr.code]
      · exact fails_malformed (by simp)
      all_goals simp
theorem operandCodes_fails (name : String) :
    ∀ (i : Nat) (ts : List Ty) {es : List Expr}, (∀ e ∈ es, Evaluated ops e) →
      (Expr.operandCodes sc name i ts es).Fails (Excuses ops)
  | i, t :: ts, e :: es, hes => by
      have he := hes e List.mem_cons_self
      rw [Expr.operandCodes]
      refine ((checkBind_fails hall he (by simp)).inside fun _ h => h).bind fun _ hb => ?_
      obtain ⟨u, -, hu, -, -⟩ := Expr.checkBind_ok (Check.inside_eq_ok.mp hb)
      refine (code_fails he hu).bind fun _ _ => Fails.bind ?_ fun _ _ => fails_ok _
      exact operandCodes_fails name (i + 1) ts fun x hx => hes x (List.mem_cons_of_mem _ hx)
  | _, [], _, _ | _, _ :: _, [], _ => by
      rw [Expr.operandCodes]
      · exact fails_ok _
      all_goals simp
end

end

theorem step_fails (hall : ∀ e, e ∈ ops ∨ Evaluated ops e → e.Present) (he : e ∈ ops) :
    (e.step sc).Fails (Excuses ops) := by
  have hbelow : ∀ e, Evaluated ops e → e.Present := fun e h => hall e (.inr h)
  cases e with
  | assign dst src =>
      have hsrc : Evaluated ops src := .part he List.mem_cons_self
      refine (Scope.temp_fails dst).bind fun _ _ => ?_
      refine ((checkBind_fails hbelow hsrc (hall _ (.inl he))).inside fun _ h => h).bind
        fun _ hb => ?_
      obtain ⟨u, -, hu, -, -⟩ := Expr.checkBind_ok (Check.inside_eq_ok.mp hb)
      exact (code_fails hbelow hsrc hu).bind fun _ _ => fails_ok _
  | invoke name fn operands =>
      have hfn : Evaluated ops fn := .part he List.mem_cons_self
      have hnone : fn.type = .ok none → Excuses ops (.panic .nilDereference) := fun h =>
        .inr ⟨rfl, name, fn, operands, he, h⟩
      refine (callParams_fails hbelow hfn hnone name _).bind fun ps hps => ?_
      obtain ⟨ft, -, -, hft, -, -⟩ := callParams_ok hps
      refine (code_fails hbelow hfn hft).bind fun _ _ => Fails.bind ?_ fun _ _ => fails_ok _
      exact operandCodes_fails hbelow name 0 ps fun x hx => .part he (List.mem_cons_of_mem _ hx)
  | missing | const | sealed | param | temp | convert | block => exact fails_malformed (by simp)

theorem steps_fails (hall : ∀ e, e ∈ ops ∨ Evaluated ops e → e.Present) :
    ∀ (i : Nat) {es : List Expr}, (∀ e ∈ es, e ∈ ops) → (Expr.steps sc i es).Fails (Excuses ops)
  | _, [], _ => fails_ok []
  | i, e :: es, hes => by
      refine ((step_fails hall (hes e List.mem_cons_self)).inside fun _ h => h).bind fun _ _ => ?_
      refine Fails.bind ?_ fun _ _ => fails_ok _
      exact steps_fails hall (i + 1) fun x hx => hes x (List.mem_cons_of_mem _ hx)

end

theorem realize_fails {l : Lambda} (h : l.Complete) (sig : Option Ty) :
    (l.realize sig).Fails (Excuses l.ops) := by
  unfold Lambda.realize
  split
  · exact fails_malformed (by simp)
  · rename_i body hbody
    rw [Lambda.Complete, Lambda.ops_eq hbody] at h
    rw [Lambda.ops_eq hbody]
    refine Fails.bind ?_ fun _ _ => (steps_fails h 0 fun _ he => he).bind fun _ _ => fails_ok _
    intro f hf
    rcases checkSignature_cases l sig with ⟨-, t, -, hsig⟩ | ⟨-, fault, hsig⟩
    · rw [hsig] at hf
      cases hf
    · rw [hsig] at hf
      cases hf
      simp [Excuses, Error.cause]

/-! ### Constants without their values -/

section

variable {sc : Scope} {e e' x x' fn fn' : Expr} {s t : Ty}

namespace Expr.Empties

/-- A typed node that loses values loses its type, or keeps it. -/
theorem type : ∀ {e e' : Expr} {t : Ty}, e.Empties e' → e.HasType sc t →
    e'.type = .error .typeOfNothing ∨ e'.type = .ok (some t)
  | .const v, e', t, h, ht | .sealed v, e', t, h, ht => by
      rw [Empties] at h
      rcases h with rfl | rfl
      · exact .inr ht.type
      · exact .inl rfl
  | .convert x target, e', t, h, ht => by
      rw [Empties] at h
      obtain ⟨x', rfl, -⟩ := h
      exact .inr ht.type
  | .invoke name fn operands, e', t, h, ht => by
      rw [Empties] at h
      obtain ⟨fn', operands', rfl, hfn, -⟩ := h
      have hkept := ht.type
      rw [HasType] at ht
      obtain ⟨ft, ps, rs, v, hft, -, -⟩ := ht
      rw [Expr.type, hft.type] at hkept
      rcases type hfn hft with h | h
      · exact .inl (by rw [Expr.type, h]; rfl)
      · exact .inr (by rw [Expr.type, h]; exact hkept)
  | .param _, e', t, h, ht | .temp _, e', t, h, ht => by
      rw [Empties] at h
      · subst h
        exact .inr ht.type
      all_goals simp
  | .missing, _, _, _, ht | .assign _ _, _, _, _, ht | .block _ _, _, _, _, ht => by
      simp [HasType] at ht

theorem typeOf (h : e.Empties e') (ht : e.HasType sc t) :
    e'.typeOf.Trips ∨ e'.type = .ok (some t) := by
  rcases h.type ht with h | h
  · exact .inl (by rw [Expr.typeOf, h]; rfl)
  · exact .inr h

theorem conversionTypes (h : x.Empties x') (hx : x.HasType sc s) (hcan : s.canConvert t = true) :
    (conversionTypes x' (some t)).Trips ∨
      (x'.type = .ok (some s) ∧ Tacit.conversionTypes x' (some t) = .ok (s, t)) := by
  rcases h.typeOf hx with htrip | hs
  · exact .inl (htrip.bind _)
  · exact .inr ⟨hs, conversionTypes_of_type hs hcan⟩

theorem callParams (h : fn.Empties fn') {ps rs : List Ty} {v : Bool} (hfn : fn.HasType sc s)
    (hf : s.func? = some (ps, rs, v)) (name : String) {n : Nat} (hn : ps.length = n) :
    (callParams name fn' n).Trips ∨
      (fn'.type = .ok (some s) ∧ Tacit.callParams name fn' n = .ok ps) := by
  rcases h.typeOf hfn with htrip | hs
  · exact .inl (htrip.bind _)
  · exact .inr ⟨hs, callParams_of_type hs hf hn⟩

theorem checkConversion (h : e.Empties e') (hs : e.HasType sc s) :
    (e'.checkConversion s).Trips ∨ e'.checkConversion s = .ok () := by
  cases e with
  | convert x target =>
      rw [Empties] at h
      obtain ⟨x', rfl, hx⟩ := h
      rw [HasType] at hs
      obtain ⟨-, u, hu, hcan⟩ := hs
      rcases hx.typeOf hu with htrip | hu'
      · exact .inl (htrip.bind _)
      · exact .inr (Check.bind_eq_ok.mpr ⟨some u, typeOf_eq_ok.mpr hu', if_pos hcan⟩)
  | const | sealed =>
      rw [Empties] at h
      rcases h with rfl | rfl <;> exact .inr rfl
  | invoke =>
      rw [Empties] at h
      obtain ⟨fn', operands', rfl, -⟩ := h
      exact .inr rfl
  | param | temp =>
      rw [Empties] at h
      · subst h
        exact .inr rfl
      all_goals simp
  | missing | assign | block => simp [HasType] at hs

theorem checkBind (h : e.Empties e') (hs : e.HasType sc s) (ha : s.assignable t = true) :
    (e'.checkBind (some t)).Trips ∨
      (e'.type = .ok (some s) ∧ e'.checkBind (some t) = .ok ()) := by
  rcases h.typeOf hs with htrip | hs'
  · exact .inl (htrip.bind _)
  rcases h.checkConversion hs with htrip | hconv
  · exact .inl (.of_ok (typeOf_eq_ok.mpr hs') (htrip.bind _))
  · refine .inr ⟨hs', Check.bind_eq_ok.mpr ⟨some s, typeOf_eq_ok.mpr hs', ?_⟩⟩
    exact Check.bind_eq_ok.mpr ⟨(), hconv, if_pos ha⟩

end Expr.Empties

mutual
/-- **A typed node that has lost values** but still says its type breaks off when its code is
made. -/
theorem Expr.Empties.code : ∀ {e e' : Expr} {t : Ty}, e.Empties e' → e.HasType sc t →
    e'.type = .ok (some t) → e' = e ∨ (e'.code sc).Trips
  | .const v, e', t, h, ht, ht' | .sealed v, e', t, h, ht, ht' => by
      rw [Expr.Empties] at h
      rcases h with rfl | rfl
      · exact .inl rfl
      · cases ht'
  | .convert x target, e', t, h, ht, ht' => by
      rw [Expr.Empties] at h
      obtain ⟨x', rfl, hx⟩ := h
      rw [Expr.HasType] at ht
      obtain ⟨rfl, u, hu, hcan⟩ := ht
      rw [Expr.code]
      rcases hx.conversionTypes hu hcan with htrip | ⟨hu', htypes⟩
      · exact .inr (htrip.bind _)
      rcases Expr.Empties.code hx hu hu' with rfl | htrip
      · exact .inl rfl
      · exact .inr (.of_ok htypes (htrip.bind _))
  | .invoke name fn operands, e', t, h, ht, ht' => by
      rw [Expr.Empties] at h
      obtain ⟨fn', operands', rfl, hfn, hoperands⟩ := h
      rw [Expr.HasType] at ht
      obtain ⟨ft, ps, rs, v, hft, hf, hfit⟩ := ht
      have htype : (Expr.invoke name fn' operands').typeOf = .ok (some t) :=
        Expr.typeOf_eq_ok.mpr ht'
      have hlen : ps.length = operands'.length := by rw [hoperands.length_eq, hfit.length_eq]
      rw [Expr.code]
      -- the func comes first, and then the operands from left to right
      rcases hfn.callParams hft hf name hlen with htrip | ⟨hft', hps⟩
      · exact .inr (.of_ok htype (htrip.bind _))
      rcases Expr.Empties.code hfn hft hft' with rfl | htrip
      · obtain ⟨f, hcode⟩ := code_of_hasType hft
        rcases hoperands.codes name 0 hfit with rfl | htrip
        · exact .inl rfl
        · exact .inr (.of_ok htype (.of_ok hps (.of_ok hcode (htrip.bind _))))
      · exact .inr (.of_ok htype (.of_ok hps (htrip.bind _)))
  | .param _, e', t, h, ht, _ | .temp _, e', t, h, ht, _ => by
      rw [Expr.Empties] at h
      · exact .inl h
      all_goals simp
  | .missing, _, _, _, ht, _ | .assign _ _, _, _, _, ht, _ | .block _ _, _, _, _, ht, _ => by
      simp [Expr.HasType] at ht
theorem Expr.EmptiesAll.codes (name : String) : ∀ (i : Nat) {es es' : List Expr} {ts : List Ty},
    Expr.EmptiesAll es es' → Expr.Fit sc es ts →
    es' = es ∨ (Expr.operandCodes sc name i ts es').Trips
  | _, [], es', _, h, _ => by
      rw [Expr.EmptiesAll] at h
      exact .inl h
  | i, e :: es, es', t :: ts, h, hfit => by
      rw [Expr.EmptiesAll] at h
      obtain ⟨e', es'', rfl, he, hes⟩ := h
      rw [Expr.Fit] at hfit
      obtain ⟨⟨u, hu, ha⟩, hfits⟩ := hfit
      rw [Expr.operandCodes]
      rcases he.checkBind hu ha with htrip | ⟨hu', hbind⟩
      · exact .inr ((htrip.inside _).bind _)
      have hpass : Check.inside (.operand name i) (e'.checkBind (some t)) = .ok () :=
        Check.inside_eq_ok.mpr hbind
      rcases Expr.Empties.code he hu hu' with rfl | htrip
      · obtain ⟨c, hc⟩ := code_of_hasType hu
        rcases Expr.EmptiesAll.codes name (i + 1) hes hfits with rfl | htrip
        · exact .inl rfl
        · exact .inr (.of_ok hpass (.of_ok hc (htrip.bind _)))
      · exact .inr (.of_ok hpass (htrip.bind _))
  | _, _ :: _, _, [], _, hfit => by simp [Expr.Fit] at hfit
end

/-- An operation that has lost values breaks off. -/
theorem Expr.Empties.step (h : e.Empties e') (hop : e.IsOperation sc) :
    e' = e ∨ (e'.step sc).Trips := by
  cases e with
  | assign dst src =>
      rw [Expr.Empties] at h
      obtain ⟨src', rfl, hsrc⟩ := h
      obtain ⟨hdst, u, t, hu, ht, ha⟩ := hop
      obtain ⟨i, hi⟩ := Scope.temp_of_listed hdst
      rw [Expr.step, ht]
      rcases hsrc.checkBind hu ha with htrip | ⟨hu', hbind⟩
      · exact .inr (.of_ok hi ((htrip.inside _).bind _))
      rcases hsrc.code hu hu' with rfl | htrip
      · exact .inl rfl
      · exact .inr (.of_ok hi (.of_ok (Check.inside_eq_ok.mpr hbind) (htrip.bind _)))
  | invoke name fn operands =>
      rw [Expr.Empties] at h
      obtain ⟨fn', operands', rfl, hfn, hoperands⟩ := h
      obtain ⟨ft, ps, rs, v, hft, hf, hfit⟩ := hop
      have hlen : ps.length = operands'.length := by rw [hoperands.length_eq, hfit.length_eq]
      rw [Expr.step]
      rcases hfn.callParams hft hf name hlen with htrip | ⟨hft', hps⟩
      · exact .inr (htrip.bind _)
      rcases hfn.code hft hft' with rfl | htrip
      · obtain ⟨f, hcode⟩ := code_of_hasType hft
        rcases hoperands.codes name 0 hfit with rfl | htrip
        · exact .inl rfl
        · exact .inr (.of_ok hps (.of_ok hcode (htrip.bind _)))
      · exact .inr (.of_ok hps (htrip.bind _))
  | missing | const | sealed | param | temp | convert | block => exact hop.elim

theorem Expr.EmptiesAll.steps : ∀ (i : Nat) {es es' : List Expr}, Expr.EmptiesAll es es' →
    (∀ e ∈ es, e.IsOperation sc) → es' = es ∨ (Expr.steps sc i es').Trips
  | _, [], es', h, _ => by
      rw [Expr.EmptiesAll] at h
      exact .inl h
  | i, e :: es, es', h, hops => by
      rw [Expr.EmptiesAll] at h
      obtain ⟨e', es'', rfl, he, hes⟩ := h
      have hop := hops e List.mem_cons_self
      rw [Expr.steps]
      rcases he.step hop with rfl | htrip
      · obtain ⟨st, hst⟩ := step_of_isOperation hop
        rcases Expr.EmptiesAll.steps (i + 1) hes fun x hx => hops x (List.mem_cons_of_mem _ hx) with
          rfl | htrip
        · exact .inl rfl
        · exact .inr (.of_ok (Check.inside_eq_ok.mpr hst) (htrip.bind _))
      · exact .inr ((htrip.inside _).bind _)

end

/-- A realization under the signature of the program is that of its operations. -/
theorem realize_of_matches {l : Lambda} {sig : Option Ty} (h : l.Matches sig) {body : Block}
    (hbody : l.body = some body) : ∃ t, l.realize sig =
      (Expr.steps ⟨l.params, body.temps⟩ 0 body.ops >>= fun sts =>
        pure ⟨t, body.temps.map (·.type), sts⟩) := by
  rcases checkSignature_cases l sig with ⟨-, t, -, hsig⟩ | ⟨hm, -⟩
  · refine ⟨t, ?_⟩
    rw [Lambda.realize, hbody]
    simp only [hsig]
    rfl
  · exact absurd h hm

/-- **A program that would be realized** if its constants had their values breaks off. -/
theorem Lambda.Empties.realize {full l : Lambda} (h : full.Empties l) {sig : Option Ty}
    (hfull : ∃ r, full.realize sig = .ok r) : l = full ∨ (l.realize sig).Trips := by
  obtain ⟨hparams, body, ops, hbody, hbody', hops⟩ := h
  obtain ⟨hm, body', hb, hop⟩ := realize_iff_typed.mp hfull
  rw [hbody] at hb
  cases hb
  have hm' : l.Matches sig := by
    obtain ⟨ps, hps, hl⟩ := hm
    exact ⟨ps, hps, by rw [Lambda.paramTypes, hparams]; exact hl⟩
  obtain ⟨t, ht⟩ := realize_of_matches hm' hbody'
  rw [ht, hparams]
  rcases hops.steps 0 hop with rfl | htrip
  · left
    cases l
    cases full
    cases hparams
    cases hbody
    cases hbody'
    rfl
  · exact .inr (htrip.bind _)

/-! ### Calls of what yields nothing -/

/-- After operations that pass, one that calls what yields nothing breaks off. -/
theorem steps_nilDereference {sc : Scope} : ∀ (k i : Nat) {es : List Expr} {name : String}
    {fn : Expr} {operands : List Expr}, es[k]? = some (.invoke name fn operands) →
    fn.type = .ok none → (∀ e ∈ es.take k, e.IsOperation sc) →
    Expr.steps sc i es = .error (.panic .nilDereference)
  | _, _, [], _, _, _, hk, _, _ => by cases hk
  | 0, i, e :: es, name, fn, operands, hk, hfn, _ => by
      cases hk
      have hstep : (Expr.invoke name fn operands).step sc = .error (.panic .nilDereference) := by
        rw [Expr.step, callParams, Expr.typeOf_eq_ok.mpr hfn]
        rfl
      rw [Expr.steps, hstep]
      rfl
  | k + 1, i, e :: es, name, fn, operands, hk, hfn, hops => by
      obtain ⟨st, hst⟩ := step_of_isOperation (hops e List.mem_cons_self)
      have hrest : Expr.steps sc (i + 1) es = .error (.panic .nilDereference) :=
        steps_nilDereference k (i + 1) hk hfn fun x hx => hops x (List.mem_cons_of_mem _ hx)
      rw [Expr.steps, hst, hrest]
      rfl

/-- **How a realization ends.** Let the nodes and the declared types of a program be there. A
realization gives a routine; or an error that is about the signature, the form of the program or a
mismatch of types, and never about a constant without a value; or it breaks off, and then a constant
without a value is evaluated or an operation calls something that yields nothing. Both do break off:
a program that would be realized if its constants had their values, and a program whose operations
are in order up to one that calls something that yields nothing. -/
theorem realize_outcome (l : Option Lambda) (hl : ∀ l' ∈ l, l'.Complete) (sig : Option Ty) :
    ((∃ r, realize? l sig = .ok r) ∨
      (∃ e k, realize? l sig = .error (.error e) ∧ e.Wraps k ∧
        e.cause ≠ .malformed .emptyConstant) ∨
      ∃ l' ∈ l, (realize? l sig = .error (.panic .typeOfNothing) ∧
          Evaluated l'.ops (.const none)) ∨
        (realize? l sig = .error (.panic .nilDereference) ∧
          ∃ name fn operands, .invoke name fn operands ∈ l'.ops ∧ fn.type = .ok none)) ∧
    (∀ l' ∈ l, ∀ full : Lambda, full.Empties l' → l' ≠ full →
      (∃ r, full.realize sig = .ok r) → realize? l sig = .error (.panic .typeOfNothing)) ∧
    ∀ l' ∈ l, l'.Matches sig → ∀ i name fn operands,
      l'.ops[i]? = some (.invoke name fn operands) → fn.type = .ok none →
      (∀ e ∈ l'.ops.take i, e.IsOperation l'.scope) →
      realize? l sig = .error (.panic .nilDereference) := by
  cases l with
  | none =>
      refine ⟨.inr (.inl ⟨_, .malformed, rfl, ⟨.noBody, rfl⟩, by simp [Error.cause]⟩), ?_, ?_⟩
      · intro l' h
        cases h
      · intro l' h
        cases h
  | some l =>
      have hfails := realize_fails (hl l rfl) sig
      rw [realize?]
      refine ⟨?_, ?_, ?_⟩
      · rcases hr : l.realize sig with (e | p) | r
        · obtain ⟨k, hk⟩ := l.realize_reports sig e hr
          exact .inr (.inl ⟨e, k, rfl, hk, hfails _ hr⟩)
        · refine .inr (.inr ⟨l, rfl, ?_⟩)
          rcases hfails _ hr with ⟨rfl, h⟩ | ⟨rfl, h⟩
          · exact .inl ⟨rfl, h⟩
          · exact .inr ⟨rfl, h⟩
        · exact .inl ⟨r, rfl⟩
      · intro l' hl' full hempties hne hfull
        cases hl'
        exact (hempties.realize hfull).resolve_left hne
      · intro l' hl' hm i name fn operands hi hfn hops
        cases hl'
        cases hbody : l.body with
        | none => simp [Lambda.ops, hbody] at hi
        | some body =>
            obtain ⟨t, ht⟩ := realize_of_matches hm hbody
            rw [Lambda.ops_eq hbody] at hi hops
            have hscope : l.scope = ⟨l.params, body.temps⟩ := by simp [Lambda.scope, hbody]
            rw [hscope] at hops
            rw [ht, steps_nilDereference i 0 hi hfn hops]
            rfl

end

/-- An integer is assigned, and it is the constant that is given. -/
def assigning (value : Option Value) : Lambda :=
  let kept : Slot := ⟨0, some .int, "kept"⟩
  ⟨[], some ⟨[kept], [.assign kept (.const value)]⟩⟩

/-- What is called is a call that yields nothing. -/
def callingNothing : Lambda :=
  ⟨[], some ⟨[], [.invoke "outer"
    (.invoke "inner" (.const (some ⟨.func [] [] false, .func 0 []⟩)) []) []]⟩⟩

theorem complete_assigning (value : Option Value) : (assigning value).Complete := by
  rintro e (he | he)
  · rw [List.mem_singleton.mp he]
    exact Option.some_ne_none _
  · have hmem : e ∈ [.const value] := he.mem (by simp [assigning, Lambda.ops, Expr.parts])
      (by simp [Expr.parts])
    rw [List.mem_singleton.mp hmem]
    trivial

theorem complete_callingNothing : callingNothing.Complete := by
  rintro e (he | he)
  · rw [List.mem_singleton.mp he]
    trivial
  · have hmem : e ∈ [.invoke "inner" (.const (some ⟨.func [] [] false, .func 0 []⟩)) [],
        .const (some ⟨.func [] [] false, .func 0 []⟩)] :=
      he.mem (by simp [callingNothing, Lambda.ops, Expr.parts]) (by simp [Expr.parts])
    rcases List.mem_cons.mp hmem with rfl | hmem
    · trivial
    · rw [List.mem_singleton.mp hmem]
      trivial

theorem empties_assigning (v : Value) : (assigning (some v)).Empties (assigning none) := by
  refine ⟨rfl, _, _, rfl, rfl, ?_⟩
  simp [Expr.EmptiesAll, Expr.Empties]

open scoped Catalogue

theorem realize_outcome_assigning : (∀ l' ∈ some (assigning none), l'.Complete) ∧
    (assigning (some ⟨.int, .int 1⟩)).Empties (assigning none) ∧
    (∃ r, (assigning (some ⟨.int, .int 1⟩)).realize (some (.func [] [] false)) = .ok r) ∧
    realize? (some (assigning none)) (some (.func [] [] false)) =
      .error (.panic .typeOfNothing) := by
  have hcomplete : ∀ l' ∈ some (assigning none), l'.Complete := by
    intro l' hl'
    cases hl'
    exact complete_assigning none
  have hfull : ∃ r, (assigning (some ⟨.int, .int 1⟩)).realize (some (.func [] [] false)) = .ok r :=
    ⟨_, rfl⟩
  refine ⟨hcomplete, empties_assigning _, hfull, ?_⟩
  have hne : assigning none ≠ assigning (some ⟨.int, .int 1⟩) := by simp [assigning]
  exact (realize_outcome _ hcomplete _).2.1 _ rfl _ (empties_assigning _) hne hfull

/-- Programs that are complete and that a realization breaks off over. -/
theorem complete_panics : (assigning none).Complete ∧
    (assigning none).realize (some (.func [] [] false)) = .error (.panic .typeOfNothing) ∧
    callingNothing.Complete ∧
    callingNothing.realize (some (.func [] [] false)) = .error (.panic .nilDereference) :=
  ⟨complete_assigning none, rfl, complete_callingNothing, rfl⟩

end Tacit
