import Tacit.Catalogue
import Tacit.Proofs.Compiler.Building
import Tacit.Proofs.Compiler.Machine
import Tacit.Proofs.Program.Assignment

/-!
# Operands that could be assigned

Whether the compiler puts an operand in a conversion depends on how the two types are held. Where
the operand could be assigned to its parameter, that must make no difference.

* `Ty.binds_of_assignable`: what can be assigned is accepted, in a conversion or without.
* `Machine.operand_of_assignable`: the conversion, if there is one, cannot break off, and what is
  bound to the parameter is what an assignment stores.
* `Compiler.receives_assigned`: both of these for every operand that a word takes off the stack
  of a compiler, in every frame of an invocation.
-/

namespace Tacit

variable {s t : Ty} {v : Value}

section

variable [Declarations]

/-- What can be assigned to a parameter can be handed over for it. -/
theorem Ty.binds_of_assignable (h : s.assignable t = true) : s.Binds t := by
  cases hneed : s.needsConversion t with
  | false => exact (binds_of_not_needsConversion hneed).mpr h
  | true =>
      have hconv : s.convertible t = true := by
        obtain ⟨-, ⟨-, hc⟩ | ⟨-, hc⟩⟩ := conversion?_of_assignable h hneed
        · rw [convertible, hc]
          rfl
        · rw [convertible, hc]
          rfl
      refine (binds_of_needsConversion hneed).mpr ?_
      rw [canConvert, hconv, Bool.or_true]

/-- As an operand, a value that can be assigned to the parameter is there without further ado, and
the parameter holds what an assignment stores. -/
theorem Machine.operand_of_assignable (h : v.type.assignable t = true) :
    ∃ x, Machine.operand v t = pure x ∧ x.type.assignable t = true ∧ x.stored t = v.assigned t := by
  unfold Machine.operand
  cases hneed : v.type.needsConversion t with
  | true =>
      refine ⟨⟨t, v.assigned t⟩, ?_, t.assignable_self, Value.stored_self _⟩
      rw [if_pos rfl, Value.cast_of_assignable h hneed]
  | false => exact ⟨v, by rw [if_neg (by simp)], h, Value.stored_eq_assigned h⟩

/-- What is bound to a parameter is what its operand is stored as. -/
theorem bindOperands_getElem? : ∀ {vs : List Value} {ts : List Ty} {ds : List Data},
    bindOperands vs ts = .ok ds → ∀ {k : Nat} {v : Value} {t : Ty}, vs[k]? = some v →
    ts[k]? = some t → ds[k]? = some (v.stored t)
  | [], _, _, _, k, v, t, hv, _ => by simp at hv
  | _ :: _, [], _, _, k, v, t, _, ht => by simp at ht
  | u :: vs, r :: ts, ds, h, k, v, t, hv, ht => by
      rw [bindOperands, bindOperand] at h
      split at h
      · cases hds : bindOperands vs ts with
        | error p => rw [hds] at h; cases h
        | ok ds' =>
            rw [hds] at h
            cases h
            cases k with
            | zero =>
                cases hv
                cases ht
                rfl
            | succ k => exact bindOperands_getElem? hds hv ht
      · cases h

/-- Operands of just the types of the parameters are bound as they are. -/
theorem bindOperands_self : ∀ vs : List Value,
    bindOperands vs (vs.map (·.type)) = .ok (vs.map (·.data))
  | [] => rfl
  | v :: vs => by
      have hbind : bindOperand .operandType v v.type = .ok v.data := by
        rw [bindOperand, if_pos v.type.assignable_self, v.stored_self]
      rw [List.map_cons, bindOperands, hbind, bindOperands_self vs]
      rfl

/-- The word, called with `vs`, is handed the data `ds`, wherever it is called. -/
def Word.Receives (w : Word) (vs : List Value) (ds : List Data) : Prop :=
  ∃ code captured, w.fn.data = .func code captured ∧
    ∀ host : Host, w.fn.call host vs = host.call code captured ds >>= fun results =>
      pure (w.result.toList.zipWith Value.mk results)

/-- A valid word receives its operands if they can be assigned to its parameters, each as it is
stored. -/
theorem Word.Valid.receives {w : Word} (hw : w.Valid) {vs : List Value}
    (hvs : List.Forall₂ (fun v t => v.type.assignable t = true) vs w.params) :
    ∃ ds, w.Receives vs ds ∧ ∀ {k : Nat} {v : Value} {t : Ty}, vs[k]? = some v →
      w.params[k]? = some t → ds[k]? = some (v.stored t) := by
  obtain ⟨hf, code, captured, hd⟩ := hw.func
  obtain ⟨ds, hds⟩ := bindOperands_ok hvs
  refine ⟨ds, ⟨code, captured, hd, fun host => ?_⟩, bindOperands_getElem? hds⟩
  rw [Value.call_eq hd hf, hds, Run.ofExcept_ok, pure_bind]

/-- A valid word receives operands of just the types of its parameters as they are. -/
theorem Word.Valid.receives_self {w : Word} (hw : w.Valid) {vs : List Value}
    (hvs : w.params = vs.map (·.type)) : w.Receives vs (vs.map (·.data)) := by
  obtain ⟨hf, code, captured, hd⟩ := hw.func
  refine ⟨code, captured, hd, fun host => ?_⟩
  rw [Value.call_eq hd hf, hvs, bindOperands_self, Run.ofExcept_ok, pure_bind]

namespace Compiler

variable {c : Compiler} {sc : Scope} {fr : Frame} {temps : List Slot} {e : Expr}

/-- An expression on the stack has its value at once, and the value has its type. -/
theorem OnStack.eval (h : OnStack temps e) (hsub : temps ⊆ sc.temps) (hfr : fr.Typed sc)
    (hs : e.type = .ok (some s)) (host : Host) :
    ∃ v, e.eval host sc fr = pure v ∧ v.type = s := by
  rcases h with ⟨v, rfl⟩ | ⟨slot, hslot, rfl⟩
  · cases hs
    exact ⟨v, by rw [Expr.eval], rfl⟩
  · have hslot' : slot.type = some s := by
      rw [Expr.type] at hs
      exact Except.ok.inj hs
    obtain ⟨v, hv, hvs⟩ := lastValue_typed hfr.temps (Slot.Listed.of_mem (hsub hslot)) hslot'
    exact ⟨v, by rw [Expr.eval, hv], hvs⟩

/-- **Conversions are conservative over assignment.** Let any calls have led to a compiler, and let
a word take the expression `e`, of type `s`, off its stack for a parameter of type `t` that a value
of type `s` can be assigned to. The operand that the compiler makes of `e`, in a conversion or not,
passes the check of the parameter, and its conversion passes the check of conversions. In every
frame of an invocation the operand then has a value without any effect or panic, the value fits the
parameter, and the word receives for it what the assignment of `e` to a variable of type `t` stores:
for an interface the same content, and otherwise the same data. -/
theorem receives_assigned {settings : Settings} (calls : List Call)
    (hc : (new settings).performAll calls = c) {w : Word} (hw : w.Valid) {k : Nat}
    (he : c.stack[k]? = some e) (hs : e.type = .ok (some s)) (ht : w.params[k]? = some t)
    (ha : s.assignable t = true) :
    ∃ x, (takeOperands w.params c.stack c.inputs).operands[k]? = some x ∧
      (x = e ∨ x = .convert e (some t) ∧ conversionTypes e (some t) = .ok (s, t)) ∧
      x.checkBind (some t) = .ok () ∧
      ∀ sc, c.temps ⊆ sc.temps → ∃ code, x.code sc = .ok code ∧
        ∀ host fr, fr.Typed sc → ∃ v v', e.eval host sc fr = pure v ∧ v.type = s ∧
          code.eval host fr = pure v' ∧ v'.type.assignable t = true ∧
          (t.isInterface = true → (Value.mk t (v.assigned t)).content = v.content) ∧
          (t.isInterface = false → v.assigned t = v.data) ∧
          ∀ vs, vs[k]? = some v' →
            List.Forall₂ (fun v t => v.type.assignable t = true) vs w.params →
            ∃ ds, w.Receives vs ds ∧ ds[k]? = some (v.assigned t) := by
  have hformed : c.Formed := hc ▸ formed_performAll settings calls
  have hstack := hformed.stack e (List.mem_of_getElem? he)
  have hbinds := Ty.binds_of_assignable ha
  have hbindable : Bindable (e, t) := (bindable_iff hs).mpr hbinds
  refine ⟨coerce e t, ?_, ?_, ?_, fun sc hsub => ?_⟩
  · rw [takeOperands_eq]
    have hzip : (List.zipWith coerce c.stack w.params)[k]? = some (coerce e t) := by
      rw [List.getElem?_zipWith, he, ht]
    exact (List.getElem?_append_left (List.getElem?_eq_some_iff.mp hzip).1).trans hzip
  · rw [coerce_of_type hs]
    cases hneed : s.needsConversion t with
    | false => exact .inl rfl
    | true =>
        have hcan := (Ty.binds_of_needsConversion hneed).mp hbinds
        exact .inr ⟨rfl, conversionTypes_of_type hs hcan⟩
  · obtain ⟨u, hu⟩ := (hstack.checkBind_decides hs t).ok_iff.mpr hbindable
    exact hu
  · obtain ⟨code, hcode⟩ := hstack.code_coerce hsub hs hbindable
    refine ⟨code, hcode, fun host fr hfr => ?_⟩
    obtain ⟨v, hv, rfl⟩ := hstack.eval hsub hfr hs host
    obtain ⟨v', hv', hfits, hstored⟩ := Machine.operand_of_assignable ha
    refine ⟨v, v', hv, rfl, ?_, hfits, v.content_assigned, fun hbox => ?_, fun vs hvs hall => ?_⟩
    · rw [code_eval host fr hcode, eval_coerce hs hv, hv']
    · rw [Value.assigned, hbox]
      rfl
    · obtain ⟨ds, hds, hget⟩ := hw.receives hall
      exact ⟨ds, hds, hstored ▸ hget hvs ht⟩

end Compiler

end

namespace Compiler

open scoped Catalogue

/-- An integer is handed over for an interface. It is put in a conversion, and the word receives it
with its type. -/
theorem receives_assigned_any : ∃ w : Word, Word.named (Dictionary.host []) []
      (some ⟨.func [.any] [] false, .func 0 []⟩) = .ok w ∧
    ∃ x code, (takeOperands w.params
        ((new {}).performAll [.push (some ⟨.int, .int 3⟩) none]).stack []).operands[0]? = some x ∧
      x.checkBind (some .any) = .ok () ∧ x.code ⟨[], []⟩ = .ok code ∧
      ∀ host, ∃ v', code.eval host ⟨[], []⟩ = pure v' ∧
        ∃ ds, w.Receives [v'] ds ∧ ds[0]? = some (.boxed .int (.int 3)) := by
  obtain ⟨w, hw⟩ : ∃ w, Word.named (Dictionary.host []) []
    (some ⟨.func [.any] [] false, .func 0 []⟩) = .ok w := ⟨_, rfl⟩
  have hparams : w.params[0]? = some .any := by
    cases hw
    rfl
  have hall : ∀ {v : Value}, v.type.assignable .any = true →
      List.Forall₂ (fun v t => v.type.assignable t = true) [v] w.params := by
    cases hw
    exact fun h => .cons h .nil
  obtain ⟨x, hx, -, hcheck, hsound⟩ := receives_assigned (s := .int) (t := .any)
    [.push (some ⟨.int, .int 3⟩) none] rfl ⟨_, _, _, hw⟩ (k := 0) rfl rfl hparams rfl
  obtain ⟨code, hcode, hrun⟩ := hsound ⟨[], []⟩ (List.Subset.refl _)
  refine ⟨w, hw, x, code, hx, hcheck, hcode, fun host => ?_⟩
  obtain ⟨v, v', hv, -, hv', hfits, -, -, hreceives⟩ := hrun host ⟨[], []⟩ ⟨rfl, rfl⟩
  obtain ⟨ds, hds, hget⟩ := hreceives [v'] rfl (hall hfits)
  rw [Expr.eval] at hv
  have hyields : (pure ⟨.int, .int 3⟩ : Run Value).Yields .empty v .empty := by
    rw [hv]
    exact Run.yields_pure.mpr ⟨rfl, rfl⟩
  rw [← (Run.yields_pure.mp hyields).1] at hget
  exact ⟨v', hv', ds, hds, hget⟩

end Compiler

end Tacit
