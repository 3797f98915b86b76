import Tacit.Catalogue
import Tacit.Proofs.Program.Meaning

/-!
# Type soundness

Along an invocation of a program that was realized, every value has the type that the program says.

A `Point` is a place that an invocation comes to: a node is evaluated, a value converted, a func
called or a value assigned, in some frame and with some store. `Lambda.Reaches` says which points
an invocation comes to.

* `eval_type`: an expression of type `t` yields a value of type `t`.
* `reaches_sound`: what is done at a point fits the types there (`Act.Sound`).
* `panics_reaches`: a panic comes out of a func that was called, or out of a conversion, or it is
  the refusal of a value that is sealed.
* `reaches_refuse`: a value is refused only if the program holds a constant that is sealed.
-/

namespace Tacit

/-! ### Points -/

/-- What is done at a point of an invocation. -/
inductive Act where
  /-- A node that has to yield a value is evaluated. -/
  | eval (e : Expr)
  /-- The value of `x` is converted to type `t`. -/
  | convert (x : Expr) (t : Ty) (v : Value)
  | call (fn : Value) (operands : List Value)
  /-- A value is stored in a temporary. -/
  | assign (dst : Slot) (v : Value)
  /-- What is called, handed over or stored is sealed. -/
  | refuse (p : Panic)

/-- A point of an invocation: the frame and the store at it, and what is done. -/
structure Point where
  frame : Frame
  store : Store
  act : Act

/-- A call from `s` comes to where `a` is done with the store `s'`: in an operand, in the func, or
when all of them have their values. One of them may be sealed. -/
def Expr.DuringCall (isSealed : Bool) (operands : Run (List Value)) (fn : Run Value)
    (inOperands inFn : Store → Store → Act → Prop) (s s' : Store) (a : Act) : Prop :=
  inOperands s s' a ∨ ∃ vs s₁, operands.Yields s vs s₁ ∧
    (inFn s₁ s' a ∨ ∃ f, fn.Yields s₁ f s' ∧
      (a = .call f vs ∨ isSealed = true ∧ a = .refuse .sealedCall))

/-- The func of a call or one of its operands is sealed. -/
def Expr.anySealed (fn : Expr) (operands : List Expr) : Bool :=
  fn.isSealed || operands.any Expr.isSealed

/-- A slot that is listed has a value of its type. -/
theorem lastIndex?_typed {slots : List Slot} {vs : List Value} {s : Slot} {t : Ty} {i : Nat}
    (h : slots.map (·.type) = vs.map (some ·.type)) (hi : lastIndex? s slots = some i)
    (ht : s.type = some t) : ∃ v, vs[i]? = some v ∧ v.type = t := by
  obtain ⟨p, hp, hs⟩ := lastIndex?_eq_some hi
  have hpt : p.type = some t := (Slot.is_iff.mp hs).2.trans ht
  have hget : (vs.map (some ·.type))[i]? = some (some t) := by
    rw [← h, List.getElem?_map, hp, Option.map_some, hpt]
  rw [List.getElem?_map, Option.map_eq_some_iff] at hget
  obtain ⟨v, hv, hvt⟩ := hget
  exact ⟨v, hv, Option.some.inj hvt⟩

/-- What is sealed comes out of a constant. -/
theorem Expr.Evaluated.of_isSealed {ops : List Expr} : ∀ {e : Expr}, Expr.Evaluated ops e →
    e.isSealed = true → ∃ v, Expr.Evaluated ops (.sealed v)
  | .sealed v, he, _ => ⟨v, he⟩
  | .convert _ _, he, h => of_isSealed (he.deeper List.mem_cons_self) h
  | .missing, _, h | .const _, _, h | .param _, _, h | .temp _, _, h | .invoke _ _ _, _, h
  | .assign _ _, _, h | .block _ _, _, h => by simp [Expr.isSealed] at h

theorem lastValue_typed {slots : List Slot} {vs : List Value} {s : Slot} {t : Ty}
    (h : slots.map (·.type) = vs.map (some ·.type)) (hs : s.Listed slots) (ht : s.type = some t) :
    ∃ v, lastValue s slots vs = pure v ∧ v.type = t := by
  obtain ⟨i, hi⟩ := hs.lastIndex?
  obtain ⟨v, hv, hvt⟩ := lastIndex?_typed h hi ht
  exact ⟨v, by simp [lastValue, hi, hv], hvt⟩

section

variable [Declarations]

mutual
/-- Evaluating the node from `s` comes to where `a` is done with the store `s'`. -/
def Expr.Reaches (host : Host) (sc : Scope) (fr : Frame) : Expr → Store → Store → Act → Prop
  | .convert x target, s, s', a => (s' = s ∧ a = .eval (.convert x target)) ∨
      x.Reaches host sc fr s s' a ∨
      ∃ v t, target = some t ∧ (x.eval host sc fr).Yields s v s' ∧ a = .convert x t v
  | .invoke name fn operands, s, s', a => (s' = s ∧ a = .eval (.invoke name fn operands)) ∨
      Expr.DuringCall (Expr.anySealed fn operands) (Expr.evalAll host sc fr operands)
        (fn.eval host sc fr) (Expr.ReachesAny host sc fr operands) (fn.Reaches host sc fr)
        s s' a
  | e, s, s', a => s' = s ∧ a = .eval e
/-- Evaluating the operands from `s` comes to where `a` is done with the store `s'`. -/
def Expr.ReachesAny (host : Host) (sc : Scope) (fr : Frame) :
    List Expr → Store → Store → Act → Prop
  | [], _, _, _ => False
  | e :: es, s, s', a => e.Reaches host sc fr s s' a ∨
      ∃ v s₁, (e.eval host sc fr).Yields s v s₁ ∧ Expr.ReachesAny host sc fr es s₁ s' a
end

/-- Carrying the operation out from `s` comes to where `a` is done with the store `s'`. -/
def Expr.StepReaches (host : Host) (sc : Scope) (fr : Frame) : Expr → Store → Store → Act → Prop
  | .assign dst src, s, s', a => src.Reaches host sc fr s s' a ∨
      ∃ v, (src.eval host sc fr).Yields s v s' ∧
        (a = .assign dst v ∨ src.isSealed = true ∧ a = .refuse .sealedStore)
  | .invoke _ fn operands, s, s', a =>
      Expr.DuringCall (Expr.anySealed fn operands) (Expr.evalAll host sc fr operands)
        (fn.eval host sc fr) (Expr.ReachesAny host sc fr operands) (fn.Reaches host sc fr)
        s s' a
  | _, _, _, _ => False

/-- Carrying the operations out comes to a point. -/
def Expr.StepsReach (host : Host) (sc : Scope) (pt : Point) : Frame → List Expr → Store → Prop
  | _, [], _ => False
  | fr, e :: es, s => (pt.frame = fr ∧ e.StepReaches host sc fr s pt.store pt.act) ∨
      ∃ fr' s', (e.exec host sc fr).Yields s fr' s' ∧ Expr.StepsReach host sc pt fr' es s'

/-- The program, invoked with `args` from `s`, comes to a point. -/
def Lambda.Reaches (host : Host) (l : Lambda) (args : List Value) (s : Store) (pt : Point) : Prop :=
  ∃ body temps, l.body = some body ∧ (body.temps.map (·.type)).mapM unsetTemp = .ok temps ∧
    Expr.StepsReach host ⟨l.params, body.temps⟩ pt ⟨args, temps⟩ body.ops s

/-! ### What soundness says -/

/-- Every slot of the scope has a value of its declared type in the frame. -/
structure Frame.Typed (sc : Scope) (fr : Frame) : Prop where
  params : sc.params.map (·.type) = fr.params.map (some ·.type)
  temps : sc.temps.map (·.type) = fr.temps.map (some ·.type)

/-- What is done in a frame, with the store `s`, fits the types. -/
def Act.Sound (host : Host) (sc : Scope) (fr : Frame) (s : Store) : Act → Prop
  | .eval e => ∀ v s', (e.eval host sc fr).Yields s v s' → e.type = .ok (some v.type)
  | .convert x t v => x.type = .ok (some v.type) ∧ v.type.canConvert t = true
  | .call f vs => ∃ ps rs v, f.type.func? = some (ps, rs, v) ∧
      List.Forall₂ (fun v t => v.type.assignable t = true) vs ps
  | .assign dst v => ∃ t, dst.type = some t ∧ v.type.assignable t = true
  | .refuse _ => True

/-- What is done, with the store `s`, panics: a func while it runs, a conversion, or a refusal. -/
def Act.Panics (host : Host) (s : Store) (p : Panic) : Act → Prop
  | .convert _ t v => (v.cast v.type t).Panics s p
  | .call f vs => ∃ code captured ps rs ds, f.data = .func code captured ∧
      f.type.func? = some (ps, rs, false) ∧ bindOperands vs ps = .ok ds ∧
      (host.call code captured ds).Panics s p
  | .refuse q => q = p
  | _ => False

/-- The func is not nil and not variadic, and when it returns it has as many results as its type
says. -/
structure Host.Answers (host : Host) (f : Value) : Prop where
  notNil : ∃ code captured, f.data = .func code captured
  notVariadic : ∀ {ps rs v}, f.type.func? = some (ps, rs, v) → v = false
  results : ∀ {code captured ps rs v ds s s' ds'}, f.data = .func code captured →
    f.type.func? = some (ps, rs, v) → (host.call code captured ds).Yields s ds' s' →
    ds'.length = rs.length

/-! ### Values have the types of their expressions -/

theorem Value.convert_type {v w : Value} {t : Ty} {s s' : Store}
    (h : (v.convert t).Yields s w s') : w.type = t := by
  unfold Value.convert at h
  split at h
  · obtain ⟨d, s₁, -, hw⟩ := Run.yields_bind.mp h
    rw [← (Run.yields_pure.mp hw).1]
  · simp at h

theorem Value.cast_type {v w : Value} {given t : Ty} {s s' : Store}
    (h : (v.cast given t).Yields s w s') : w.type = t := by
  unfold Value.cast at h
  split at h
  · unfold Value.unbox at h
    split at h
    · simp at h
    · exact Value.convert_type h
  · exact Value.convert_type h

/-- The results of a call carry the types of the func's results. -/
theorem Value.call_results {host : Host} {f : Value} {vs ws : List Value} {ps rs : List Ty}
    {b : Bool} {s s' : Store} (hf : f.type.func? = some (ps, rs, b))
    (h : (f.call host vs).Yields s ws s') : ∃ ds, ws = rs.zipWith Value.mk ds := by
  unfold Value.call at h
  rw [hf] at h
  split at h
  · rename_i heq _
    cases heq
    -- whichever way the operands are bound, the call and its results come after it
    split at h
    all_goals
      obtain ⟨ds, s₁, -, h⟩ := Run.yields_bind.mp h
      obtain ⟨results, s₂, -, h⟩ := Run.yields_bind.mp h
      exact ⟨results, (Run.yields_pure.mp h).1.symm⟩
  · simp at h

/-- The first result of a call has the type of the func's first result. -/
theorem Value.call_type {host : Host} {f v : Value} {vs ws : List Value} {ps rs : List Ty} {t : Ty}
    {b : Bool} {s s' : Store} (hf : f.type.func? = some (ps, t :: rs, b))
    (h : (f.call host vs).Yields s (v :: ws) s') : v.type = t := by
  obtain ⟨ds, hds⟩ := Value.call_results hf h
  cases ds with
  | nil => simp at hds
  | cons d ds =>
      simp only [List.zipWith_cons_cons, List.cons.injEq] at hds
      rw [hds.1]

/-- A call that returns was made, with nothing sealed. -/
theorem Value.handOver_yields {host : Host} {b c : Bool} {f : Value} {vs ws : List Value}
    {s s' : Store} (h : (f.handOver host b c vs).Yields s ws s') :
    ∃ host', (f.call host' vs).Yields s ws s' := by
  unfold Value.handOver at h
  split at h
  · simp at h
  · exact ⟨_, h⟩

section

variable {host : Host} {sc : Scope} {fr : Frame}

/-- **An expression of type `t` yields a value of type `t`.** -/
theorem eval_type (hfr : fr.Typed sc) : ∀ {e : Expr} {t : Ty} {s s' : Store} {v : Value},
    e.HasType sc t → (e.eval host sc fr).Yields s v s' → v.type = t
  | .const (some w), t, s, s', v, he, h | .sealed w, t, s, s', v, he, h => by
      rw [Expr.HasType] at he
      rw [Expr.eval] at h
      rw [← (Run.yields_pure.mp h).1, he]
  | .param p, t, s, s', v, he, h => by
      rw [Expr.HasType] at he
      obtain ⟨w, hw, hwt⟩ := lastValue_typed hfr.params he.1 he.2
      rw [Expr.eval, hw] at h
      rw [← (Run.yields_pure.mp h).1, hwt]
  | .temp p, t, s, s', v, he, h => by
      rw [Expr.HasType] at he
      obtain ⟨w, hw, hwt⟩ := lastValue_typed hfr.temps he.1 he.2
      rw [Expr.eval, hw] at h
      rw [← (Run.yields_pure.mp h).1, hwt]
  | .convert x target, t, s, s', v, he, h => by
      rw [Expr.HasType] at he
      obtain ⟨rfl, u, hx, -⟩ := he
      rw [Expr.eval, hx.type] at h
      obtain ⟨w, s₁, -, h⟩ := Run.yields_bind.mp h
      exact Value.cast_type h
  | .invoke name fn operands, t, s, s', v, he, h => by
      rw [Expr.HasType] at he
      obtain ⟨ft, ps, rs, b, hfn, hf, -⟩ := he
      rw [Expr.eval] at h
      obtain ⟨vs, s₁, -, h⟩ := Run.yields_bind.mp h
      obtain ⟨f, s₂, hfv, h⟩ := Run.yields_bind.mp h
      obtain ⟨ws, s₃, hws, h⟩ := Run.yields_bind.mp h
      have hft : f.type = ft := eval_type hfr hfn hfv
      cases ws with
      | nil => simp at h
      | cons w ws =>
          rw [← (Run.yields_pure.mp h).1]
          obtain ⟨host', hcall⟩ := Value.handOver_yields hws
          exact Value.call_type (hft ▸ hf) hcall
  | .missing, _, _, _, _, he, _ | .const none, _, _, _, _, he, _ | .assign _ _, _, _, _, _, he, _
  | .block _ _, _, _, _, _, he, _ => by simp [Expr.HasType] at he

/-- Operands that fit yield as many values, each of which can be stored in its parameter. -/
theorem evalAll_types (hfr : fr.Typed sc) : ∀ {es : List Expr} {ts : List Ty} {s s' : Store}
    {vs : List Value}, Expr.Fit sc es ts → (Expr.evalAll host sc fr es).Yields s vs s' →
      List.Forall₂ (fun v t => v.type.assignable t = true) vs ts
  | [], [], s, s', vs, _, h => by
      rw [Expr.evalAll] at h
      rw [← (Run.yields_pure.mp h).1]
      exact .nil
  | e :: es, t :: ts, s, s', vs, he, h => by
      rw [Expr.Fit] at he
      obtain ⟨⟨u, hu, ha⟩, hes⟩ := he
      rw [Expr.evalAll] at h
      obtain ⟨v, s₁, hv, h⟩ := Run.yields_bind.mp h
      obtain ⟨vs', s₂, hvs, h⟩ := Run.yields_bind.mp h
      rw [← (Run.yields_pure.mp h).1]
      exact .cons (by rw [eval_type hfr hu hv, ha]) (evalAll_types hfr hes hvs)
  | [], _ :: _, _, _, _, he, _ | _ :: _, [], _, _, _, he, _ => by simp [Expr.Fit] at he

/-! ### What is done at a point fits the types -/

theorem eval_sound (hfr : fr.Typed sc) {e : Expr} {t : Ty} {s : Store} (he : e.HasType sc t) :
    (Act.eval e).Sound host sc fr s := by
  intro v s' h
  rw [eval_type hfr he h]
  exact he.type

theorem duringCall_sound (hfr : fr.Typed sc) {fn : Expr} {operands : List Expr} {ft : Ty}
    {isSealed : Bool} {ps rs : List Ty} {b : Bool} {inOperands inFn : Store → Store → Act → Prop}
    (hfn : fn.HasType sc ft) (hf : ft.func? = some (ps, rs, b)) (hfit : Expr.Fit sc operands ps)
    (hops : ∀ {s s' a}, inOperands s s' a → a.Sound host sc fr s')
    (hin : ∀ {s s' a}, inFn s s' a → a.Sound host sc fr s') {s s' : Store} {a : Act}
    (h : Expr.DuringCall isSealed (Expr.evalAll host sc fr operands) (fn.eval host sc fr)
      inOperands inFn s s' a) : a.Sound host sc fr s' := by
  rcases h with h | ⟨vs, s₁, hvs, h | ⟨f, hfv, rfl | ⟨-, rfl⟩⟩⟩
  · exact hops h
  · exact hin h
  · refine ⟨ps, rs, b, ?_, evalAll_types hfr hfit hvs⟩
    rw [eval_type hfr hfn hfv, hf]
  · trivial

mutual
theorem reaches_sound (hfr : fr.Typed sc) : ∀ {e : Expr} {t : Ty} {s s' : Store} {a : Act},
    e.HasType sc t → e.Reaches host sc fr s s' a → a.Sound host sc fr s'
  | .const (some w), t, s, s', a, he, h | .sealed w, t, s, s', a, he, h
  | .param p, t, s, s', a, he, h | .temp p, t, s, s', a, he, h => by
      rw [Expr.Reaches] at h
      · obtain ⟨rfl, rfl⟩ := h
        exact eval_sound hfr he
      all_goals simp
  | .convert x target, t, s, s', a, he, h => by
      rw [Expr.Reaches] at h
      rcases h with ⟨rfl, rfl⟩ | h | ⟨v, t', ht', hv, rfl⟩
      · exact eval_sound hfr he
      · rw [Expr.HasType] at he
        obtain ⟨-, u, hx, -⟩ := he
        exact reaches_sound hfr hx h
      · rw [Expr.HasType] at he
        obtain ⟨rfl, u, hx, hcan⟩ := he
        cases ht'
        obtain rfl := eval_type hfr hx hv
        exact ⟨hx.type, hcan⟩
  | .invoke name fn operands, t, s, s', a, he, h => by
      rw [Expr.Reaches] at h
      rcases h with ⟨rfl, rfl⟩ | h
      · exact eval_sound hfr he
      · rw [Expr.HasType] at he
        obtain ⟨ft, ps, rs, b, hfn, hf, hfit⟩ := he
        exact duringCall_sound hfr hfn hf hfit (fun h' => reachesAny_sound hfr hfit h')
          (fun h' => reaches_sound hfr hfn h') h
  | .missing, _, _, _, _, he, _ | .const none, _, _, _, _, he, _ | .assign _ _, _, _, _, _, he, _
  | .block _ _, _, _, _, _, he, _ => by simp [Expr.HasType] at he
theorem reachesAny_sound (hfr : fr.Typed sc) : ∀ {es : List Expr} {ts : List Ty} {s s' : Store}
    {a : Act}, Expr.Fit sc es ts → Expr.ReachesAny host sc fr es s s' a → a.Sound host sc fr s'
  | [], _, _, _, _, _, h => by simp [Expr.ReachesAny] at h
  | _ :: _, [], _, _, _, he, _ => by simp [Expr.Fit] at he
  | e :: es, t :: ts, s, s', a, he, h => by
      rw [Expr.Fit] at he
      obtain ⟨⟨u, hu, -⟩, hes⟩ := he
      rw [Expr.ReachesAny] at h
      rcases h with h | ⟨v, s₁, -, h⟩
      · exact reaches_sound hfr hu h
      · exact reachesAny_sound hfr hes h
end

/-! ### Where panics come from -/

theorem bindOperands_ok : ∀ {vs : List Value} {ts : List Ty},
    List.Forall₂ (fun v t => v.type.assignable t = true) vs ts → ∃ ds, bindOperands vs ts = .ok ds
  | _, _, .nil => ⟨[], rfl⟩
  | _, _, .cons (a := v) (b := t) ha hs => by
      obtain ⟨ds, hds⟩ := bindOperands_ok hs
      refine ⟨v.stored t :: ds, ?_⟩
      simp [bindOperands, bindOperand, ha, hds, bind, Except.bind, pure, Except.pure]

/-- A call of a func that is not variadic: the operands are bound, the func runs, and its results
get their types. -/
theorem Value.call_eq {f : Value} {vs : List Value} {ps rs : List Ty} {code : Nat}
    {captured : List Data} (hd : f.data = .func code captured)
    (hf : f.type.func? = some (ps, rs, false)) :
    f.call host vs = Run.ofExcept (bindOperands vs ps) >>= fun ds =>
      host.call code captured ds >>= fun ds' => pure (rs.zipWith Value.mk ds') := by
  unfold Value.call
  rw [hf, hd]

/-- A call with something sealed is refused, if its operands fit the func. -/
theorem Value.handOver_sealed {b c : Bool} {f : Value} {vs : List Value} {ps rs : List Ty}
    {code : Nat} {captured ds : List Data} (hd : f.data = .func code captured)
    (hf : f.type.func? = some (ps, rs, false)) (hds : bindOperands vs ps = .ok ds)
    (h : (b || c) = true) : f.handOver host b c vs = Run.panic .sealedCall := by
  cases b with
  | true => rfl
  | false =>
      obtain rfl : c = true := h
      rw [Value.handOver, if_neg Bool.false_ne_true, if_pos rfl, Value.call_eq hd hf, hds]
      rfl

theorem Value.handOver_open (f : Value) (vs : List Value) :
    f.handOver host false false vs = f.call host vs := rfl

theorem duringCall_panics (hfr : fr.Typed sc) {fn : Expr} {operands : List Expr} {ft : Ty}
    {ps rs : List Ty} {b : Bool} {inOperands inFn : Store → Store → Act → Prop}
    (hfn : fn.HasType sc ft) (hf : ft.func? = some (ps, rs, b)) (hfit : Expr.Fit sc operands ps)
    {α : Type} {k : List Value → Run α} {s : Store} {p : Panic}
    (hans : ∀ {s' f vs}, Expr.DuringCall (Expr.anySealed fn operands)
      (Expr.evalAll host sc fr operands) (fn.eval host sc fr) inOperands inFn s s' (.call f vs) →
      host.Answers f)
    (hops : (Expr.evalAll host sc fr operands).Panics s p →
      ∃ s' a, inOperands s s' a ∧ a.Panics host s' p)
    (hin : ∀ {vs s₁}, (Expr.evalAll host sc fr operands).Yields s vs s₁ →
      (fn.eval host sc fr).Panics s₁ p → ∃ s' a, inFn s₁ s' a ∧ a.Panics host s' p)
    (hk : ∀ {ws s₁}, ws.length = rs.length → ¬ (k ws).Panics s₁ p)
    (h : (Expr.evalAll host sc fr operands >>= fun vs => fn.eval host sc fr >>= fun f =>
      f.handOver host fn.isSealed (operands.any Expr.isSealed) vs >>= k).Panics s p) :
    ∃ s' a, Expr.DuringCall (Expr.anySealed fn operands) (Expr.evalAll host sc fr operands)
      (fn.eval host sc fr) inOperands inFn s s' a ∧ a.Panics host s' p := by
  rcases Run.panics_bind.mp h with h | ⟨vs, s₁, hvs, h⟩
  · obtain ⟨s', a, ha, hp⟩ := hops h
    exact ⟨s', a, .inl ha, hp⟩
  rcases Run.panics_bind.mp h with h | ⟨f, s₂, hfv, h⟩
  · obtain ⟨s', a, ha, hp⟩ := hin hvs h
    exact ⟨s', a, .inr ⟨vs, s₁, hvs, .inl ha⟩, hp⟩
  -- all operands and the func have their values: this point is a call
  have hpt : Expr.DuringCall (Expr.anySealed fn operands) (Expr.evalAll host sc fr operands)
      (fn.eval host sc fr) inOperands inFn s s₂ (.call f vs) :=
    .inr ⟨vs, s₁, hvs, .inr ⟨f, hfv, .inl rfl⟩⟩
  have ha := hans hpt
  obtain ⟨code, captured, hd⟩ := ha.notNil
  obtain ⟨ds, hds⟩ := bindOperands_ok (evalAll_types hfr hfit hvs)
  have hft : f.type.func? = some (ps, rs, b) := by rw [eval_type hfr hfn hfv, hf]
  obtain rfl := ha.notVariadic hft
  by_cases hsealed : Expr.anySealed fn operands = true
  · rw [Value.handOver_sealed hd hft hds hsealed] at h
    refine ⟨s₂, .refuse .sealedCall, .inr ⟨vs, s₁, hvs, .inr ⟨f, hfv, .inr ⟨hsealed, rfl⟩⟩⟩, ?_⟩
    simpa [Act.Panics, Run.panics_bind] using h
  obtain ⟨hfn', hops'⟩ := Bool.or_eq_false_iff.mp (Bool.not_eq_true _ ▸ hsealed)
  rw [hfn', hops', Value.handOver_open, Value.call_eq hd hft, hds, Run.ofExcept_ok, pure_bind] at h
  rcases Run.panics_bind.mp h with h | ⟨ws, s₃, hws, h⟩
  · refine ⟨s₂, .call f vs, hpt, code, captured, ps, rs, ds, hd, hft, hds, ?_⟩
    rcases Run.panics_bind.mp h with h | ⟨ds', s₃, -, h⟩
    · exact h
    · simp at h
  · obtain ⟨ds', s₄, hds', hws⟩ := Run.yields_bind.mp hws
    have hlen := ha.results hd hft hds'
    rw [← (Run.yields_pure.mp hws).1] at h
    exact absurd h (hk (by simp [hlen]))

mutual
/-- **A panic comes out of a func or out of a conversion, or it is a refusal.** -/
theorem panics_reaches (hfr : fr.Typed sc) : ∀ {e : Expr} {t : Ty} {s : Store} {p : Panic},
    e.HasType sc t → (∀ {s' f vs}, e.Reaches host sc fr s s' (.call f vs) → host.Answers f) →
    (e.eval host sc fr).Panics s p →
    ∃ s' a, e.Reaches host sc fr s s' a ∧ a.Panics host s' p
  | .const (some w), t, s, p, he, _, h | .sealed w, t, s, p, he, _, h => by
      simp [Expr.eval] at h
  | .param q, t, s, p, he, _, h => by
      -- a slot that is listed has a value
      rw [Expr.HasType] at he
      obtain ⟨w, hw, -⟩ := lastValue_typed hfr.params he.1 he.2
      simp [Expr.eval, hw] at h
  | .temp q, t, s, p, he, _, h => by
      rw [Expr.HasType] at he
      obtain ⟨w, hw, -⟩ := lastValue_typed hfr.temps he.1 he.2
      simp [Expr.eval, hw] at h
  | .convert x target, t, s, p, he, hans, h => by
      rw [Expr.HasType] at he
      obtain ⟨rfl, u, hx, -⟩ := he
      rw [Expr.eval, hx.type] at h
      simp only [Expr.Reaches] at hans ⊢
      rcases Run.panics_bind.mp h with h | ⟨v, s₁, hv, h⟩
      · obtain ⟨s', a, ha, hp⟩ := panics_reaches hfr hx (fun h' => hans (.inr (.inl h'))) h
        exact ⟨s', a, .inr (.inl ha), hp⟩
      · obtain rfl := eval_type hfr hx hv
        exact ⟨s₁, .convert x t v, .inr (.inr ⟨v, t, rfl, hv, rfl⟩), h⟩
  | .invoke name fn operands, t, s, p, he, hans, h => by
      rw [Expr.HasType] at he
      obtain ⟨ft, ps, rs, b, hfn, hf, hfit⟩ := he
      rw [Expr.eval] at h
      simp only [Expr.Reaches] at hans ⊢
      obtain ⟨s', a, ha, hp⟩ := duringCall_panics hfr hfn hf hfit (fun h' => hans (.inr h'))
        (fun h' => panicsAny_reaches hfr hfit (fun h'' => hans (.inr (.inl h''))) h')
        (fun hvs h' => panics_reaches hfr hfn
          (fun h'' => hans (.inr (.inr ⟨_, _, hvs, .inl h''⟩))) h')
        (fun {ws _} hlen hk => by
          -- the func has a result, and there are as many values
          cases ws with
          | nil => simp at hlen
          | cons w ws => simp at hk) h
      exact ⟨s', a, .inr ha, hp⟩
  | .missing, _, _, _, he, _, _ | .const none, _, _, _, he, _, _
  | .assign _ _, _, _, _, he, _, _ | .block _ _, _, _, _, he, _, _ => by simp [Expr.HasType] at he
theorem panicsAny_reaches (hfr : fr.Typed sc) : ∀ {es : List Expr} {ts : List Ty} {s : Store}
    {p : Panic}, Expr.Fit sc es ts →
    (∀ {s' f vs}, Expr.ReachesAny host sc fr es s s' (.call f vs) → host.Answers f) →
    (Expr.evalAll host sc fr es).Panics s p →
    ∃ s' a, Expr.ReachesAny host sc fr es s s' a ∧ a.Panics host s' p
  | [], _, _, _, _, _, h => by simp [Expr.evalAll] at h
  | _ :: _, [], _, _, he, _, _ => by simp [Expr.Fit] at he
  | e :: es, t :: ts, s, p, he, hans, h => by
      rw [Expr.Fit] at he
      obtain ⟨⟨u, hu, -⟩, hes⟩ := he
      rw [Expr.evalAll] at h
      simp only [Expr.ReachesAny] at hans ⊢
      rcases Run.panics_bind.mp h with h | ⟨v, s₁, hv, h⟩
      · obtain ⟨s', a, ha, hp⟩ := panics_reaches hfr hu (fun h' => hans (.inl h')) h
        exact ⟨s', a, .inl ha, hp⟩
      rcases Run.panics_bind.mp h with h | ⟨vs, s₂, -, h⟩
      · obtain ⟨s', a, ha, hp⟩ :=
          panicsAny_reaches hfr hes (fun h' => hans (.inr ⟨v, s₁, hv, h'⟩)) h
        exact ⟨s', a, .inr ⟨v, s₁, hv, ha⟩, hp⟩
      · simp at h
end

/-! ### Refusals -/

variable {ops : List Expr}

theorem duringCall_refuse {fn : Expr} {operands : List Expr}
    {inOperands inFn : Store → Store → Act → Prop} {s s' : Store} {q : Panic}
    (hparts : ∀ e ∈ fn :: operands, Expr.Evaluated ops e)
    (hops : ∀ {s s'}, inOperands s s' (.refuse q) → ∃ v, Expr.Evaluated ops (.sealed v))
    (hin : ∀ {s s'}, inFn s s' (.refuse q) → ∃ v, Expr.Evaluated ops (.sealed v))
    (h : Expr.DuringCall (Expr.anySealed fn operands) (Expr.evalAll host sc fr operands)
      (fn.eval host sc fr) inOperands inFn s s' (.refuse q)) :
    ∃ v, Expr.Evaluated ops (.sealed v) := by
  rcases h with h | ⟨vs, s₁, -, h | ⟨f, -, h | ⟨hsealed, -⟩⟩⟩
  · exact hops h
  · exact hin h
  · cases h
  · obtain ⟨e, he, hsealed⟩ : ∃ e ∈ fn :: operands, e.isSealed = true :=
      List.any_eq_true.mp hsealed
    exact (hparts e he).of_isSealed hsealed

mutual
/-- **A value is refused only if a constant that is evaluated is sealed.** -/
theorem reaches_refuse : ∀ {e : Expr} {s s' : Store} {q : Panic}, Expr.Evaluated ops e →
    e.Reaches host sc fr s s' (.refuse q) → ∃ v, Expr.Evaluated ops (.sealed v)
  | .convert x target, _, _, _, he, h => by
      simp only [Expr.Reaches, reduceCtorEq, and_false, exists_false, or_false, false_or] at h
      exact reaches_refuse (he.deeper List.mem_cons_self) h
  | .invoke name fn operands, _, _, _, he, h => by
      simp only [Expr.Reaches, reduceCtorEq, and_false, false_or] at h
      have hparts : ∀ e ∈ fn :: operands, Expr.Evaluated ops e := fun e h' => he.deeper h'
      exact duringCall_refuse hparts
        (fun h' => reachesAny_refuse (fun e h'' => hparts e (List.mem_cons_of_mem _ h'')) h')
        (fun h' => reaches_refuse (hparts fn List.mem_cons_self) h') h
  | .missing, _, _, _, _, h | .const _, _, _, _, _, h | .sealed _, _, _, _, _, h
  | .param _, _, _, _, _, h | .temp _, _, _, _, _, h | .assign _ _, _, _, _, _, h
  | .block _ _, _, _, _, _, h => by simp [Expr.Reaches] at h
theorem reachesAny_refuse : ∀ {es : List Expr} {s s' : Store} {q : Panic},
    (∀ e ∈ es, Expr.Evaluated ops e) → Expr.ReachesAny host sc fr es s s' (.refuse q) →
    ∃ v, Expr.Evaluated ops (.sealed v)
  | [], _, _, _, _, h => by simp [Expr.ReachesAny] at h
  | e :: es, _, _, _, hes, h => by
      rw [Expr.ReachesAny] at h
      rcases h with h | ⟨v, s₁, -, h⟩
      · exact reaches_refuse (hes e List.mem_cons_self) h
      · exact reachesAny_refuse (fun e' h' => hes e' (List.mem_cons_of_mem _ h')) h
end

/-! ### Operations -/

/-- Storing a value that fits in a temporary keeps the frame typed. -/
theorem Frame.store_typed (hfr : fr.Typed sc) {dst : Slot} {t : Ty} {v : Value} {i : Nat}
    (hi : lastIndex? dst sc.temps = some i) (ht : dst.type = some t)
    (ha : v.type.assignable t = true) : ∃ fr', fr.store i v = .ok fr' ∧ fr'.Typed sc := by
  obtain ⟨old, hold, rfl⟩ := lastIndex?_typed hfr.temps hi ht
  refine ⟨{ fr with temps := fr.temps.set i ⟨old.type, v.stored old.type⟩ },
    by simp only [Frame.store, hold, ha, if_true], hfr.params, ?_⟩
  rw [hfr.temps, List.map_set]
  refine (List.ext_getElem? fun j => ?_).symm
  rw [List.getElem?_set]
  split
  · rename_i hij
    subst hij
    obtain ⟨hlt, rfl⟩ := List.getElem?_eq_some_iff.mp hold
    simp [hlt]
  · rfl

theorem stepReaches_sound (hfr : fr.Typed sc) {e : Expr} {s s' : Store} {a : Act}
    (he : e.IsOperation sc) (h : e.StepReaches host sc fr s s' a) : a.Sound host sc fr s' := by
  cases e with
  | assign dst src =>
      obtain ⟨-, u, t, hu, ht, ha⟩ := he
      rcases h with h | ⟨v, hv, rfl | ⟨-, rfl⟩⟩
      · exact reaches_sound hfr hu h
      · exact ⟨t, ht, by rw [eval_type hfr hu hv, ha]⟩
      · trivial
  | invoke name fn operands =>
      obtain ⟨ft, ps, rs, b, hfn, hf, hfit⟩ := he
      exact duringCall_sound hfr hfn hf hfit (reachesAny_sound hfr hfit) (reaches_sound hfr hfn) h
  | missing | const | sealed | param | temp | convert | block => exact he.elim

theorem exec_typed (hfr : fr.Typed sc) {e : Expr} {s s' : Store} {fr' : Frame}
    (he : e.IsOperation sc) (h : (e.exec host sc fr).Yields s fr' s') : fr'.Typed sc := by
  cases e with
  | assign dst src =>
      obtain ⟨hdst, u, t, hu, ht, ha⟩ := he
      obtain ⟨i, hi⟩ := hdst.lastIndex?
      rw [Expr.exec, hi] at h
      obtain ⟨v, s₁, hv, h⟩ := Run.yields_bind.mp h
      obtain ⟨fr₁, hst, hfr₁⟩ := Frame.store_typed hfr hi ht (by rw [eval_type hfr hu hv, ha])
      simp only [hst, Run.ofExcept_ok] at h
      split at h
      · simp at h
      · rw [← (Run.yields_pure.mp h).1]
        exact hfr₁
  | invoke name fn operands =>
      rw [Expr.exec] at h
      obtain ⟨vs, s₁, -, h⟩ := Run.yields_bind.mp h
      obtain ⟨f, s₂, -, h⟩ := Run.yields_bind.mp h
      obtain ⟨ws, s₃, -, h⟩ := Run.yields_bind.mp h
      rw [← (Run.yields_pure.mp h).1]
      exact hfr
  | missing | const | sealed | param | temp | convert | block => exact he.elim

theorem stepsReach_sound {pt : Point} : ∀ {es : List Expr} {fr : Frame} {s : Store},
    fr.Typed sc → (∀ e ∈ es, e.IsOperation sc) → Expr.StepsReach host sc pt fr es s →
    pt.frame.Typed sc ∧ pt.act.Sound host sc pt.frame pt.store
  | [], _, _, _, _, h => h.elim
  | e :: es, fr, s, hfr, hes, h => by
      rcases h with ⟨hfr', h⟩ | ⟨fr', s', hx, h⟩
      · rw [hfr']
        exact ⟨hfr, stepReaches_sound hfr (hes e List.mem_cons_self) h⟩
      · exact stepsReach_sound (exec_typed hfr (hes e List.mem_cons_self) hx)
          (fun e' he' => hes e' (List.mem_cons_of_mem _ he')) h

end

/-- Temporaries start out as zeros of their types. -/
theorem unsetTemps_types : ∀ {ts : List (Option Ty)} {vs : List Value},
    ts.mapM unsetTemp = .ok vs → ts = vs.map (some ·.type)
  | [], vs, h => by
      cases h
      rfl
  | none :: ts, vs, h => by
      rw [List.mapM_cons] at h
      cases h
  | some t :: ts, vs, h => by
      rw [List.mapM_cons] at h
      cases hts : ts.mapM unsetTemp with
      | error p => rw [hts] at h; cases h
      | ok ws =>
          rw [hts] at h
          cases h
          rw [unsetTemps_types hts]
          rfl

theorem unsetTemps_ok : ∀ {ts : List (Option Ty)}, (∀ t ∈ ts, t ≠ none) →
    ∃ vs, ts.mapM unsetTemp = .ok vs
  | [], _ => ⟨[], rfl⟩
  | none :: _, h => absurd rfl (h none List.mem_cons_self)
  | some t :: ts, h => by
      obtain ⟨vs, hvs⟩ := unsetTemps_ok fun u hu => h u (List.mem_cons_of_mem _ hu)
      exact ⟨.zero t :: vs, by rw [List.mapM_cons, hvs]; rfl⟩

end

open scoped Catalogue

/-- A program that keeps an integer out of an unexported field. -/
def keeping : Lambda :=
  let kept : Slot := ⟨0, some .int, "kept"⟩
  ⟨[], some ⟨[kept], [.assign kept (.sealed ⟨.int, .int 7⟩)]⟩⟩

-- the exception occurs: the program is realized, and is refused when it is invoked
example : ∃ r, keeping.realize (some (.func [] [] false)) = .ok r ∧
    ∀ host s, (r.invoke host []).Panics s .sealedStore :=
  ⟨_, rfl, fun _ _ => rfl⟩

/-- A func that takes and yields integers. -/
def answer : Value := ⟨.func [.int] [.int] false, .func 0 []⟩

/-- A func that takes anything. -/
def sink : Value := ⟨.func [.any] [] false, .func 1 []⟩

/-- An input comes out of its interface and the answer to it is kept; the answer to that goes into
an interface. -/
def nested : Lambda :=
  let x : Slot := ⟨0, some .any, "x"⟩
  let kept : Slot := ⟨0, some .int, "kept"⟩
  ⟨[x], some ⟨[kept],
    [.assign kept (.invoke "answer" (.const (some answer)) [.convert (.param x) (some .int)]),
      .invoke "sink" (.const (some sink))
        [.convert (.invoke "answer" (.const (some answer)) [.temp kept]) (some .any)]]⟩⟩

end Tacit
