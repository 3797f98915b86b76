import Tacit.Catalogue
import Tacit.Proofs.Program.Soundness
import Tacit.Word.Dictionary

/-!
# Programs by rules

A semantics of programs that is given by rules and looks nothing up: slots are told apart by
identity, and a rule applies where its premises hold.

* `Slot.LastAt s slots i`: `i` is the last position at which the slot `s` is listed. An input
  denotes the argument there, a temporary the cell there.
* `Expr.Evaluates`, `Expr.Calls`, `Expr.Executes`, `Expr.ExecutesAll`: the effects of an expression,
  a call, an operation and operations. A call evaluates its operands from left to right, then the
  func, and then calls it once; operations run top to bottom and stop at the first panic.
* `Lambda.Means`: the effects of an invocation. Every temporary is a zero when it starts, and an
  assignment to it is all that changes it.
* `evaluates_iff`, `executes_iff`, `executesAll_iff`: in a frame of the right types, the rules give
  what evaluation gives, and nothing else.
* `invoke_iff_means`: a routine has exactly the effect that the rules give its program.
-/

namespace Tacit

/-! ### Slots -/

/-- The last position of the slot in a list. -/
structure Slot.LastAt (s : Slot) (slots : List Slot) (i : Nat) : Prop where
  listed : ∃ p, slots[i]? = some p ∧ p.is s = true
  last : ∀ j p, i < j → slots[j]? = some p → p.is s = false

theorem Slot.LastAt.unique {s : Slot} {slots : List Slot} {i j : Nat} (hi : s.LastAt slots i)
    (hj : s.LastAt slots j) : i = j := by
  obtain ⟨p, hp, hps⟩ := hi.listed
  obtain ⟨q, hq, hqs⟩ := hj.listed
  rcases Nat.lt_trichotomy i j with hlt | heq | hlt
  · rw [hi.last j q hlt hq] at hqs
    cases hqs
  · exact heq
  · rw [hj.last i p hlt hp] at hps
    cases hps

theorem Slot.LastAt.of_lastIndex? {s : Slot} {slots : List Slot} {i : Nat}
    (h : lastIndex? s slots = some i) : s.LastAt slots i := by
  refine ⟨lastIndex?_eq_some h, fun j p hij hp => ?_⟩
  obtain ⟨k, hk, rfl⟩ := Option.map_eq_some_iff.mp h
  obtain ⟨hlt, -, hbefore⟩ := List.findIdx?_eq_some_iff_getElem.mp hk
  obtain ⟨hj, rfl⟩ := List.getElem?_eq_some_iff.mp hp
  rw [List.length_reverse] at hlt
  -- what comes later in the list comes earlier in the reversed one
  have hnot := hbefore (slots.length - 1 - j) (by omega)
  rw [List.getElem_reverse] at hnot
  simpa [show slots.length - 1 - (slots.length - 1 - j) = j by omega] using hnot

theorem Slot.lastIndex?_eq_some_iff {s : Slot} {slots : List Slot} {i : Nat} :
    lastIndex? s slots = some i ↔ s.LastAt slots i := by
  refine ⟨.of_lastIndex?, fun h => ?_⟩
  obtain ⟨p, hp, hps⟩ := h.listed
  obtain ⟨j, hj⟩ := Slot.Listed.lastIndex? ⟨p, List.mem_of_getElem? hp, hps⟩
  rw [hj, h.unique (.of_lastIndex? hj)]

/-- A slot that is listed denotes one value, the one at its last position. -/
theorem lastValue_iff {p : Slot} {slots : List Slot} {vs : List Value} {t : Ty}
    (h : slots.map (·.type) = vs.map (some ·.type)) (hp : p.Listed slots) (ht : p.type = some t) :
    ∃ v, lastValue p slots vs = pure v ∧
      ∀ w, (∃ i, p.LastAt slots i ∧ vs[i]? = some w) ↔ w = v := by
  obtain ⟨i, hi⟩ := hp.lastIndex?
  obtain ⟨v, hv, -⟩ := lastIndex?_typed h hi ht
  refine ⟨v, by simp [lastValue, hi, hv], fun w => ⟨?_, ?_⟩⟩
  · rintro ⟨j, hj, hw⟩
    rw [← Slot.lastIndex?_eq_some_iff, hi] at hj
    cases hj
    rw [hv] at hw
    exact (Option.some.inj hw).symm
  · rintro rfl
    exact ⟨i, Slot.lastIndex?_eq_some_iff.mp hi, hv⟩

/-! ### Rules -/

section

variable [Declarations]

mutual
/-- Evaluating the node from a store has the effect. -/
inductive Expr.Evaluates (host : Host) (sc : Scope) (fr : Frame) :
    Expr → Store → Effect Value → Prop where
  | const (v : Value) (s : Store) : Expr.Evaluates host sc fr (.const (some v)) s ⟨[], s, .ok v⟩
  | sealed (v : Value) (s : Store) : Expr.Evaluates host sc fr (.sealed v) s ⟨[], s, .ok v⟩
  | param {p : Slot} {i : Nat} {v : Value} (s : Store) (hi : p.LastAt sc.params i)
      (hv : fr.params[i]? = some v) : Expr.Evaluates host sc fr (.param p) s ⟨[], s, .ok v⟩
  | temp {p : Slot} {i : Nat} {v : Value} (s : Store) (hi : p.LastAt sc.temps i)
      (hv : fr.temps[i]? = some v) : Expr.Evaluates host sc fr (.temp p) s ⟨[], s, .ok v⟩
  | convert {x : Expr} {given t : Ty} {v : Value} {s s₁ s₂ : Store} {es es' : List Event}
      {o : Except Panic Value} (hx : Expr.Evaluates host sc fr x s ⟨es, s₁, .ok v⟩)
      (hg : x.type = .ok (some given)) (hv : v.cast given t s₁ = ⟨es', s₂, o⟩) :
      Expr.Evaluates host sc fr (.convert x (some t)) s ⟨es ++ es', s₂, o⟩
  | convertPanics {x : Expr} {target : Option Ty} {s s₁ : Store} {es : List Event} {p : Panic}
      (hx : Expr.Evaluates host sc fr x s ⟨es, s₁, .error p⟩) :
      Expr.Evaluates host sc fr (.convert x target) s ⟨es, s₁, .error p⟩
  | invoke {name : String} {fn : Expr} {operands : List Expr} {v : Value} {vs : List Value}
      {s s₁ : Store} {es : List Event}
      (h : Expr.Calls host sc fr fn operands s ⟨es, s₁, .ok (v :: vs)⟩) :
      Expr.Evaluates host sc fr (.invoke name fn operands) s ⟨es, s₁, .ok v⟩
  | invokePanics {name : String} {fn : Expr} {operands : List Expr} {s s₁ : Store}
      {es : List Event} {p : Panic} (h : Expr.Calls host sc fr fn operands s ⟨es, s₁, .error p⟩) :
      Expr.Evaluates host sc fr (.invoke name fn operands) s ⟨es, s₁, .error p⟩
  /-- A func that answers nothing, although its type has a result. -/
  | unanswered {name : String} {fn : Expr} {operands : List Expr} {s s₁ : Store} {es : List Event}
      (h : Expr.Calls host sc fr fn operands s ⟨es, s₁, .ok []⟩) :
      Expr.Evaluates host sc fr (.invoke name fn operands) s ⟨es, s₁, .error .nilDereference⟩
/-- Evaluating operands has the effect. -/
inductive Expr.EvaluatesAll (host : Host) (sc : Scope) (fr : Frame) :
    List Expr → Store → Effect (List Value) → Prop where
  | nil (s : Store) : Expr.EvaluatesAll host sc fr [] s ⟨[], s, .ok []⟩
  | cons {e : Expr} {rest : List Expr} {v : Value} {vs : List Value} {s s₁ s₂ : Store}
      {es es' : List Event} (he : Expr.Evaluates host sc fr e s ⟨es, s₁, .ok v⟩)
      (hrest : Expr.EvaluatesAll host sc fr rest s₁ ⟨es', s₂, .ok vs⟩) :
      Expr.EvaluatesAll host sc fr (e :: rest) s ⟨es ++ es', s₂, .ok (v :: vs)⟩
  | headPanics {e : Expr} {rest : List Expr} {s s₁ : Store} {es : List Event} {p : Panic}
      (he : Expr.Evaluates host sc fr e s ⟨es, s₁, .error p⟩) :
      Expr.EvaluatesAll host sc fr (e :: rest) s ⟨es, s₁, .error p⟩
  | tailPanics {e : Expr} {rest : List Expr} {v : Value} {s s₁ s₂ : Store} {es es' : List Event}
      {p : Panic} (he : Expr.Evaluates host sc fr e s ⟨es, s₁, .ok v⟩)
      (hrest : Expr.EvaluatesAll host sc fr rest s₁ ⟨es', s₂, .error p⟩) :
      Expr.EvaluatesAll host sc fr (e :: rest) s ⟨es ++ es', s₂, .error p⟩
/-- Calling what the node `fn` yields has the effect. -/
inductive Expr.Calls (host : Host) (sc : Scope) (fr : Frame) :
    Expr → List Expr → Store → Effect (List Value) → Prop where
  | call {fn : Expr} {operands : List Expr} {f : Value} {vs : List Value} {s s₁ s₂ s₃ : Store}
      {es es' es'' : List Event} {o : Except Panic (List Value)}
      (hops : Expr.EvaluatesAll host sc fr operands s ⟨es, s₁, .ok vs⟩)
      (hfn : Expr.Evaluates host sc fr fn s₁ ⟨es', s₂, .ok f⟩)
      (hcall : f.handOver host fn.isSealed (operands.any Expr.isSealed) vs s₂ = ⟨es'', s₃, o⟩) :
      Expr.Calls host sc fr fn operands s ⟨es ++ (es' ++ es''), s₃, o⟩
  | fnPanics {fn : Expr} {operands : List Expr} {vs : List Value} {s s₁ s₂ : Store}
      {es es' : List Event} {p : Panic}
      (hops : Expr.EvaluatesAll host sc fr operands s ⟨es, s₁, .ok vs⟩)
      (hfn : Expr.Evaluates host sc fr fn s₁ ⟨es', s₂, .error p⟩) :
      Expr.Calls host sc fr fn operands s ⟨es ++ es', s₂, .error p⟩
  | operandsPanic {fn : Expr} {operands : List Expr} {s s₁ : Store} {es : List Event} {p : Panic}
      (hops : Expr.EvaluatesAll host sc fr operands s ⟨es, s₁, .error p⟩) :
      Expr.Calls host sc fr fn operands s ⟨es, s₁, .error p⟩
end

/-- Carrying the operation out in a frame has the effect, the frame after it included. -/
inductive Expr.Executes (host : Host) (sc : Scope) (fr : Frame) :
    Expr → Store → Effect Frame → Prop where
  | assign {dst : Slot} {src : Expr} {i : Nat} {t : Ty} {v : Value} {s s₁ : Store}
      {es : List Event} (hsrc : Expr.Evaluates host sc fr src s ⟨es, s₁, .ok v⟩)
      (hopen : src.isSealed = false) (hi : dst.LastAt sc.temps i) (ht : dst.type = some t) :
      Expr.Executes host sc fr (.assign dst src) s
        ⟨es, s₁, .ok { fr with temps := fr.temps.set i ⟨t, v.stored t⟩ }⟩
  | assignRefused {dst : Slot} {src : Expr} {v : Value} {s s₁ : Store} {es : List Event}
      (hsrc : Expr.Evaluates host sc fr src s ⟨es, s₁, .ok v⟩) (hsealed : src.isSealed = true) :
      Expr.Executes host sc fr (.assign dst src) s ⟨es, s₁, .error .sealedStore⟩
  | assignPanics {dst : Slot} {src : Expr} {s s₁ : Store} {es : List Event} {p : Panic}
      (hsrc : Expr.Evaluates host sc fr src s ⟨es, s₁, .error p⟩) :
      Expr.Executes host sc fr (.assign dst src) s ⟨es, s₁, .error p⟩
  | invoke {name : String} {fn : Expr} {operands : List Expr} {vs : List Value} {s s₁ : Store}
      {es : List Event} (h : Expr.Calls host sc fr fn operands s ⟨es, s₁, .ok vs⟩) :
      Expr.Executes host sc fr (.invoke name fn operands) s ⟨es, s₁, .ok fr⟩
  | invokePanics {name : String} {fn : Expr} {operands : List Expr} {s s₁ : Store}
      {es : List Event} {p : Panic} (h : Expr.Calls host sc fr fn operands s ⟨es, s₁, .error p⟩) :
      Expr.Executes host sc fr (.invoke name fn operands) s ⟨es, s₁, .error p⟩

/-- Carrying operations out has the effect. -/
inductive Expr.ExecutesAll (host : Host) (sc : Scope) :
    Frame → List Expr → Store → Effect Frame → Prop where
  | nil (fr : Frame) (s : Store) : Expr.ExecutesAll host sc fr [] s ⟨[], s, .ok fr⟩
  | cons {fr fr' : Frame} {e : Expr} {rest : List Expr} {s s₁ s₂ : Store} {es es' : List Event}
      {o : Except Panic Frame} (he : e.Executes host sc fr s ⟨es, s₁, .ok fr'⟩)
      (hrest : Expr.ExecutesAll host sc fr' rest s₁ ⟨es', s₂, o⟩) :
      Expr.ExecutesAll host sc fr (e :: rest) s ⟨es ++ es', s₂, o⟩
  | panics {fr : Frame} {e : Expr} {rest : List Expr} {s s₁ : Store} {es : List Event} {p : Panic}
      (he : e.Executes host sc fr s ⟨es, s₁, .error p⟩) :
      Expr.ExecutesAll host sc fr (e :: rest) s ⟨es, s₁, .error p⟩

/-- The temporary is as it is before anything is assigned to it. -/
def Slot.Unset (p : Slot) (v : Value) : Prop := ∃ t, p.type = some t ∧ v = .zero t

/-- Invoking the program with arguments from a store has the effect. -/
inductive Lambda.Means (host : Host) (l : Lambda) (args : List Value) (s : Store) :
    Effect Unit → Prop where
  | returns {body : Block} {temps : List Value} {fr : Frame} {s₁ : Store} {es : List Event}
      (hbody : l.body = some body) (htemps : List.Forall₂ Slot.Unset body.temps temps)
      (h : Expr.ExecutesAll host ⟨l.params, body.temps⟩ ⟨args, temps⟩ body.ops s ⟨es, s₁, .ok fr⟩) :
      Lambda.Means host l args s ⟨es, s₁, .ok ()⟩
  | panics {body : Block} {temps : List Value} {s₁ : Store} {es : List Event} {p : Panic}
      (hbody : l.body = some body) (htemps : List.Forall₂ Slot.Unset body.temps temps)
      (h : Expr.ExecutesAll host ⟨l.params, body.temps⟩ ⟨args, temps⟩ body.ops s
        ⟨es, s₁, .error p⟩) :
      Lambda.Means host l args s ⟨es, s₁, .error p⟩
  /-- A temporary without a type has no zero to start from. -/
  | untyped {body : Block} {p : Slot} (hbody : l.body = some body) (hp : p ∈ body.temps)
      (ht : p.type = none) : Lambda.Means host l args s ⟨[], s, .error .untypedVariable⟩

/-! ### The rules give what evaluation gives -/

section

variable {host : Host} {sc : Scope} {fr : Frame}

theorem calls_iff {fn : Expr} {operands : List Expr}
    (hops : ∀ s y, Expr.EvaluatesAll host sc fr operands s y ↔
      Expr.evalAll host sc fr operands s = y)
    (hfn : ∀ s y, fn.Evaluates host sc fr s y ↔ fn.eval host sc fr s = y) (s : Store)
    (y : Effect (List Value)) :
    Expr.Calls host sc fr fn operands s y ↔
      (Expr.evalAll host sc fr operands >>= fun vs => fn.eval host sc fr >>= fun f =>
        f.handOver host fn.isSealed (operands.any Expr.isSealed) vs) s = y := by
  constructor
  · intro h
    cases h with
    | call ho hf hc =>
        rw [hops] at ho
        rw [hfn] at hf
        exact Run.bind_eq_iff.mpr (.inl ⟨_, _, _, _, _, _, ho,
          Run.bind_eq_iff.mpr (.inl ⟨_, _, _, _, _, _, hf, hc, rfl⟩), rfl⟩)
    | fnPanics ho hf =>
        rw [hops] at ho
        rw [hfn] at hf
        exact Run.bind_eq_iff.mpr (.inl ⟨_, _, _, _, _, _, ho,
          Run.bind_eq_iff.mpr (.inr ⟨_, _, _, hf, rfl⟩), rfl⟩)
    | operandsPanic ho =>
        rw [hops] at ho
        exact Run.bind_eq_iff.mpr (.inr ⟨_, _, _, ho, rfl⟩)
  · intro h
    rcases Run.bind_eq_iff.mp h with ⟨es, s₁, vs, es', s₂, o, ho, h', rfl⟩ | ⟨es, s₁, p, ho, rfl⟩
    · rcases Run.bind_eq_iff.mp h' with ⟨es₁, s₃, f, es₂, s₄, o', hf, hc, hy⟩ | ⟨es₁, s₃, p, hf, hy⟩
      · cases hy
        exact .call ((hops _ _).mpr ho) ((hfn _ _).mpr hf) hc
      · cases hy
        exact .fnPanics ((hops _ _).mpr ho) ((hfn _ _).mpr hf)
    · exact .operandsPanic ((hops _ _).mpr ho)

mutual
theorem evaluates_iff (hfr : fr.Typed sc) : ∀ {e : Expr} {t : Ty}, e.HasType sc t →
    ∀ (s : Store) (y : Effect Value), e.Evaluates host sc fr s y ↔ e.eval host sc fr s = y
  | .const (some v), t, _, s, y => by
      rw [Expr.eval, Run.pure_apply]
      constructor
      · intro h
        cases h
        rfl
      · rintro rfl
        exact .const v s
  | .sealed v, t, _, s, y => by
      rw [Expr.eval, Run.pure_apply]
      constructor
      · intro h
        cases h
        rfl
      · rintro rfl
        exact .sealed v s
  | .param p, t, he, s, y => by
      rw [Expr.HasType] at he
      obtain ⟨v, hv, hiff⟩ := lastValue_iff hfr.params he.1 he.2
      rw [Expr.eval, hv, Run.pure_apply]
      constructor
      · intro h
        cases h with
        | param _ hi hw => rw [(hiff _).mp ⟨_, hi, hw⟩]
      · rintro rfl
        obtain ⟨i, hi, hw⟩ := (hiff v).mpr rfl
        exact .param s hi hw
  | .temp p, t, he, s, y => by
      rw [Expr.HasType] at he
      obtain ⟨v, hv, hiff⟩ := lastValue_iff hfr.temps he.1 he.2
      rw [Expr.eval, hv, Run.pure_apply]
      constructor
      · intro h
        cases h with
        | temp _ hi hw => rw [(hiff _).mp ⟨_, hi, hw⟩]
      · rintro rfl
        obtain ⟨i, hi, hw⟩ := (hiff v).mpr rfl
        exact .temp s hi hw
  | .convert x target, t, he, s, y => by
      rw [Expr.HasType] at he
      obtain ⟨rfl, u, hx, -⟩ := he
      have ih := evaluates_iff hfr hx
      rw [Expr.eval, hx.type, Run.bind_eq_iff]
      constructor
      · intro h
        cases h with
        | convert hv hg hc =>
            rw [hx.type] at hg
            cases hg
            exact .inl ⟨_, _, _, _, _, _, (ih _ _).mp hv, hc, rfl⟩
        | convertPanics hv => exact .inr ⟨_, _, _, (ih _ _).mp hv, rfl⟩
      · rintro (⟨_, _, _, _, _, _, hv, hc, rfl⟩ | ⟨_, _, _, hv, rfl⟩)
        · exact .convert ((ih _ _).mpr hv) hx.type hc
        · exact .convertPanics ((ih _ _).mpr hv)
  | .invoke name fn operands, t, he, s, y => by
      rw [Expr.HasType] at he
      obtain ⟨ft, ps, rs, b, hfn, -, hfit⟩ := he
      have hcalls := calls_iff (fun s y => evaluatesAll_iff hfr hfit s y) (evaluates_iff hfr hfn)
      have heval : (Expr.invoke name fn operands).eval host sc fr =
          (Expr.evalAll host sc fr operands >>= fun vs => fn.eval host sc fr >>= fun f =>
            f.handOver host fn.isSealed (operands.any Expr.isSealed) vs) >>= fun
          | v :: _ => pure v
          | [] => Run.panic .nilDereference := by
        rw [Expr.eval, bind_assoc]
        exact bind_congr fun vs => (bind_assoc _ _ _).symm
      rw [heval, Run.bind_eq_iff]
      constructor
      · intro h
        cases h with
        | invoke hc => exact .inl ⟨_, _, _, _, _, _, (hcalls _ _).mp hc, rfl, by simp⟩
        | invokePanics hc => exact .inr ⟨_, _, _, (hcalls _ _).mp hc, rfl⟩
        | unanswered hc => exact .inl ⟨_, _, _, _, _, _, (hcalls _ _).mp hc, rfl, by simp⟩
      · rintro (⟨_, _, vs, _, _, _, hc, hv, rfl⟩ | ⟨_, _, _, hc, rfl⟩)
        · cases vs with
          | nil =>
              cases hv
              rw [List.append_nil]
              exact .unanswered ((hcalls _ _).mpr hc)
          | cons v vs =>
              cases hv
              rw [List.append_nil]
              exact .invoke ((hcalls _ _).mpr hc)
        · exact .invokePanics ((hcalls _ _).mpr hc)
  | .missing, _, he, _, _ | .const none, _, he, _, _ | .assign _ _, _, he, _, _
  | .block _ _, _, he, _, _ => by simp [Expr.HasType] at he
theorem evaluatesAll_iff (hfr : fr.Typed sc) : ∀ {es : List Expr} {ts : List Ty},
    Expr.Fit sc es ts → ∀ (s : Store) (y : Effect (List Value)),
    Expr.EvaluatesAll host sc fr es s y ↔ Expr.evalAll host sc fr es s = y
  | [], [], _, s, y => by
      rw [Expr.evalAll, Run.pure_apply]
      constructor
      · intro h
        cases h
        rfl
      · rintro rfl
        exact .nil s
  | e :: es, t :: ts, he, s, y => by
      rw [Expr.Fit] at he
      obtain ⟨⟨u, hu, -⟩, hes⟩ := he
      have hhead := evaluates_iff hfr hu
      have htail := evaluatesAll_iff hfr hes
      rw [Expr.evalAll, Run.bind_eq_iff]
      constructor
      · intro h
        cases h with
        | cons hv hvs =>
            exact .inl ⟨_, _, _, _, _, _, (hhead _ _).mp hv,
              Run.bind_eq_iff.mpr (.inl ⟨_, _, _, _, _, _, (htail _ _).mp hvs, rfl, rfl⟩), by simp⟩
        | headPanics hv => exact .inr ⟨_, _, _, (hhead _ _).mp hv, rfl⟩
        | tailPanics hv hvs =>
            exact .inl ⟨_, _, _, _, _, _, (hhead _ _).mp hv,
              Run.bind_eq_iff.mpr (.inr ⟨_, _, _, (htail _ _).mp hvs, rfl⟩), rfl⟩
      · rintro (⟨_, _, _, _, _, _, hv, h, rfl⟩ | ⟨_, _, _, hv, rfl⟩)
        · rcases Run.bind_eq_iff.mp h with ⟨_, _, _, _, _, _, hvs, hret, hy⟩ | ⟨_, _, _, hvs, hy⟩
          · cases hret
            cases hy
            rw [List.append_nil]
            exact .cons ((hhead _ _).mpr hv) ((htail _ _).mpr hvs)
          · cases hy
            exact .tailPanics ((hhead _ _).mpr hv) ((htail _ _).mpr hvs)
        · exact .headPanics ((hhead _ _).mpr hv)
  | [], _ :: _, he, _, _ | _ :: _, [], he, _, _ => by simp [Expr.Fit] at he
end

/-- Storing a value that fits in a temporary puts it into the temporary's cell. -/
theorem Frame.store_eq (hfr : fr.Typed sc) {dst : Slot} {t : Ty} {v : Value} {i : Nat}
    (hi : lastIndex? dst sc.temps = some i) (ht : dst.type = some t)
    (ha : v.type.assignable t = true) :
    fr.store i v = .ok { fr with temps := fr.temps.set i ⟨t, v.stored t⟩ } := by
  obtain ⟨old, hold, rfl⟩ := lastIndex?_typed hfr.temps hi ht
  simp only [Frame.store, hold, ha, if_true]

/-- **One operation.** -/
theorem executes_iff (hfr : fr.Typed sc) {e : Expr} (he : e.IsOperation sc) (s : Store)
    (y : Effect Frame) : e.Executes host sc fr s y ↔ e.exec host sc fr s = y := by
  cases e with
  | assign dst src =>
      obtain ⟨hdst, u, t, hu, ht, ha⟩ := he
      obtain ⟨i, hi⟩ := hdst.lastIndex?
      have hsrc : ∀ s y, src.Evaluates host sc fr s y ↔ src.eval host sc fr s = y :=
        evaluates_iff hfr hu
      have hstore : ∀ {es s₁ v}, src.eval host sc fr s = ⟨es, s₁, .ok v⟩ →
          Run.ofExcept (fr.store i v) =
            pure { fr with temps := fr.temps.set i ⟨t, v.stored t⟩ } := by
        intro es s₁ v hv
        have hfit : v.type.assignable t = true := by rw [eval_type hfr hu (Run.yields_of_eq hv), ha]
        rw [Frame.store_eq hfr hi ht hfit, Run.ofExcept_ok]
      have hexec : (Expr.assign dst src).exec host sc fr = src.eval host sc fr >>= fun v =>
          if src.isSealed then Run.panic .sealedStore else Run.ofExcept (fr.store i v) := by
        rw [Expr.exec, hi]
      rw [hexec, Run.bind_eq_iff]
      constructor
      · intro h
        cases h with
        | assign hv hopen hj ht' =>
            rw [hsrc] at hv
            rw [← Slot.lastIndex?_eq_some_iff, hi] at hj
            cases hj
            rw [ht] at ht'
            cases ht'
            exact .inl ⟨_, _, _, _, _, _, hv,
              by rw [hopen, if_neg Bool.false_ne_true, hstore hv, Run.pure_apply], by simp⟩
        | assignRefused hv hsealed =>
            exact .inl ⟨_, _, _, [], _, .error .sealedStore, (hsrc _ _).mp hv,
              by rw [if_pos hsealed]; rfl, by simp⟩
        | assignPanics hv => exact .inr ⟨_, _, _, (hsrc _ _).mp hv, rfl⟩
      · rintro (⟨_, _, _, _, _, _, hv, hs, rfl⟩ | ⟨_, _, _, hv, rfl⟩)
        · cases hsealed : src.isSealed with
          | true =>
              rw [if_pos hsealed] at hs
              cases hs
              rw [List.append_nil]
              exact .assignRefused ((hsrc _ _).mpr hv) hsealed
          | false =>
              rw [hsealed, if_neg Bool.false_ne_true, hstore hv, Run.pure_apply] at hs
              cases hs
              rw [List.append_nil]
              exact .assign ((hsrc _ _).mpr hv) hsealed (Slot.lastIndex?_eq_some_iff.mp hi) ht
        · exact .assignPanics ((hsrc _ _).mpr hv)
  | invoke name fn operands =>
      obtain ⟨ft, ps, rs, b, hfn, -, hfit⟩ := he
      have hcalls := @calls_iff _ host sc fr fn operands (evaluatesAll_iff hfr hfit)
        (evaluates_iff hfr hfn)
      have hexec : (Expr.invoke name fn operands).exec host sc fr =
          (Expr.evalAll host sc fr operands >>= fun vs => fn.eval host sc fr >>= fun f =>
            f.handOver host fn.isSealed (operands.any Expr.isSealed) vs) >>= fun _ => pure fr := by
        rw [Expr.exec]
        simp only [bind_assoc]
      rw [hexec, Run.bind_eq_iff]
      constructor
      · intro h
        cases h with
        | invoke hc => exact .inl ⟨_, _, _, _, _, _, (hcalls _ _).mp hc, rfl, by simp⟩
        | invokePanics hc => exact .inr ⟨_, _, _, (hcalls _ _).mp hc, rfl⟩
      · rintro (⟨_, _, _, _, _, _, hc, hr, rfl⟩ | ⟨_, _, _, hc, rfl⟩)
        · cases hr
          rw [List.append_nil]
          exact .invoke ((hcalls _ _).mpr hc)
        · exact .invokePanics ((hcalls _ _).mpr hc)
  | missing | const | sealed | param | temp | convert | block => exact he.elim

/-- **All operations.** -/
theorem executesAll_iff : ∀ {es : List Expr} {fr : Frame}, fr.Typed sc →
    (∀ e ∈ es, e.IsOperation sc) → ∀ (s : Store) (y : Effect Frame),
    Expr.ExecutesAll host sc fr es s y ↔ Expr.execAll host sc fr es s = y
  | [], fr, _, _, s, y => by
      rw [Expr.execAll, Run.pure_apply]
      constructor
      · intro h
        cases h
        rfl
      · rintro rfl
        exact .nil fr s
  | e :: es, fr, hfr, hes, s, y => by
      have he := hes e List.mem_cons_self
      have hhead : ∀ s y, e.Executes host sc fr s y ↔ e.exec host sc fr s = y :=
        executes_iff hfr he
      have htail : ∀ {es' s₁ fr'}, e.exec host sc fr s = ⟨es', s₁, .ok fr'⟩ →
          ∀ y, Expr.ExecutesAll host sc fr' es s₁ y ↔ Expr.execAll host sc fr' es s₁ = y := by
        intro es' s₁ fr' h y
        exact executesAll_iff (exec_typed hfr he (Run.yields_of_eq h))
          (fun e' he' => hes e' (List.mem_cons_of_mem _ he')) s₁ y
      rw [Expr.execAll, Run.bind_eq_iff]
      constructor
      · intro h
        cases h with
        | cons hx hrest =>
            rw [hhead] at hx
            exact .inl ⟨_, _, _, _, _, _, hx, (htail hx _).mp hrest, rfl⟩
        | panics hx => exact .inr ⟨_, _, _, (hhead _ _).mp hx, rfl⟩
      · rintro (⟨_, _, _, _, _, _, hx, hrest, rfl⟩ | ⟨_, _, _, hx, rfl⟩)
        · exact .cons ((hhead _ _).mpr hx) ((htail hx _).mpr hrest)
        · exact .panics ((hhead _ _).mpr hx)

end

/-! ### Invocations -/

/-- Before an invocation every temporary is a zero, if all of them have types. -/
theorem unset_iff : ∀ {slots : List Slot} {vs : List Value},
    List.Forall₂ Slot.Unset slots vs ↔ (slots.map (·.type)).mapM unsetTemp = .ok vs
  | [], vs => by
      constructor
      · intro h
        cases h
        rfl
      · intro h
        cases h
        exact .nil
  | p :: slots, vs => by
      rw [List.map_cons, List.mapM_cons]
      constructor
      · intro h
        cases h with
        | cons hp hps =>
            obtain ⟨t, ht, rfl⟩ := hp
            rw [ht, unset_iff.mp hps]
            rfl
      · intro h
        cases ht : p.type with
        | none => rw [ht] at h; cases h
        | some t =>
            cases hps : (slots.map (·.type)).mapM unsetTemp with
            | error q => rw [ht, hps] at h; cases h
            | ok ws =>
                rw [ht, hps] at h
                cases h
                exact .cons ⟨t, ht, rfl⟩ (unset_iff.mpr hps)

theorem untyped_iff : ∀ {slots : List Slot} {q : Panic},
    (slots.map (·.type)).mapM unsetTemp = .error q ↔
      q = .untypedVariable ∧ ∃ p ∈ slots, p.type = none
  | [], q => by
      constructor
      · intro h
        cases h
      · rintro ⟨-, p, hp, -⟩
        cases hp
  | p :: slots, q => by
      rw [List.map_cons, List.mapM_cons]
      cases ht : p.type with
      | none =>
          constructor
          · intro h
            cases h
            exact ⟨rfl, p, List.mem_cons_self, ht⟩
          · rintro ⟨rfl, -⟩
            rfl
      | some t =>
          have htail : ((do return Value.zero t :: (← (slots.map (·.type)).mapM unsetTemp)) :
              Except Panic (List Value)) = .error q ↔
                (slots.map (·.type)).mapM unsetTemp = .error q := by
            cases (slots.map (·.type)).mapM unsetTemp <;>
              simp [bind, Except.bind, pure, Except.pure]
          refine htail.trans (untyped_iff.trans ?_)
          simp [ht]

/-- **An invocation.** -/
theorem means_iff {l : Lambda} {body : Block} {args : List Value} (hbody : l.body = some body)
    (hparams : l.params.map (·.type) = args.map (some ·.type))
    (hops : ∀ e ∈ body.ops, e.IsOperation ⟨l.params, body.temps⟩) (host : Host) (s : Store)
    (y : Effect Unit) : l.Means host args s y ↔ l.run host args s = y := by
  cases htemps : (body.temps.map (·.type)).mapM unsetTemp with
  | error q =>
      obtain ⟨rfl, p, hp, hpt⟩ := untyped_iff.mp htemps
      have hnone : ∀ {vs}, ¬ List.Forall₂ Slot.Unset body.temps vs := by
        intro vs h
        rw [unset_iff, htemps] at h
        cases h
      rw [Lambda.run_untyped hbody htemps, Run.panic_apply]
      constructor
      · intro h
        cases h with
        | returns hbody' hunset | panics hbody' hunset =>
            rw [hbody] at hbody'
            cases hbody'
            exact absurd hunset hnone
        | untyped => rfl
      · rintro rfl
        exact .untyped hbody hp hpt
  | ok temps =>
      have hx : ∀ y, Expr.ExecutesAll host ⟨l.params, body.temps⟩ ⟨args, temps⟩ body.ops s y ↔
          Expr.execAll host ⟨l.params, body.temps⟩ ⟨args, temps⟩ body.ops s = y :=
        executesAll_iff ⟨hparams, unsetTemps_types htemps⟩ hops s
      -- the temporaries of a rule are the ones that the run starts from
      have hsame : ∀ {body' vs}, l.body = some body' → List.Forall₂ Slot.Unset body'.temps vs →
          body' = body ∧ vs = temps := by
        intro body' vs hbody' hunset
        rw [hbody] at hbody'
        cases hbody'
        rw [unset_iff, htemps] at hunset
        exact ⟨rfl, (Except.ok.inj hunset).symm⟩
      rw [Lambda.run_eq hbody htemps, Run.bind_eq_iff]
      constructor
      · intro h
        cases h with
        | returns hbody' hunset h =>
            obtain ⟨rfl, rfl⟩ := hsame hbody' hunset
            exact .inl ⟨_, _, _, _, _, _, (hx _).mp h, rfl, by simp⟩
        | panics hbody' hunset h =>
            obtain ⟨rfl, rfl⟩ := hsame hbody' hunset
            exact .inr ⟨_, _, _, (hx _).mp h, rfl⟩
        | untyped hbody' hp hpt =>
            rw [hbody] at hbody'
            cases hbody'
            rw [untyped_iff.mpr ⟨rfl, _, hp, hpt⟩] at htemps
            cases htemps
      · rintro (⟨_, _, _, _, _, _, h, hr, rfl⟩ | ⟨_, _, _, h, rfl⟩)
        · cases hr
          rw [List.append_nil]
          exact .returns hbody (unset_iff.mpr htemps) ((hx _).mpr h)
        · exact .panics hbody (unset_iff.mpr htemps) ((hx _).mpr h)

/-- **Realization is faithful to the rules.** Let a program be realized under a signature. For every
host, all arguments of the signature's parameter types and every store, the routine has the effect
that the rules give the program, and the rules give it no other: the same events, the same store at
the end, and the same outcome. -/
theorem invoke_iff_means {l : Lambda} {sig : Option Ty} {r : Routine} {ps rs : List Ty} {b : Bool}
    {args : List Value} (hreal : l.realize sig = .ok r)
    (hsig : sig.bind Ty.func? = some (ps, rs, b)) (hargs : args.map (·.type) = ps) (host : Host)
    (s : Store) (y : Effect Unit) : r.invoke host args s = y ↔ l.Means host args s y := by
  obtain ⟨body, hbody, hchk, hsteps, -⟩ := Lambda.realize_ok hreal
  have hparams : l.params.map (·.type) = args.map (some ·.type) := by
    have hl := paramTypes_of_checkSignature hchk hsig
    rw [← hargs, List.map_map] at hl
    exact hl
  rw [invoke_eq_run hreal]
  exact (means_iff hbody hparams (isOperation_of_steps hsteps) host s y).symm

end

open scoped Catalogue

/-- A word that only takes an integer, and one that yields it again. -/
def echoHost : Host :=
  Dictionary.host [.described "note" [.int] [] false .zero,
    .described "echo" [.int] [.int] false (.operand 0)]

/-- An input that is listed twice, and a temporary that is. The temporary is noted before anything
is assigned to it, and again when it holds the input. -/
def doubled : Lambda :=
  let x : Slot := ⟨0, some .int, "x"⟩
  let kept : Slot := ⟨0, some .int, "kept"⟩
  let note : Value := ⟨.func [.int] [] false, .func 0 []⟩
  let echo : Value := ⟨.func [.int] [.int] false, .func 1 []⟩
  ⟨[x, x], some ⟨[kept, kept],
    [.invoke "note" (.const (some note)) [.temp kept],
      .assign kept (.invoke "echo" (.const (some echo)) [.param x]),
      .invoke "note" (.const (some note)) [.temp kept]]⟩⟩

/-- The temporary is zero at first, and the input is the second argument. -/
theorem invoke_iff_means_doubled :
    ∃ r, doubled.realize (some (.func [.int, .int] [] false)) = .ok r ∧
      doubled.Means echoHost [⟨.int, .int 4⟩, ⟨.int, .int 5⟩] .empty
        ⟨[.called "note" [⟨.int, .int 0⟩] .empty, .called "echo" [⟨.int, .int 5⟩] .empty,
          .called "note" [⟨.int, .int 5⟩] .empty], .empty, .ok ()⟩ := by
  obtain ⟨r, hreal, hr⟩ : ∃ r, doubled.realize (some (.func [.int, .int] [] false)) = .ok r ∧
      r.invoke echoHost [⟨.int, .int 4⟩, ⟨.int, .int 5⟩] .empty =
        ⟨[.called "note" [⟨.int, .int 0⟩] .empty, .called "echo" [⟨.int, .int 5⟩] .empty,
          .called "note" [⟨.int, .int 5⟩] .empty], .empty, .ok ()⟩ := ⟨_, rfl, rfl⟩
  exact ⟨r, hreal, (invoke_iff_means hreal rfl rfl _ _ _).mp hr⟩

end Tacit
