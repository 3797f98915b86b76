import Mathlib.Data.List.Forall2
import Tacit.Catalogue
import Tacit.Proofs.Program.Relocation
import Tacit.Proofs.Program.Soundness
import Tacit.Word.Dictionary

/-!
# Invocations one after another

No invocation of a program notices those before it, if the words that it calls write only to cells
that are their own.

* `Host.Confined host base code`: a call of the code changes no cell that is there, and does not
  depend on where the cells behind the first `base` are.
* `eval_moves`, `run_moves`: if all words are confined, what a program does can be relocated.
* `run_congr`: what a program does depends only on the words that it calls.
* `invocations_independent`: each of any number of invocations does what it would have done first.
-/

namespace Tacit

/-! ### Words that write only to their own cells -/

/-- Calls of the code change no cell that is there before, and do not depend on where the cells
behind the first `base` are, nor on cells that nothing they are given leads to. -/
structure Host.Confined (host : Host) (base code : Nat) : Prop where
  keeps : ∀ captured operands s, base ≤ s.cells.length →
    s.cells <+: (host.call code captured operands s).store.cells
  relocates : ∀ g : Relocation, g.base = base → ∀ captured operands s, base ≤ s.cells.length →
    host.call code (captured.map (Data.rename g.addr)) (operands.map (Data.rename g.addr))
      (g.store s) = g.effect (List.map (Data.rename g.addr)) (host.call code captured operands s)

theorem Host.Confined.moves {host : Host} {g : Relocation} {code : Nat}
    (h : host.Confined g.base code) (captured operands : List Data) :
    g.Moves (List.map (Data.rename g.addr)) (host.call code captured operands)
      (host.call code (captured.map (Data.rename g.addr)) (operands.map (Data.rename g.addr))) :=
  ⟨h.keeps captured operands, h.relocates g rfl captured operands⟩

/-- A host that runs no func confines all of them. -/
theorem Host.confined_closed (host : Host) (base code : Nat) : host.closed.Confined base code :=
  ⟨fun _ _ _ _ => List.prefix_refl _, fun _ _ _ _ _ _ => rfl⟩

/-! ### The constants of a program -/

mutual
/-- The constants in a node. -/
def Expr.consts : Expr → List Value
  | .const v => v.toList
  | .sealed v => [v]
  | .convert x _ => x.consts
  | .invoke _ fn operands => fn.consts ++ Expr.constsAll operands
  | .assign _ src => src.consts
  | .block _ ops => Expr.constsAll ops
  | _ => []
/-- The constants in nodes. -/
def Expr.constsAll : List Expr → List Value
  | [] => []
  | e :: es => e.consts ++ Expr.constsAll es
end

/-- The constants in a program. -/
def Lambda.consts (l : Lambda) : List Value :=
  match l.body with
  | some body => Expr.constsAll body.ops
  | none => []

namespace Relocation

variable {g : Relocation} {host : Host}

theorem zipWith_mk_rename (σ : Addr → Addr) (ts : List Ty) (ds : List Data) :
    ts.zipWith Value.mk (ds.map (Data.rename σ)) =
      (ts.zipWith Value.mk ds).map (Value.rename σ) := by
  rw [List.zipWith_map_right, List.map_zipWith]
  rfl

theorem lastValue_moves (s : Slot) (slots : List Slot) (vs : List Value) :
    g.Moves (Value.rename g.addr) (lastValue s slots vs)
      (lastValue s slots (vs.map (Value.rename g.addr))) := by
  unfold lastValue
  cases lastIndex? s slots with
  | none => exact moves_panic _ _
  | some i =>
      simp only [List.getElem?_map]
      cases vs[i]? with
      | none => exact moves_panic _ _
      | some v => exact moves_pure v

variable [Declarations]

/-! ### Calls -/

theorem bindOperand_rename (σ : Addr → Addr) (mismatch : Ty → Ty → Panic) (v : Value) (t : Ty) :
    bindOperand mismatch (v.rename σ) t = (bindOperand mismatch v t).map (Data.rename σ) := by
  unfold bindOperand
  rw [rename_stored, show (v.rename σ).type = v.type from rfl]
  split <;> rfl

theorem bindOperands_rename (σ : Addr → Addr) : ∀ (vs : List Value) (ts : List Ty),
    bindOperands (vs.map (Value.rename σ)) ts =
      (bindOperands vs ts).map (List.map (Data.rename σ))
  | v :: vs, t :: ts => by
      rw [List.map_cons, bindOperands, bindOperands, bindOperand_rename,
        bindOperands_rename σ vs ts]
      cases bindOperand .operandType v t with
      | error p => rfl
      | ok d => cases bindOperands vs ts <;> rfl
  | [], _ :: _ | _ :: _, [] | [], [] => rfl

theorem mapM_bindOperand_rename (σ : Addr → Addr) (mismatch : Ty → Ty → Panic) (t : Ty) :
    ∀ vs : List Value, (vs.map (Value.rename σ)).mapM (bindOperand mismatch · t) =
      (vs.mapM (bindOperand mismatch · t)).map (List.map (Data.rename σ))
  | [] => rfl
  | v :: vs => by
      rw [List.map_cons, List.mapM_cons, List.mapM_cons, bindOperand_rename,
        mapM_bindOperand_rename σ mismatch t vs]
      cases bindOperand mismatch v t with
      | error p => rfl
      | ok d => cases vs.mapM (bindOperand mismatch · t) <;> rfl

theorem bindVariadic_moves (vs : List Value) (fixed : List Ty) (rest : Ty) :
    g.Moves (List.map (Data.rename g.addr)) (bindVariadic vs fixed rest)
      (bindVariadic (vs.map (Value.rename g.addr)) fixed rest) := by
  unfold bindVariadic
  rw [List.length_map]
  split
  · exact moves_panic _ _
  · simp only [← List.map_take, ← List.map_drop, bindOperands_rename, mapM_bindOperand_rename]
    refine (moves_ofExcept _ _).bind fun front => (moves_ofExcept _ _).bind fun items => ?_
    refine (moves_allocate _).bind fun cell => moves_pure_of_eq ?_
    rw [List.map_append, List.map_singleton, Data.rename]

/-- **A call.** -/
theorem call_moves (hhost : ∀ code, host.Confined g.base code) (f : Value) (vs : List Value) :
    g.Moves (List.map (Value.rename g.addr)) (f.call host vs)
      ((f.rename g.addr).call host (vs.map (Value.rename g.addr))) := by
  obtain ⟨t, d⟩ := f
  unfold Value.call
  simp only [Value.rename]
  cases ht : t.func? with
  | none => exact moves_panic _ _
  | some sig =>
      obtain ⟨ps, rs, variadic⟩ := sig
      cases d with
      | func code captured =>
          simp only [Data.rename, Data.renameAll_eq_map]
          have hcall : ∀ ds, g.Moves (List.map (Value.rename g.addr))
              (host.call code captured ds >>= fun results => pure (rs.zipWith Value.mk results))
              (host.call code (captured.map (Data.rename g.addr)) (ds.map (Data.rename g.addr)) >>=
                fun results => pure (rs.zipWith Value.mk results)) := by
            intro ds
            refine ((hhost code).moves captured ds).bind fun results => ?_
            exact moves_pure_of_eq (zipWith_mk_rename g.addr rs results).symm
          split
          · exact (bindVariadic_moves vs _ _).bind hcall
          · rw [bindOperands_rename]
            exact (moves_ofExcept _ _).bind hcall
      | _ => exact moves_panic _ _

theorem handOver_moves (hhost : ∀ code, host.Confined g.base code) (b c : Bool) (f : Value)
    (vs : List Value) :
    g.Moves (List.map (Value.rename g.addr)) (f.handOver host b c vs)
      ((f.rename g.addr).handOver host b c (vs.map (Value.rename g.addr))) := by
  unfold Value.handOver
  split
  · exact moves_panic _ _
  · refine call_moves (fun code => ?_) f vs
    split
    · exact host.confined_closed g.base code
    · exact hhost code

/-! ### Programs -/

mutual
/-- **A node**, whose constants stay where they are. -/
theorem eval_moves (hhost : ∀ code, host.Confined g.base code) (sc : Scope) (fr : Frame) :
    ∀ e : Expr, (∀ v ∈ e.consts, v.rename g.addr = v) →
    g.Moves (Value.rename g.addr) (e.eval host sc fr) (e.eval host sc (fr.rename g.addr))
  | .const (some v), h | .sealed v, h => by
      rw [Expr.eval, Expr.eval]
      exact moves_pure_of_eq (h v (by simp [Expr.consts]))
  | .param s, _ => by
      rw [Expr.eval, Expr.eval]
      exact lastValue_moves s sc.params fr.params
  | .temp s, _ => by
      rw [Expr.eval, Expr.eval]
      exact lastValue_moves s sc.temps fr.temps
  | .convert x target, h => by
      rw [Expr.eval, Expr.eval]
      refine (eval_moves hhost sc fr x (by simpa [Expr.consts] using h)).bind fun v => ?_
      split
      · exact cast_moves v _ _
      · exact moves_panic _ _
  | .invoke name fn operands, h => by
      simp only [Expr.consts, List.forall_mem_append] at h
      rw [Expr.eval, Expr.eval]
      refine (evalAll_moves hhost sc fr operands h.2).bind fun vs => ?_
      refine (eval_moves hhost sc fr fn h.1).bind fun f => ?_
      refine (handOver_moves hhost _ _ f vs).bind fun ws => ?_
      cases ws with
      | nil => exact moves_panic _ _
      | cons w ws => exact moves_pure w
  | .missing, _ | .const none, _ | .assign _ _, _ | .block _ _, _ => by
      simp only [Expr.eval]
      exact moves_panic _ _
theorem evalAll_moves (hhost : ∀ code, host.Confined g.base code) (sc : Scope) (fr : Frame) :
    ∀ es : List Expr, (∀ v ∈ Expr.constsAll es, v.rename g.addr = v) →
    g.Moves (List.map (Value.rename g.addr)) (Expr.evalAll host sc fr es)
      (Expr.evalAll host sc (fr.rename g.addr) es)
  | [], _ => by
      rw [Expr.evalAll, Expr.evalAll]
      exact moves_pure []
  | e :: es, h => by
      simp only [Expr.constsAll, List.forall_mem_append] at h
      rw [Expr.evalAll, Expr.evalAll]
      refine (eval_moves hhost sc fr e h.1).bind fun v => ?_
      exact (evalAll_moves hhost sc fr es h.2).bind fun vs => moves_pure _
end

theorem store_rename (σ : Addr → Addr) (fr : Frame) (i : Nat) (v : Value) :
    (fr.rename σ).store i (v.rename σ) = (fr.store i v).map (Frame.rename σ) := by
  simp only [Frame.store, Frame.rename, List.getElem?_map]
  cases fr.temps[i]? with
  | none => rfl
  | some old =>
      by_cases h : v.type.assignable old.type = true
      · simp [Value.rename, h, Except.map, Frame.rename, ← rename_stored, List.map_set]
      · simp [Value.rename, h, Except.map]

/-- **An operation.** -/
theorem exec_moves (hhost : ∀ code, host.Confined g.base code) (sc : Scope) (fr : Frame) (e : Expr)
    (h : ∀ v ∈ e.consts, v.rename g.addr = v) :
    g.Moves (Frame.rename g.addr) (e.exec host sc fr) (e.exec host sc (fr.rename g.addr)) := by
  cases e with
  | assign dst src =>
      rw [Expr.consts] at h
      rw [Expr.exec, Expr.exec]
      refine (eval_moves hhost sc fr src h).bind fun v => ?_
      split
      · split
        · exact moves_panic _ _
        · rw [store_rename]
          exact moves_ofExcept _ _
      · exact moves_panic _ _
  | invoke name fn operands =>
      simp only [Expr.consts, List.forall_mem_append] at h
      rw [Expr.exec, Expr.exec]
      refine (evalAll_moves hhost sc fr operands h.2).bind fun vs => ?_
      refine (eval_moves hhost sc fr fn h.1).bind fun f => ?_
      exact (handOver_moves hhost _ _ f vs).bind fun _ => moves_pure fr
  | _ => exact moves_panic _ _

/-- **All operations.** -/
theorem execAll_moves (hhost : ∀ code, host.Confined g.base code) (sc : Scope) :
    ∀ (es : List Expr) (fr : Frame), (∀ v ∈ Expr.constsAll es, v.rename g.addr = v) →
    g.Moves (Frame.rename g.addr) (Expr.execAll host sc fr es)
      (Expr.execAll host sc (fr.rename g.addr) es)
  | [], fr, _ => moves_pure fr
  | e :: es, fr, h => by
      simp only [Expr.constsAll, List.forall_mem_append] at h
      rw [Expr.execAll, Expr.execAll]
      exact (exec_moves hhost sc fr e h.1).bind fun fr' => execAll_moves hhost sc es fr' h.2

theorem unsetTemps_rename (σ : Addr → Addr) : ∀ {ts : List (Option Ty)} {vs : List Value},
    ts.mapM unsetTemp = .ok vs → vs.map (Value.rename σ) = vs
  | [], vs, h => by
      cases h
      rfl
  | none :: ts, vs, h => by cases h
  | some t :: ts, vs, h => by
      rw [List.mapM_cons] at h
      cases hts : ts.mapM unsetTemp with
      | error p => rw [hts] at h; cases h
      | ok ws =>
          rw [hts] at h
          cases h
          rw [List.map_cons, unsetTemps_rename σ hts]
          exact congrArg (⟨t, ·⟩ :: ws) (Ty.rename_zero σ t)

/-- **A program** whose constants stay where they are, on arguments that do. -/
theorem run_moves (hhost : ∀ code, host.Confined g.base code) {l : Lambda} {args : List Value}
    (hconsts : ∀ v ∈ l.consts, v.rename g.addr = v)
    (hargs : ∀ v ∈ args, v.rename g.addr = v) :
    g.Moves id (l.run host args) (l.run host args) := by
  cases hbody : l.body with
  | none =>
      rw [Lambda.run, hbody]
      exact moves_panic _ _
  | some body =>
      simp only [Lambda.consts, hbody] at hconsts
      cases htemps : (body.temps.map (·.type)).mapM unsetTemp with
      | error p =>
          rw [Lambda.run_untyped hbody htemps]
          exact moves_panic _ _
      | ok temps =>
          have hframe : Frame.rename g.addr ⟨args, temps⟩ = ⟨args, temps⟩ := by
            rw [Frame.rename, unsetTemps_rename g.addr htemps, List.map_congr_left hargs,
              List.map_id']
          have hops := execAll_moves hhost ⟨l.params, body.temps⟩ body.ops ⟨args, temps⟩ hconsts
          rw [hframe] at hops
          rw [Lambda.run_eq hbody htemps]
          exact hops.bind fun _ => moves_pure ()

end Relocation

/-! ### Words that are not called -/

/-- The two hosts do the same with the func. -/
def Host.AgreeOn (host host' : Host) (f : Value) : Prop :=
  ∀ code captured, f.data = .func code captured → host.call code = host'.call code

section

variable {host host' : Host} {sc : Scope} {fr : Frame}

variable [Declarations]

theorem Host.AgreeOn.call {f : Value} (h : host.AgreeOn host' f) (vs : List Value) :
    f.call host vs = f.call host' vs := by
  obtain ⟨t, d⟩ := f
  unfold Value.call
  cases t.func? with
  | none => rfl
  | some sig =>
      cases d with
      | func code captured => simp only [h code captured rfl]
      | _ => rfl

theorem Host.AgreeOn.handOver {f : Value} (h : host.AgreeOn host' f) (b c : Bool)
    (vs : List Value) : f.handOver host b c vs = f.handOver host' b c vs := by
  have hclosed : host.closed.AgreeOn host'.closed f := fun _ _ _ => rfl
  unfold Value.handOver
  split
  · rfl
  · split
    · exact hclosed.call vs
    · exact h.call vs

theorem duringCall_congr {α : Type} {b c : Bool} {operands operands' : Run (List Value)}
    {fn fn' : Run Value} {inOperands inFn : Store → Store → Act → Prop} {s : Store}
    {k : List Value → Run α}
    (h : ∀ s' f vs, Expr.DuringCall (b || c) operands fn inOperands inFn s s' (.call f vs) →
      host.AgreeOn host' f)
    (hoperands : (∀ s' f vs, inOperands s s' (.call f vs) → host.AgreeOn host' f) →
      operands s = operands' s)
    (hfn : ∀ s₁, (∀ s' f vs, inFn s₁ s' (.call f vs) → host.AgreeOn host' f) → fn s₁ = fn' s₁) :
    (operands >>= fun vs => fn >>= fun f => f.handOver host b c vs >>= k) s =
      (operands' >>= fun vs => fn' >>= fun f => f.handOver host' b c vs >>= k) s := by
  refine Run.bind_congr_at (hoperands fun s' f vs hr => h s' f vs (.inl hr)) fun vs s₁ hvs => ?_
  refine Run.bind_congr_at (hfn s₁ fun s' f ws hr => h s' f ws (.inr ⟨vs, s₁, hvs, .inl hr⟩))
    fun f s₂ hf => ?_
  rw [(h s₂ f vs (.inr ⟨vs, s₁, hvs, .inr ⟨f, hf, .inl rfl⟩⟩)).handOver]

mutual
theorem eval_congr : ∀ (e : Expr) (s : Store),
    (∀ s' f vs, e.Reaches host sc fr s s' (.call f vs) → host.AgreeOn host' f) →
    e.eval host sc fr s = e.eval host' sc fr s
  | .convert x target, s, h => by
      rw [Expr.eval, Expr.eval]
      refine Run.bind_congr_at (eval_congr x s fun s' f vs hr => h s' f vs ?_) fun _ _ _ => rfl
      rw [Expr.Reaches]
      exact .inr (.inl hr)
  | .invoke name fn operands, s, h => by
      rw [Expr.eval, Expr.eval]
      refine duringCall_congr (fun s' f vs hr => h s' f vs ?_) (evalAll_congr operands s)
        (eval_congr fn)
      rw [Expr.Reaches]
      exact .inr hr
  | .const (some _), _, _ | .const none, _, _ | .sealed _, _, _ | .param _, _, _ | .temp _, _, _
  | .missing, _, _ | .assign _ _, _, _ | .block _ _, _, _ => by simp only [Expr.eval]
theorem evalAll_congr : ∀ (es : List Expr) (s : Store),
    (∀ s' f vs, Expr.ReachesAny host sc fr es s s' (.call f vs) → host.AgreeOn host' f) →
    Expr.evalAll host sc fr es s = Expr.evalAll host' sc fr es s
  | [], _, _ => by rw [Expr.evalAll, Expr.evalAll]
  | e :: es, s, h => by
      simp only [Expr.ReachesAny] at h
      rw [Expr.evalAll, Expr.evalAll]
      refine Run.bind_congr_at (eval_congr e s fun s' f vs hr => h s' f vs (.inl hr))
        fun v s₁ hv => ?_
      refine Run.bind_congr_at (evalAll_congr es s₁ fun s' f vs hr => ?_) fun _ _ _ => rfl
      exact h s' f vs (.inr ⟨v, s₁, hv, hr⟩)
end

theorem exec_congr {e : Expr} {s : Store}
    (h : ∀ s' f vs, e.StepReaches host sc fr s s' (.call f vs) → host.AgreeOn host' f) :
    e.exec host sc fr s = e.exec host' sc fr s := by
  cases e with
  | assign dst src =>
      rw [Expr.exec, Expr.exec]
      exact Run.bind_congr_at (eval_congr src s fun s' f vs hr => h s' f vs (.inl hr))
        fun _ _ _ => rfl
  | invoke name fn operands =>
      rw [Expr.exec, Expr.exec]
      exact duringCall_congr h (evalAll_congr operands s) (eval_congr fn)
  | _ => rfl

theorem execAll_congr : ∀ (es : List Expr) (fr : Frame) (s : Store),
    (∀ pt f vs, Expr.StepsReach host sc pt fr es s → pt.act = .call f vs → host.AgreeOn host' f) →
    Expr.execAll host sc fr es s = Expr.execAll host' sc fr es s
  | [], _, _, _ => rfl
  | e :: es, fr, s, h => by
      simp only [Expr.StepsReach] at h
      rw [Expr.execAll, Expr.execAll]
      have he : e.exec host sc fr s = e.exec host' sc fr s :=
        exec_congr fun s' f vs hr => h ⟨fr, s', .call f vs⟩ f vs (.inl ⟨rfl, hr⟩) rfl
      refine Run.bind_congr_at he fun fr' s' hfr => ?_
      exact execAll_congr es fr' s' fun pt f vs hr => h pt f vs (.inr ⟨fr', s', hfr, hr⟩)

/-- **What a program does depends only on the words that it calls.** -/
theorem run_congr {l : Lambda} {args : List Value} {s : Store}
    (h : ∀ pt f vs, l.Reaches host args s pt → pt.act = .call f vs → host.AgreeOn host' f) :
    l.run host args s = l.run host' args s := by
  cases hbody : l.body with
  | none => rw [Lambda.run, Lambda.run, hbody]
  | some body =>
      cases htemps : (body.temps.map (·.type)).mapM unsetTemp with
      | error p => rw [Lambda.run_untyped hbody htemps, Lambda.run_untyped hbody htemps]
      | ok temps =>
          rw [Lambda.run_eq hbody htemps, Lambda.run_eq hbody htemps]
          refine Run.bind_congr_at (execAll_congr body.ops _ s fun pt f vs hr => ?_)
            fun _ _ _ => rfl
          exact h pt f vs ⟨body, temps, hbody, htemps, hr⟩

end

/-- Every host agrees, on the words that are confined, with a host all of whose words are: one on
which the others only panic. -/
theorem Host.exists_confined (host : Host) (base : Nat) : ∃ host' : Host,
    (∀ code, host'.Confined base code) ∧
      ∀ code, host.Confined base code → host.call code = host'.call code := by
  classical
  refine ⟨⟨fun code => if host.Confined base code then host.call code else
    fun _ _ => Run.panic .nilCall, host.symbol⟩, fun code => ?_, fun code h => ?_⟩
  · by_cases h : host.Confined base code
    · refine ⟨?_, ?_⟩
      · simpa only [if_pos h] using h.keeps
      · simpa only [if_pos h] using h.relocates
    · refine ⟨?_, ?_⟩
      · intro captured operands s _
        simp only [if_neg h]
        exact List.prefix_rfl
      · intro g _ captured operands s _
        simp only [if_neg h]
        rfl
  · simp only [if_pos h]

/-! ### Invocations one after another -/

section

variable [Declarations]

/-- Every func that an invocation with `args` from `s` calls has a code with the property. -/
def Lambda.CallsOnly (host : Host) (l : Lambda) (args : List Value) (s : Store) (P : Nat → Prop) :
    Prop :=
  ∀ pt f vs code captured, l.Reaches host args s pt → pt.act = .call f vs →
    f.data = .func code captured → P code

/-- Invokes the routine with one list of arguments after the other. Each invocation starts from the
store that the one before has left, also if that one panicked. -/
def Routine.invokeAll (host : Host) (r : Routine) : List (List Value) → Store → List (Effect Unit)
  | [], _ => []
  | args :: runs, s =>
    let e := r.invoke host args s
    e :: r.invokeAll host runs e.store

variable {l : Lambda} {sig : Option Ty} {r : Routine} {host : Host} {s : Store}

/-- **One invocation**, from a store to which other cells were added. -/
theorem invoke_relocated (hreal : l.realize sig = .ok r) (hs : s.Closed)
    (hconsts : ∀ v ∈ l.consts, ∀ a ∈ v.data.addrs, a < s.cells.length) {args : List Value}
    (hargs : ∀ v ∈ args, ∀ a ∈ v.data.addrs, a < s.cells.length)
    (hwords : ∀ t : Store, s.cells <+: t.cells →
      l.CallsOnly host args t (host.Confined s.cells.length)) (extra : List Cell) :
    r.invoke host args ⟨s.cells ++ extra⟩ =
        Relocation.effect ⟨s.cells.length, extra⟩ id (r.invoke host args s) ∧
      s.cells ++ extra <+: (r.invoke host args ⟨s.cells ++ extra⟩).store.cells := by
  -- the words that are not called may do anything, so they are replaced by words that are confined
  obtain ⟨host', hconfined, hsame⟩ := host.exists_confined s.cells.length
  have hrun : ∀ t : Store, s.cells <+: t.cells → r.invoke host args t = l.run host' args t := by
    intro t ht
    rw [invoke_eq_run hreal]
    exact run_congr fun pt f vs hr hact code captured hd =>
      hsame code (hwords t ht pt f vs code captured hr hact hd)
  have hstay : ∀ v : Value, (∀ a ∈ v.data.addrs, a < s.cells.length) →
      v.rename (Relocation.addr ⟨s.cells.length, extra⟩) = v := fun v hv =>
    v.rename_eq_self fun a ha => Relocation.addr_of_lt (hv a ha)
  have hmoves : Relocation.Moves ⟨s.cells.length, extra⟩ id (l.run host' args)
      (l.run host' args) :=
    Relocation.run_moves hconfined (fun v hv => hstay v (hconsts v hv))
      fun v hv => hstay v (hargs v hv)
  rw [hrun _ (List.prefix_append _ _), hrun s List.prefix_rfl]
  constructor
  · rw [← hmoves.moved s (Nat.le_refl _), Relocation.store_of_closed rfl hs]
  · exact hmoves.keeps _ (by simp)

/-- **All invocations**, from a store to which other cells were added. -/
theorem invokeAll_relocated (hreal : l.realize sig = .ok r) (hs : s.Closed)
    (hconsts : ∀ v ∈ l.consts, ∀ a ∈ v.data.addrs, a < s.cells.length) :
    ∀ (runs : List (List Value)) (extra : List Cell),
    (∀ args ∈ runs, ∀ v ∈ args, ∀ a ∈ v.data.addrs, a < s.cells.length) →
    (∀ args ∈ runs, ∀ t : Store, s.cells <+: t.cells →
      l.CallsOnly host args t (host.Confined s.cells.length)) →
    List.Forall₂ (fun args e => s.cells <+: e.store.cells ∧
      ∃ g : Relocation, g.base = s.cells.length ∧
        e = g.effect id (r.invoke host args s)) runs (r.invokeAll host runs ⟨s.cells ++ extra⟩)
  | [], _, _, _ => .nil
  | args :: runs, extra, hargs, hwords => by
      rw [List.forall_mem_cons] at hargs hwords
      obtain ⟨heq, new, hnew⟩ := invoke_relocated hreal hs hconsts hargs.1 hwords.1 extra
      rw [List.append_assoc] at hnew
      -- what this invocation leaves is in the way of the next, as `extra` is in the way of this one
      have htail := invokeAll_relocated hreal hs hconsts runs (extra ++ new) hargs.2 hwords.2
      rw [hnew] at htail
      refine .cons ⟨?_, ⟨s.cells.length, extra⟩, rfl, heq⟩ htail
      rw [← hnew]
      exact List.prefix_append _ _

/-- **Invocations are independent.** Let a program be realized, and let a store without dangling
addresses hold all that the program's constants and the arguments of some invocations refer to. Let
every word that these invocations call be confined. Then, when they are made one after another, each
from the store that the one before has left, returned or panicked, all cells of the first store stay
as they were, and each invocation has the events and the outcome that it would have had first. Only
the cells that it takes are found behind those that were taken before it. -/
theorem invocations_independent (hreal : l.realize sig = .ok r) (hs : s.Closed)
    (hconsts : ∀ v ∈ l.consts, ∀ a ∈ v.data.addrs, a < s.cells.length) {runs : List (List Value)}
    (hargs : ∀ args ∈ runs, ∀ v ∈ args, ∀ a ∈ v.data.addrs, a < s.cells.length)
    (hwords : ∀ args ∈ runs, ∀ t : Store, s.cells <+: t.cells →
      l.CallsOnly host args t (host.Confined s.cells.length)) :
    List.Forall₂ (fun args e => s.cells <+: e.store.cells ∧
      ∃ g : Relocation, g.base = s.cells.length ∧
        e.events = (r.invoke host args s).events.map g.event ∧
        e.store = g.store (r.invoke host args s).store ∧
        e.outcome = (r.invoke host args s).outcome) runs (r.invokeAll host runs s) := by
  have hall := invokeAll_relocated hreal hs hconsts runs [] hargs hwords
  rw [List.append_nil] at hall
  refine hall.imp ?_
  rintro args e ⟨hkept, g, hg, rfl⟩
  exact ⟨hkept, g, hg, rfl, rfl, congrFun Except.map_id _⟩

end

/-! ### Words that are described -/

namespace Relocation

variable {g : Relocation}

theorem addr_shift {n : Nat} (h : g.base ≤ n) : g.addr ∘ (· + n) = (· + g.addr n) := by
  funext a
  rw [Function.comp_apply, addr_of_le (Nat.le_trans h (Nat.le_add_left n a)), addr_of_le h,
    Nat.add_assoc]

theorem rename_shift {n : Nat} (h : g.base ≤ n) (d : Data) :
    (d.shift n).rename g.addr = d.shift (g.addr n) := by
  rw [Data.shift_eq_rename, Data.rename_rename, addr_shift h, Data.shift_eq_rename]

theorem rename_cell_shift {n : Nat} (h : g.base ≤ n) (c : Cell) :
    (c.shift n).rename g.addr = c.shift (g.addr n) := by
  cases c with
  | slots items =>
      simp only [Cell.shift, Cell.rename, Data.shiftAll_eq_renameAll, ← Data.renameAll_eq_map,
        Data.renameAll_renameAll, addr_shift h]
  | entries pairs =>
      simp only [Cell.shift, Cell.rename, List.map_map, Function.comp_def, rename_shift h]

/-- A copy is at the end of the store, wherever that is. -/
theorem copy_moves (t : Template) : g.Moves (Data.rename g.addr) t.copy t.copy := by
  refine ⟨fun s _ => List.prefix_append _ _, fun s hs => ?_⟩
  simp only [Template.copy, effect, List.map_nil, length_store hs, store_append hs, List.map_map,
    Function.comp_def, rename_cell_shift hs, rename_shift hs, Except.map]

theorem behaviour_moves [Declarations] (b : Behaviour) (results : List Ty) (operands : List Data) :
    g.Moves (List.map (Data.rename g.addr)) (b.act results operands)
      (b.act results (operands.map (Data.rename g.addr))) := by
  cases b with
  | zero =>
      refine moves_pure_of_eq ?_
      rw [List.map_map]
      exact List.map_congr_left fun t _ => t.rename_zero g.addr
  | operand i =>
      refine moves_pure_of_eq ?_
      rw [List.getElem?_map]
      cases operands[i]? <;> rfl
  | constant t => exact (copy_moves t).bind fun d => moves_pure [d]
  | raise text => exact moves_panic _ _

end Relocation

/-- **Words that are described are confined**: they write to no cell at all, or to new ones. -/
theorem Dictionary.confined_described [Declarations] {d : Dictionary}
    (hd : ∀ e ∈ d, ∃ name params results variadic b, e = .described name params results variadic b)
    (base code : Nat) : d.host.Confined base code := by
  have hmoves : ∀ (g : Relocation) (captured operands : List Data),
      g.Moves (List.map (Data.rename g.addr)) (d.host.call code captured operands)
        (d.host.call code (captured.map (Data.rename g.addr))
          (operands.map (Data.rename g.addr))) := by
    intro g captured operands
    simp only [Dictionary.host, Dictionary.call]
    cases he : d[code]? with
    | none => exact Relocation.moves_panic _ _
    | some e =>
        obtain ⟨name, params, results, variadic, b, rfl⟩ := hd e (List.mem_of_getElem? he)
        refine Relocation.Moves.bind (φ := id) ?_ fun _ =>
          Relocation.behaviour_moves b results operands
        refine Relocation.moves_read fun s _ => ?_
        rw [Relocation.zipWith_mk_rename]
        exact Relocation.moves_emit _
  refine ⟨fun captured operands s hs => (hmoves ⟨base, []⟩ captured operands).keeps s hs, ?_⟩
  rintro g rfl captured operands s hs
  exact (hmoves g captured operands).moved s hs

open scoped Catalogue

/-- A word that makes a slice, and one that only takes operands. -/
def makers : Dictionary :=
  [.described "make" [] [.slice .int] false (.constant ⟨[.slots [.int 7]], .slice 0⟩),
    .described "note" [.slice .int, .slice .int, .int] [] false .zero]

/-- A program with a slice as a constant. It has another slice made, takes its input out of an
interface, and has all three noted. -/
def collecting : Lambda :=
  let x : Slot := ⟨0, some .any, "x"⟩
  let fresh : Slot := ⟨0, some (.slice .int), "fresh"⟩
  let n : Slot := ⟨1, some .int, "n"⟩
  let make : Value := ⟨.func [] [.slice .int] false, .func 0 []⟩
  let note : Value := ⟨.func [.slice .int, .slice .int, .int] [] false, .func 1 []⟩
  let table : Value := ⟨.slice .int, .slice 0⟩
  ⟨[x], some ⟨[fresh, n],
    [.assign fresh (.invoke "make" (.const (some make)) []),
      .assign n (.convert (.param x) (some .int)),
      .invoke "note" (.const (some note)) [.const (some table), .temp fresh, .temp n]]⟩⟩

/-- The slice that is the constant. -/
def tableStore : Store := ⟨[.slots [.int 1, .int 2]]⟩

/-- Arguments for three invocations. The second has no integer to take out. -/
def threeRuns : List (List Value) :=
  [[⟨.any, .boxed .int (.int 3)⟩], [⟨.any, .boxed .string (.text [104])⟩],
    [⟨.any, .boxed .int (.int 4)⟩]]

theorem invocations_independent_collecting : ∃ r,
    collecting.realize (some (.func [.any] [] false)) = .ok r ∧
    (r.invokeAll makers.host threeRuns tableStore).map (·.outcome.toBool) = [true, false, true] ∧
    List.Forall₂ (fun args e => tableStore.cells <+: e.store.cells ∧
      ∃ g : Relocation, g.base = 1 ∧
        e.events = (r.invoke makers.host args tableStore).events.map g.event ∧
        e.store = g.store (r.invoke makers.host args tableStore).store ∧
        e.outcome = (r.invoke makers.host args tableStore).outcome) threeRuns
      (r.invokeAll makers.host threeRuns tableStore) := by
  obtain ⟨r, hreal, hr⟩ : ∃ r, collecting.realize (some (.func [.any] [] false)) = .ok r ∧
      (r.invokeAll makers.host threeRuns tableStore).map (·.outcome.toBool) =
        [true, false, true] := ⟨_, rfl, rfl⟩
  refine ⟨r, hreal, hr, invocations_independent hreal ?_ ?_ ?_ ?_⟩
  · simp [Store.Closed, tableStore, Cell.addrs, Data.addrs]
  · simp [Lambda.consts, collecting, tableStore, Expr.constsAll, Expr.consts, Data.addrs,
      Data.addrsAll]
  · simp [threeRuns, Data.addrs]
  · intro args _ t _ pt f vs code captured _ _ _
    refine Dictionary.confined_described (fun e he => ?_) _ code
    simp only [makers, List.mem_cons, List.not_mem_nil, or_false] at he
    rcases he with rfl | rfl <;> exact ⟨_, _, _, _, _, rfl⟩

end Tacit
