import Tacit.Proofs.Program.Typing

/-!
# The meaning of programs

A semantics of programs as they stand, before any code is made of them.

* `Expr.eval`: an input is the argument at the last position it is listed at, a temporary what the
  frame holds at the last position it is declared at; a call evaluates its operands from left to
  right, then the func, and then calls it once. A constant out of an unexported field can be
  evaluated and converted, but neither called nor handed over nor stored.
* `Expr.exec`, `Expr.execAll`, `Lambda.run`: operations run top to bottom, on temporaries that are
  unset at first, and stop at the first panic.
* `invoke_eq_run`: a routine that was made of a program does what the program means.
-/

namespace Tacit

theorem conversionCode_isSealed (given t : Ty) (c : Code) :
    (conversionCode given t c).isSealed = c.isSealed := by
  unfold conversionCode
  split <;> rfl

variable [Declarations]

/-! ### Definitions -/

/-- The value, whose type is known to be `given`, turned into type `t`: out of the interface if
`given` is one. -/
def Value.cast (v : Value) (given t : Ty) : Run Value :=
  if given.isInterface then v.unbox given t else v.convert t

/-- The value at the last position of a slot. -/
def lastValue (s : Slot) (slots : List Slot) (vs : List Value) : Run Value :=
  match lastIndex? s slots with
  | some i => Run.ofExcept (vs[i]?.elim (.error .nilDereference) .ok)
  | none => Run.panic .nilDereference

mutual
/-- What evaluating a node does. -/
def Expr.eval (host : Host) (sc : Scope) (fr : Frame) : Expr → Run Value
  | .const (some v) | .sealed v => pure v
  | .param s => lastValue s sc.params fr.params
  | .temp s => lastValue s sc.temps fr.temps
  | .convert x target => do
    let v ← x.eval host sc fr
    match x.type, target with
    | .ok (some given), some t => v.cast given t
    | _, _ => Run.panic .nilDereference
  | .invoke _ fn operands => do
    let vs ← Expr.evalAll host sc fr operands
    let f ← fn.eval host sc fr
    match ← f.handOver host fn.isSealed (operands.any Expr.isSealed) vs with
    | v :: _ => pure v
    | [] => Run.panic .nilDereference
  | _ => Run.panic .nilDereference
/-- What evaluating operands does. -/
def Expr.evalAll (host : Host) (sc : Scope) (fr : Frame) : List Expr → Run (List Value)
  | [] => pure []
  | e :: es => do
    let v ← e.eval host sc fr
    return v :: (← Expr.evalAll host sc fr es)
end

/-- What carrying an operation out does. -/
def Expr.exec (host : Host) (sc : Scope) (fr : Frame) : Expr → Run Frame
  | .assign dst src => do
    let v ← src.eval host sc fr
    match lastIndex? dst sc.temps with
    | some i => if src.isSealed then Run.panic .sealedStore else Run.ofExcept (fr.store i v)
    | none => Run.panic .nilDereference
  | .invoke _ fn operands => do
    let vs ← Expr.evalAll host sc fr operands
    let f ← fn.eval host sc fr
    let _ ← f.handOver host fn.isSealed (operands.any Expr.isSealed) vs
    return fr
  | _ => Run.panic .nilDereference

/-- What carrying operations out does. -/
def Expr.execAll (host : Host) (sc : Scope) (fr : Frame) : List Expr → Run Frame
  | [] => pure fr
  | e :: es => do Expr.execAll host sc (← e.exec host sc fr) es

/-- What a program does with arguments. -/
def Lambda.run (host : Host) (l : Lambda) (args : List Value) : Run Unit :=
  match l.body with
  | some body => do
    let temps ← Run.ofExcept ((body.temps.map (·.type)).mapM unsetTemp)
    let _ ← Expr.execAll host ⟨l.params, body.temps⟩ ⟨args, temps⟩ body.ops
    return ()
  | none => Run.panic .nilDereference

theorem Lambda.run_eq {l : Lambda} {body : Block} {temps : List Value} (hbody : l.body = some body)
    (htemps : (body.temps.map (·.type)).mapM unsetTemp = .ok temps) (host : Host)
    (args : List Value) : l.run host args =
      Expr.execAll host ⟨l.params, body.temps⟩ ⟨args, temps⟩ body.ops >>= fun _ => pure () := by
  rw [Lambda.run, hbody]
  simp only [htemps, Run.ofExcept_ok, pure_bind]

theorem Lambda.run_untyped {l : Lambda} {body : Block} {q : Panic} (hbody : l.body = some body)
    (htemps : (body.temps.map (·.type)).mapM unsetTemp = .error q) (host : Host)
    (args : List Value) : l.run host args = Run.panic q := by
  rw [Lambda.run, hbody]
  simp only [htemps]
  rfl

/-! ### Routines do what programs mean -/

theorem conversionCode_eval (host : Host) (fr : Frame) (given t : Ty) (c : Code) :
    (conversionCode given t c).eval host fr = c.eval host fr >>= fun v => v.cast given t := by
  unfold conversionCode Value.cast
  split <;> simp [Code.eval]

/-- The code of a node yields a sealed value if the node does. -/
theorem code_isSealed {sc : Scope} : ∀ {e : Expr} {c : Code},
    e.code sc = .ok c → c.isSealed = e.isSealed
  | .missing, _, h | .const none, _, h | .assign _ _, _, h | .block _ _, _, h => by
      simp [Expr.code] at h
  | .const (some _), _, h | .sealed _, _, h => by
      cases Check.pure_eq_ok.mp h
      rfl
  | .param s, _, h | .temp s, _, h => by
      simp only [Expr.code, Check.bind_eq_ok, Check.pure_eq_ok] at h
      obtain ⟨i, -, rfl⟩ := h
      rfl
  | .convert x target, _, h => by
      simp only [Expr.code, Check.bind_eq_ok, Check.pure_eq_ok] at h
      obtain ⟨⟨given, t⟩, -, cx, hx, rfl⟩ := h
      rw [conversionCode_isSealed, code_isSealed hx, Expr.isSealed]
  | .invoke name fn operands, _, h => by
      simp only [Expr.code, Check.bind_eq_ok] at h
      obtain ⟨r, -, h⟩ := h
      split at h
      · simp at h
      · simp only [Check.bind_eq_ok, Check.pure_eq_ok] at h
        obtain ⟨ps, -, f, -, cs, -, rfl⟩ := h
        rfl

theorem operandCodes_isSealed {sc : Scope} {name : String} : ∀ {i : Nat} {ts : List Ty}
    {es : List Expr} {cs : List Code}, ts.length = es.length →
      Expr.operandCodes sc name i ts es = .ok cs → cs.any Code.isSealed = es.any Expr.isSealed
  | _, [], [], _, _, h => by
      simp only [Expr.operandCodes, Check.pure_eq_ok] at h
      rw [← h, List.any_nil, List.any_nil]
  | _, _ :: _, [], _, hlen, _ | _, [], _ :: _, _, hlen, _ => by simp at hlen
  | _, t :: ts, e :: es, _, hlen, h => by
      simp only [Expr.operandCodes, Check.bind_eq_ok, Check.pure_eq_ok] at h
      obtain ⟨-, -, c, hc, cs, hcs, rfl⟩ := h
      rw [List.any_cons, List.any_cons, code_isSealed hc,
        operandCodes_isSealed (by simpa using hlen) hcs]

mutual
/-- The code of a node does what the node means. -/
theorem code_eval (host : Host) {sc : Scope} (fr : Frame) : ∀ {e : Expr} {c : Code},
    e.code sc = .ok c → c.eval host fr = e.eval host sc fr
  | .missing, _, h | .const none, _, h | .assign _ _, _, h | .block _ _, _, h => by
      simp [Expr.code] at h
  | .const (some v), _, h | .sealed v, _, h => by
      cases Check.pure_eq_ok.mp h
      rw [Code.eval, Expr.eval]
  | .param s, _, h => by
      simp only [Expr.code, Check.bind_eq_ok, Check.pure_eq_ok] at h
      obtain ⟨i, hi, rfl⟩ := h
      rw [Code.eval, Expr.eval, lastValue, Scope.param_ok hi]
  | .temp s, _, h => by
      simp only [Expr.code, Check.bind_eq_ok, Check.pure_eq_ok] at h
      obtain ⟨i, hi, rfl⟩ := h
      rw [Code.eval, Expr.eval, lastValue, Scope.temp_ok hi]
  | .convert x target, _, h => by
      simp only [Expr.code, Check.bind_eq_ok, Check.pure_eq_ok] at h
      obtain ⟨⟨given, t⟩, hc, cx, hx, rfl⟩ := h
      obtain ⟨hg, rfl, -⟩ := conversionTypes_ok hc
      rw [conversionCode_eval, code_eval host fr hx, Expr.eval, hg]
  | .invoke name fn operands, _, h => by
      simp only [Expr.code, Check.bind_eq_ok] at h
      obtain ⟨r, -, h⟩ := h
      split at h
      · simp at h
      · simp only [Check.bind_eq_ok, Check.pure_eq_ok] at h
        obtain ⟨ps, hps, f, hf, cs, hcs, rfl⟩ := h
        obtain ⟨-, -, -, -, -, hlen⟩ := callParams_ok hps
        have hvs := operandCodes_eval host fr hlen hcs
        have hfn := code_eval host fr hf
        rw [Code.eval, Expr.eval, code_isSealed hf, operandCodes_isSealed hlen hcs]
        exact congrArg₂ (fun (values : Run (List Value)) (func : Run Value) => do
          let vs ← values
          let f ← func
          match ← f.handOver host fn.isSealed (operands.any Expr.isSealed) vs with
          | v :: _ => pure v
          | [] => Run.panic .nilDereference) hvs hfn
/-- The codes of operands do what the operands mean. -/
theorem operandCodes_eval (host : Host) {sc : Scope} (fr : Frame) {name : String} :
    ∀ {i : Nat} {ts : List Ty} {es : List Expr} {cs : List Code}, ts.length = es.length →
      Expr.operandCodes sc name i ts es = .ok cs →
      Code.evalAll host fr cs = Expr.evalAll host sc fr es
  | _, [], [], _, _, h => by
      simp only [Expr.operandCodes, Check.pure_eq_ok] at h
      rw [← h, Code.evalAll, Expr.evalAll]
  | _, _ :: _, [], _, hlen, _ | _, [], _ :: _, _, hlen, _ => by simp at hlen
  | _, t :: ts, e :: es, _, hlen, h => by
      simp only [Expr.operandCodes, Check.bind_eq_ok, Check.pure_eq_ok] at h
      obtain ⟨-, -, c, hc, cs, hcs, rfl⟩ := h
      rw [Code.evalAll, Expr.evalAll, code_eval host fr hc,
        operandCodes_eval host fr (by simpa using hlen) hcs]
end

/-- A step does what the operation it was made of means. -/
theorem step_exec (host : Host) {sc : Scope} (fr : Frame) {e : Expr} {st : Step}
    (h : e.step sc = .ok st) : st.exec host fr = e.exec host sc fr := by
  cases e with
  | assign dst src =>
      simp only [Expr.step, Check.bind_eq_ok, Check.pure_eq_ok] at h
      obtain ⟨i, hi, -, -, c, hc, rfl⟩ := h
      rw [Step.exec, Expr.exec, Scope.temp_ok hi, code_eval host fr hc, code_isSealed hc]
  | invoke name fn operands =>
      simp only [Expr.step, Check.bind_eq_ok, Check.pure_eq_ok] at h
      obtain ⟨ps, hps, f, hf, cs, hcs, rfl⟩ := h
      obtain ⟨-, -, -, -, -, hlen⟩ := callParams_ok hps
      rw [Step.exec, Expr.exec, code_eval host fr hf, operandCodes_eval host fr hlen hcs,
        code_isSealed hf, operandCodes_isSealed hlen hcs]
  | missing | const | sealed | param | temp | convert | block => simp [Expr.step] at h

theorem steps_execAll (host : Host) {sc : Scope} : ∀ {i : Nat} {es : List Expr} {sts : List Step}
    (fr : Frame), Expr.steps sc i es = .ok sts →
      Step.execAll host fr sts = Expr.execAll host sc fr es
  | _, [], _, fr, h => by
      simp only [Expr.steps, Check.pure_eq_ok] at h
      rw [← h, Step.execAll, Expr.execAll]
  | _, e :: es, _, fr, h => by
      simp only [Expr.steps, Check.bind_eq_ok, Check.inside_eq_ok, Check.pure_eq_ok] at h
      obtain ⟨st, hst, sts, hsts, rfl⟩ := h
      rw [Step.execAll, Expr.execAll, step_exec host fr hst]
      exact bind_congr fun fr' => steps_execAll host fr' hsts

/-- What a realization that succeeds was given and made. -/
theorem Lambda.realize_ok {l : Lambda} {sig : Option Ty} {r : Routine}
    (h : l.realize sig = .ok r) : ∃ body, l.body = some body ∧ l.checkSignature sig = .ok r.type ∧
      Expr.steps ⟨l.params, body.temps⟩ 0 body.ops = .ok r.steps ∧
      r.temps = body.temps.map (·.type) := by
  unfold Lambda.realize at h
  split at h
  · simp at h
  · rename_i body hbody
    simp only [Check.bind_eq_ok, Check.pure_eq_ok] at h
    obtain ⟨t, ht, sts, hsts, rfl⟩ := h
    exact ⟨body, hbody, ht, hsts, rfl⟩

/-- **A routine does what its program means.** -/
theorem invoke_eq_run {l : Lambda} {sig : Option Ty} {r : Routine} (h : l.realize sig = .ok r)
    (host : Host) (args : List Value) : r.invoke host args = l.run host args := by
  obtain ⟨body, hbody, -, hsteps, htemps⟩ := Lambda.realize_ok h
  unfold Routine.invoke Lambda.run
  rw [hbody, htemps]
  refine bind_congr fun temps => ?_
  rw [steps_execAll host ⟨args, temps⟩ hsteps]

end Tacit
