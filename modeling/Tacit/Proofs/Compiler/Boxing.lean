import Tacit.Catalogue
import Tacit.Proofs.Compiler.Supply
import Tacit.Proofs.Program.Assignment

/-!
# Direct and boxed operands

A literal can be pushed under its own type, or put into an interface first. The first is checked
when the program is built, the second when its content is taken out.

* `Compiler.build`: calls up to the first that is refused, and then the finishing.
* `Lambda.Calls`: the calls of funcs that an invocation comes to.
* `build_application`, `invoke_application`, `calls_application`: what the program of one literal
  and one word is checked for, does and calls, from what the literal is as an operand.
* `Machine.operand_direct`, `Machine.operand_boxed`: both ways the operand is the conversion of the
  value.
* `boxed_agrees`: what one program is refused for is what the other panics with, and otherwise they
  do the same.
-/

namespace Tacit

/-- The run is broken off, from `s`, by a mismatch of types. -/
def Run.Mismatches {α : Type} (x : Run α) (s : Store) : Prop :=
  ∃ p, x.Panics s p ∧ p.isTypeMismatch = true

theorem Run.mismatches_bind {α β : Type} {x : Run α} {f : α → Run β} {s : Store} :
    (x >>= f).Mismatches s ↔
      x.Mismatches s ∨ ∃ a s₁, x.Yields s a s₁ ∧ (f a).Mismatches s₁ := by
  constructor
  · rintro ⟨p, hp, hmismatch⟩
    rcases panics_bind.mp hp with hp | ⟨a, s₁, ha, hp⟩
    · exact .inl ⟨p, hp, hmismatch⟩
    · exact .inr ⟨a, s₁, ha, p, hp, hmismatch⟩
  · rintro (⟨p, hp, hmismatch⟩ | ⟨a, s₁, ha, p, hp, hmismatch⟩)
    · exact ⟨p, panics_bind.mpr (.inl hp), hmismatch⟩
    · exact ⟨p, panics_bind.mpr (.inr ⟨a, s₁, ha, hp⟩), hmismatch⟩

/-- What becomes of the result makes no difference to whether there is one. -/
theorem Run.mismatches_discard {α : Type} {x : Run α} {s : Store} :
    (x >>= fun _ => pure ()).Mismatches s ↔ x.Mismatches s := by
  rw [mismatches_bind, or_iff_left]
  rintro ⟨a, s₁, -, p, hp, -⟩
  exact panics_pure.mp hp

section

variable [Declarations]

/-- The program, invoked with `args` from `s`, comes to a call of `f` with `vs`, with the store
`s'`. -/
def Lambda.Calls (host : Host) (l : Lambda) (args : List Value) (s s' : Store) (f : Value)
    (vs : List Value) : Prop :=
  ∃ pt, l.Reaches host args s pt ∧ pt.store = s' ∧ pt.act = .call f vs

/-- The word never breaks off with a mismatch of types itself. -/
def Word.Clean (host : Host) (w : Word) : Prop :=
  ∀ vs s, ¬ (w.fn.call host vs).Mismatches s

/-! ### Operands -/

section

variable {v : Value} {t : Ty} {s : Store}

/-- A conversion to a type that is held by itself breaks off with a mismatch of types just if there
is no such conversion, and then at once. -/
theorem Value.convert_mismatches (ht : t.isValue = true) :
    (v.convert t).Mismatches s ↔ v.type.convertible t = false := by
  constructor
  · rintro ⟨p, hp, hmismatch⟩
    rcases (convert_panics (.inr ht)).mp hp with ⟨h, -⟩ | ⟨elem, n, -, -, -, rfl⟩
    · exact h
    · cases hmismatch
  · intro h
    exact ⟨_, (convert_panics (.inr ht)).mpr (.inl ⟨h, rfl⟩), rfl⟩

theorem Value.not_yields_convert (h : v.type.convertible t = false) {x : Value} {s' : Store} :
    ¬ (v.convert t).Yields s x s' := by
  rw [Ty.convertible, Option.isSome_eq_false_iff, Option.isNone_iff_eq_none] at h
  simp [convert, h]

/-- A value that is handed over as it is, or converted, is converted. -/
theorem Machine.operand_direct (hv : v.Proper) (hbox : v.type.isInterface = false)
    (ht : t.isValue = true) : Machine.operand v t = v.convert t := by
  unfold Machine.operand
  by_cases heq : v.type = t
  · rw [← heq, Value.convert_self hv, if_neg (by simp [Ty.needsConversion])]
  · rw [if_pos (by simp [Ty.needsConversion, heq, ht]), Value.cast, hbox, if_neg (by simp)]

/-- A value that was put into an interface is taken out of it and converted. -/
theorem Machine.operand_boxed (v : Value) (ht : t.isValue = true) (i : Interface) :
    Machine.operand ⟨.interface i, .boxed v.type v.data⟩ t = v.convert t := by
  have hne : Ty.interface i ≠ t := by
    rintro rfl
    cases ht
  unfold Machine.operand
  rw [if_pos (by simp [Ty.needsConversion, hne, ht])]
  rfl

/-- A value can be handed over for a parameter of a type that is held by itself just if it
converts. -/
theorem Ty.binds_direct {s t : Ty} (hs : s.isInterface = false) (ht : t.isValue = true) :
    s.Binds t ↔ s.convertible t = true := by
  have hcan : s.canConvert t = s.convertible t := by rw [canConvert, hs, Bool.false_or]
  by_cases heq : s = t
  · subst heq
    refine iff_of_true (.inl rfl) ?_
    rcases s.conversion?_self with hc | ⟨x, -, -, hc⟩ <;> rw [convertible, hc] <;> rfl
  · rw [binds_of_needsConversion (by simp [needsConversion, heq, ht]), hcan]

end

namespace Compiler

/-! ### Building and finishing -/

/-- Makes the calls, up to the first that is refused, and then finishes the program. -/
def build (c : Compiler) (st : Store) (sig : Option Ty) : List Call → Check Callable
  | [] => (c.finishType st sig).result
  | call :: calls => do
    let _ ← (c.perform call).result
    (c.perform call).compiler.build st sig calls

variable {settings : Settings} {st : Store} {sig : Option Ty}

theorem build_of_succeed : ∀ {calls : List Call} {c : Compiler}, c.Succeed calls →
    c.build st sig calls = ((c.performAll calls).finishType st sig).result
  | [], _, _ => rfl
  | call :: calls, c, ⟨hcall, hrest⟩ => by
      rw [build, performAll]
      cases hr : (c.perform call).result with
      | error f => rw [hr] at hcall; cases hcall
      | ok r => exact build_of_succeed hrest

theorem succeed_of_build : ∀ {calls : List Call} {c : Compiler} {fn : Callable},
    c.build st sig calls = .ok fn → c.Succeed calls
  | [], _, _, _ => trivial
  | call :: calls, c, fn, h => by
      obtain ⟨r, hr, h⟩ := Check.bind_eq_ok.mp h
      exact ⟨by rw [hr]; rfl, succeed_of_build h⟩

/-- What was built runs the program that was assembled. -/
theorem run_of_build (hreal : settings.realizer = routineRealizer) {calls : List Call}
    {fn : Callable} (h : (new settings).build st sig calls = .ok fn) (host : Host)
    (args : List Value) :
    fn.invoke host args = ((new settings).performAll calls).assemble.run host args := by
  rw [build_of_succeed (succeed_of_build h)] at h
  obtain ⟨r, hr, hinvoke⟩ := realize_of_finishType hreal rfl h
  rw [hinvoke, invoke_eq_run hr]

/-! ### A literal and a word -/

section

variable {push call : Call} {x : Value} {w : Word} {t : Ty}

/-- The compiler after a literal and a word that takes it and has no result. -/
theorem add_application (settings : Settings) (x : Value) (hparams : w.params = [t])
    (hresult : w.result = none) :
    ((new settings).addAll [.literal x, .word w]).assemble =
      ⟨[], some ⟨[], [.invoke w.name (.const (some w.fn)) [coerce (.const (some x)) t]]⟩⟩ := by
  simp only [addAll, List.foldl, add_word]
  simp [assemble, add, new, operation, operands, fresh, newTemp, numbered, hparams, hresult]

variable (hreal : settings.realizer = routineRealizer) (hpush : push.instr? = some (.literal x))
  (hcall : call.instr? = some (.word w)) (hparams : w.params = [t]) (hresult : w.result = none)

include hpush hcall in
theorem carriedOut_application (h : (new settings).Succeed [push, call]) :
    (new settings).carriedOut [push, call] = [.literal x, .word w] := by
  rw [carriedOut_of_succeed h]
  simp [hpush, hcall]

include hreal hpush hcall hparams hresult

/-- **Building the program** decides whether the literal fits the parameter of the word, whether it
is the application or the finishing that looks at it. -/
theorem build_application (st : Store) :
    ((new settings).build st (some (.func [] [] false)) [push, call]).Decides (x.type.Binds t) := by
  obtain ⟨hpr, hpc⟩ := perform_literal hpush (c := new settings) rfl
  have hformed : ((new settings).add (.literal x)).Formed := (formed_new settings).add _
  have hadmits : ((new settings).add (.literal x)).Admits (.word w) ↔ x.type.Binds t := by
    rw [Admits, hparams]
    exact List.forall_mem_singleton.trans (bindable_iff rfl)
  rcases hformed.perform_instr rfl hcall with ⟨-, hr, hc⟩ | ⟨-, hnot, e, fault, hr, he⟩
  · have hsucceed : (new settings).Succeed [push, call] :=
      ⟨by rw [hpr]; rfl, by rw [hpc, hr]; rfl, trivial⟩
    have hall : (new settings).performAll [push, call] =
        (new settings).addAll [.literal x, .word w] := by
      rw [performAll, hpc, performAll, hc]
      rfl
    have hopen : ((new settings).performAll [push, call]).finished = false := by
      rw [hall, finished_addAll]
      rfl
    have hmatches : ((new settings).performAll [push, call]).assemble.Matches
        (some (.func [] [] false)) := by
      rw [hall, add_application settings x hparams hresult]
      exact ⟨[], rfl, rfl⟩
    rw [build_of_succeed hsucceed]
    refine (finishType_decides hreal hopen hmatches st).congr ?_
    rw [Fits, carriedOut_application hpush hcall hsucceed, ← hadmits]
    exact (popped_cons _ _ _).trans ((and_iff_right trivial).trans
      ((popped_cons _ _ _).trans (and_iff_left (by simp [popped]))))
  · refine .inr ⟨fun h => hnot (hadmits.mpr h), e, fault, ?_, he⟩
    rw [build, hpr, hpc, build, build, hr]
    rfl

variable {fn : Callable}
  (hfn : (new settings).build st (some (.func [] [] false)) [push, call] = .ok fn)

include hfn

/-- **The program** makes an operand of the literal and calls the word with it. -/
theorem invoke_application (host : Host) :
    fn.invoke host [] = Machine.operand x t >>= fun y => w.fn.call host [y] >>= fun _ =>
      pure () := by
  have hsucceed := succeed_of_build hfn
  rw [build_of_succeed hsucceed] at hfn
  have hargs : (some (Ty.func [] [] false)).bind Ty.func? =
      some (([] : List Value).map (·.type), [], false) := rfl
  rw [invoke_eq_carriedOut hreal rfl hfn hargs host, carriedOut_application hpush hcall hsucceed]
  simp [Machine.run, Machine.execAll, Machine.exec, Machine.fill, hparams, hresult]

omit hreal in
/-- The call of the word is the only one that the program comes to. -/
theorem calls_application (host : Host) (s s' : Store) (f : Value) (vs : List Value) :
    ((new settings).performAll [push, call]).assemble.Calls host [] s s' f vs ↔
      ∃ y, (Machine.operand x t).Yields s y s' ∧ f = w.fn ∧ vs = [y] := by
  have hsucceed := succeed_of_build hfn
  rw [assemble_performAll, carriedOut_application hpush hcall hsucceed,
    add_application settings x hparams hresult]
  have hoperand : ∀ sc fr, (coerce (.const (some x)) t).eval host sc fr = Machine.operand x t :=
    fun sc fr => eval_coerce rfl (by rw [Expr.eval]) t
  -- an operand is a constant in at most one conversion, so no func is called for it
  have hquiet : ∀ sc fr s s', ¬ (coerce (.const (some x)) t).Reaches host sc fr s s'
      (.call f vs) := by
    intro sc fr s s' h
    rw [coerce_of_type (s := x.type) rfl] at h
    split at h <;> simp [Expr.Reaches] at h
  constructor
  · rintro ⟨pt, ⟨body, temps, hbody, hunset, hreach⟩, rfl, hact⟩
    cases hbody
    rcases hreach with ⟨-, hreach⟩ | ⟨fr', s₁, -, hreach⟩
    · rw [hact, Expr.StepReaches] at hreach
      rcases hreach with hin | ⟨ys, s₁, hys, hin | ⟨g, hg, hcalls | ⟨-, hcalls⟩⟩⟩
      · simp only [Expr.ReachesAny, and_false, exists_false, or_false] at hin
        exact absurd hin (hquiet _ _ _ _)
      · simp [Expr.Reaches] at hin
      · rw [Expr.eval, Run.yields_pure] at hg
        obtain ⟨rfl, rfl⟩ := hg
        cases hcalls
        simp only [Expr.evalAll, pure_bind, Run.yields_bind, Run.yields_pure, hoperand] at hys
        obtain ⟨y, s₂, hy, rfl, rfl⟩ := hys
        exact ⟨y, hy, rfl, rfl⟩
      · cases hcalls
    · exact hreach.elim
  · rintro ⟨y, hy, rfl, rfl⟩
    refine ⟨⟨⟨[], []⟩, s', .call w.fn [y]⟩, ⟨_, [], rfl, rfl, .inl ⟨rfl, ?_⟩⟩, rfl, rfl⟩
    rw [Expr.StepReaches]
    refine .inr ⟨[y], s', ?_, .inr ⟨w.fn, ?_, .inl rfl⟩⟩
    · simp only [Expr.evalAll, pure_bind, Run.yields_bind, Run.yields_pure, hoperand]
      exact ⟨y, s', hy, rfl, rfl⟩
    · rw [Expr.eval, Run.yields_pure]
      exact ⟨rfl, rfl⟩

end

/-! ### The two programs -/

/-- A value that is pushed under its own type. -/
theorem literal_direct (v : Value) :
    (Call.push (some v) (some v.type)).instr? = some (.literal v) := by
  simp [Call.instr?, literal, v.type.assignable_self, v.stored_self, Except.toOption]

/-- A value that is pushed under an interface. -/
theorem literal_boxed {v : Value} (hbox : v.type.isInterface = false) {i : Interface}
    (hi : v.type.implements i = true) : (Call.push (some v) (some (.interface i))).instr? =
      some (.literal ⟨.interface i, .boxed v.type v.data⟩) := by
  have hassignable : v.type.assignable (.interface i) = true := by
    rw [Ty.assignable, Ty.boxes, hi, Bool.or_true]
  have hstored : v.stored (.interface i) = .boxed v.type v.data := by
    rw [Value.stored_eq_assigned hassignable]
    show v.boxed = _
    rw [Value.boxed, hbox]
    rfl
  simp [Call.instr?, literal, hassignable, hstored, Except.toOption]

/-- **Direct and boxed operands agree.** A value `v`, of a type that is no interface, is pushed
under its own type or under an interface that its type implements, and a word takes it as a `t`,
which is held by itself. The boxed program can always be built. The direct one can be built, or is
refused for a mismatch of types, and refused it is just if an invocation of the boxed one, anywhere
and from any store, breaks off with a mismatch of types and calls nothing; if the word never breaks
off that way itself, just if the invocation does. And if the direct program can be built, the two do
the same: they call the word with the same operand in the same store, give rise to the same events,
leave the same store, and return or panic alike. -/
theorem boxed_agrees {settings : Settings} (hreal : settings.realizer = routineRealizer)
    {v : Value} (hv : v.Proper) (hbox : v.type.isInterface = false) {i : Interface}
    (hi : v.type.implements i = true) {t : Ty} (ht : t.isValue = true) {w : Word} {call : Call}
    (hcall : call.instr? = some (.word w)) (hparams : w.params = [t]) (hresult : w.result = none)
    {direct boxed : List Call} (hdirect : direct = [.push (some v) (some v.type), call])
    (hboxed : boxed = [.push (some v) (some (.interface i)), call]) {st : Store}
    {rd rb : Check Callable}
    (hrd : (new settings).build st (some (.func [] [] false)) direct = rd)
    (hrb : (new settings).build st (some (.func [] [] false)) boxed = rb) :
    ∃ fb, rb = .ok fb ∧ ((∃ fd, rd = .ok fd) ∨ rd.Mismatches) ∧ ∀ host s,
      fb.invoke host [] = ((new settings).performAll boxed).assemble.run host [] ∧
      (rd.Mismatches ↔ (fb.invoke host []).Mismatches s ∧
        ∀ s' f vs, ¬ ((new settings).performAll boxed).assemble.Calls host [] s s' f vs) ∧
      (w.Clean host → (rd.Mismatches ↔ (fb.invoke host []).Mismatches s)) ∧
      ∀ fd, rd = .ok fd →
        fd.invoke host [] = ((new settings).performAll direct).assemble.run host [] ∧
        fd.invoke host [] = fb.invoke host [] ∧
        ∀ s' f vs, ((new settings).performAll direct).assemble.Calls host [] s s' f vs ↔
          ((new settings).performAll boxed).assemble.Calls host [] s s' f vs := by
  subst hdirect hboxed
  have hlitd := literal_direct v
  have hlitb := literal_boxed hbox hi
  -- the boxed program is not checked, and the direct one is for the conversion
  have hdecides : rd.Decides (v.type.convertible t = true) :=
    hrd ▸ (build_application hreal hlitd hcall hparams hresult st).congr (Ty.binds_direct hbox ht)
  have hrefused : rd.Mismatches ↔ v.type.convertible t = false := by
    rw [hdecides.mismatches_iff, Bool.not_eq_true]
  obtain ⟨fb, hfb⟩ := (build_application hreal hlitb hcall hparams hresult st).ok_iff.mpr
    (.inr (.inl ⟨.inr ht, rfl⟩))
  have hinvoke := invoke_application hreal hlitb hcall hparams hresult hfb
  have hcalls := calls_application hlitb hcall hparams hresult hfb
  simp only [Machine.operand_boxed v ht i] at hinvoke hcalls
  -- the boxed program breaks off with a mismatch in the conversion, or in the word
  have hbreaks : ∀ host s, (fb.invoke host []).Mismatches s ↔ v.type.convertible t = false ∨
      ∃ y s₁, (v.convert t).Yields s y s₁ ∧ (w.fn.call host [y]).Mismatches s₁ := by
    intro host s
    rw [hinvoke, Run.mismatches_bind, Value.convert_mismatches ht]
    simp only [Run.mismatches_discard]
  refine ⟨fb, hrb ▸ hfb, ?_, fun host s => ⟨run_of_build hreal hfb host [], ?_, fun hclean => ?_,
    fun fd hfd => ⟨run_of_build hreal (hrd.trans hfd) host [], ?_, ?_⟩⟩⟩
  · rcases hdecides with ⟨-, hok⟩ | ⟨-, hmismatch⟩
    · exact .inl hok
    · exact .inr hmismatch
  · rw [hrefused, hbreaks]
    constructor
    · intro hconv
      refine ⟨.inl hconv, fun s' f vs h => ?_⟩
      obtain ⟨y, hy, -⟩ := (hcalls host s s' f vs).mp h
      exact Value.not_yields_convert hconv hy
    · rintro ⟨hconv | ⟨y, s₁, hy, -⟩, hnone⟩
      · exact hconv
      · exact absurd ((hcalls host s s₁ w.fn [y]).mpr ⟨y, hy, rfl, rfl⟩) (hnone _ _ _)
  · rw [hrefused, hbreaks]
    refine ⟨.inl, fun h => h.resolve_right ?_⟩
    rintro ⟨y, s₁, -, hmismatch⟩
    exact hclean [y] s₁ hmismatch
  · rw [invoke_application hreal hlitd hcall hparams hresult (hrd.trans hfd),
      Machine.operand_direct hv hbox ht, hinvoke]
  · intro s' f vs
    rw [calls_application hlitd hcall hparams hresult (hrd.trans hfd),
      Machine.operand_direct hv hbox ht, hcalls]

end Compiler

end

namespace Compiler

open scoped Catalogue

/-- An integer is pushed as a value of type `given`, and a word takes it as a `param`. -/
def applied (given param : Ty) : List Call :=
  [.push (some ⟨.int, .int 3⟩) (some given),
    .apply (Dictionary.host []) (some ⟨.func [param] [] false, .func 0 []⟩)]

/-- For a text the integer is refused, or the invocation breaks off; for a floating-point number it
makes no difference whether it is in an interface. -/
theorem boxed_agrees_int :
    (((new {}).build .empty (some (.func [] [] false)) (applied .int .string)).Mismatches ∧
      ∃ fb, (new {}).build .empty (some (.func [] [] false)) (applied .any .string) = .ok fb ∧
        ∀ host s, (fb.invoke host []).Mismatches s) ∧
    ∃ fd fb,
      (new {}).build .empty (some (.func [] [] false)) (applied .int (.basic .float64)) = .ok fd ∧
      (new {}).build .empty (some (.func [] [] false)) (applied .any (.basic .float64)) = .ok fb ∧
      ∀ host, fd.invoke host [] = fb.invoke host [] := by
  have hproper : Value.Proper ⟨.int, .int 3⟩ := by
    intro b hb
    cases hb
    exact ⟨3, rfl, by decide, by decide⟩
  have hany : Ty.int.implements .any = true := rfl
  have hword : ∀ t : Ty, ∃ w, (Call.apply (Dictionary.host [])
      (some ⟨.func [t] [] false, .func 0 []⟩)).instr? = some (.word w) ∧ w.params = [t] ∧
      w.result = none := fun t => ⟨_, rfl, rfl, rfl⟩
  have hreal : ({} : Settings).realizer = routineRealizer := rfl
  constructor
  · have hrd : ((new {}).build .empty (some (.func [] [] false))
        (applied .int .string)).Mismatches := ⟨_, _, rfl, rfl⟩
    obtain ⟨w, hcall, hparams, hresult⟩ := hword .string
    obtain ⟨fb, hfb, -, h⟩ :=
      boxed_agrees hreal hproper rfl hany rfl hcall hparams hresult rfl rfl rfl rfl
    exact ⟨hrd, fb, hfb, fun host s => ((h host s).2.1.mp hrd).1⟩
  · obtain ⟨fd, hfd⟩ : ∃ fd, (new {}).build .empty (some (.func [] [] false))
        (applied .int (.basic .float64)) = .ok fd := ⟨_, rfl⟩
    obtain ⟨w, hcall, hparams, hresult⟩ := hword (.basic .float64)
    obtain ⟨fb, hfb, -, h⟩ :=
      boxed_agrees hreal hproper rfl hany rfl hcall hparams hresult rfl rfl hfd rfl
    exact ⟨fd, fb, hfd, hfb, fun host => ((h host .empty).2.2.2 fd rfl).2.1⟩

end Compiler

end Tacit
